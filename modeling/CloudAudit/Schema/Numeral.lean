import CloudAudit.Number.Text
import CloudAudit.Text.Blank

namespace CloudAudit.Schema.Numeral

inductive Fault where
  | malformed
  | tooLong
  deriving DecidableEq, Repr

def maxLength : Nat := 4300

/-- Reads digits, which end the text. A sign before them counts towards the length, and too long a
run is told before what follows it is looked at. -/
def digits (signLength : Nat) (cs : List Char) : Except Fault Nat :=
  let ds := cs.takeWhile Char.isDigit
  if maxLength < signLength + ds.length then .error .tooLong
  else if ds.length < cs.length then .error .malformed
  else .ok (ds.foldl (fun n c => 10 * n + (c.toNat - 0x30)) 0)

def plain : List Char → Except Fault Int
  | [] | ['-'] => .error .malformed
  | ['0'] => .ok 0
  | '0' :: _ => .error .malformed
  | '-' :: cs => (digits 1 cs).map fun n => -(n : Int)
  | cs => (digits 0 cs).map Int.ofNat

/-- Whether a numeral without zeros in front can begin with a character. -/
def startsNumeral (c : Char) : Bool := c == '-' || (c.isDigit && c != '0')

/-- What follows zeros and underscores; the last of them stays before a point and at the end. -/
def afterZeros? (last : Char) : List Char → Option (List Char)
  | [] => some [last]
  | c :: cs =>
    if c = '0' ∨ c = '_' then afterZeros? c cs
    else if c = '.' then some (last :: c :: cs)
    else if startsNumeral c then some (c :: cs)
    else none

def dropZeros? : List Char → Option (List Char)
  | '0' :: cs => afterZeros? '0' cs
  | c :: cs => if startsNumeral c then some (c :: cs) else none
  | [] => none

def dropPlus? : List Char → Option (List Char)
  | '+' :: '-' :: _ => none
  | '+' :: cs => some cs
  | cs => some cs

/-- Drops a point and the zeros that end the text after it, of which there is at least one. -/
def dropZeroFraction (cs : List Char) : List Char :=
  match Text.cutAt? '.' cs with
  | some (whole, fraction) => if !fraction.isEmpty && fraction.all (· == '0') then whole else cs
  | none => cs

def hasDoubleUnderscore : List Char → Bool
  | '_' :: '_' :: _ => true
  | _ :: cs => hasDoubleUnderscore cs
  | [] => false

/-- Whether underscores stand alone and inside the text only. -/
def innerUnderscores (cs : List Char) : Bool :=
  cs.head? != some '_' && cs.getLast? != some '_' && !hasDoubleUnderscore cs

/-- Drops the underscores if they stand alone and inside the text. -/
def dropUnderscores (cs : List Char) : List Char :=
  if innerUnderscores cs then cs.filter (· != '_') else cs

def plainForm? (cs : List Char) : Option (List Char) := do
  let cs ← dropPlus? (Text.trimBy Text.isSpace cs)
  return dropUnderscores (dropZeroFraction (← dropZeros? cs))

def int (cs : List Char) : Except Fault Int :=
  match plain cs with
  | .error .malformed =>
    match plainForm? cs with
    | some cs => plain cs
    | none => .error .malformed
  | result => result

/-- Reads a text of ASCII letters, digits, points and signs as a double. -/
def plainFloat? (cs : List Char) : Option Float :=
  if cs.all fun c => c.isAlphanum || c == '.' || c == '+' || c == '-' then Number.ofText? cs
  else none

/-- Reads a text as a double. Spaces around it may be left out, or else underscores inside it. -/
def float? (cs : List Char) : Option Float :=
  (plainFloat? (Text.trimBy Text.isSpace cs)).or (plainFloat? (dropUnderscores cs))

end CloudAudit.Schema.Numeral
