import CloudAudit.Json.Value
import CloudAudit.Number.Text
import CloudAudit.Text.Percent

namespace CloudAudit.Json

inductive ParseFault where
  | malformed
  | numeralTooLong (digits : Nat)
  /-- A list or an object stands in as many others as can be read. -/
  | nestedTooDeep (inList : Bool)
  deriving DecidableEq, Repr

namespace Parser

def skipBlanks (cs : List Char) : List Char :=
  cs.dropWhile fun c => c == ' ' || c == '\t' || c == '\n' || c == '\r'

def hex4? : List Char → Option (Nat × List Char)
  | a :: b :: c :: d :: cs => do
    let a ← Text.hexValue? a
    let b ← Text.hexValue? b
    let c ← Text.hexValue? c
    let d ← Text.hexValue? d
    some (((a * 16 + b) * 16 + c) * 16 + d, cs)
  | _ => none

/-- Reads what follows the `u` of an escape; two halves of a surrogate pair give one character. -/
def unicodeEscape? (cs : List Char) : Option (Char × List Char) := do
  let (hi, rest) ← hex4? cs
  if 0xD800 ≤ hi ∧ hi < 0xDC00 then
    match rest with
    | '\\' :: 'u' :: tail =>
      let (lo, after) ← hex4? tail
      if 0xDC00 ≤ lo ∧ lo < 0xE000 then
        some (Char.ofNat (0x10000 + (hi - 0xD800) * 0x400 + (lo - 0xDC00)), after)
      else some ('\uFFFD', rest)
    | _ => some ('\uFFFD', rest)
  else if 0xDC00 ≤ hi ∧ hi < 0xE000 then some ('\uFFFD', rest)
  else some (Char.ofNat hi, rest)

/-- The character that a one-letter escape stands for. -/
def plainEscape? : Char → Option Char
  | '"' => some '"'
  | '\\' => some '\\'
  | '/' => some '/'
  | 'b' => some '\x08'
  | 'f' => some '\x0c'
  | 'n' => some '\n'
  | 'r' => some '\r'
  | 't' => some '\t'
  | _ => none

/-- Reads a text after its opening quote, gathering its characters in reverse. -/
def string : Nat → List Char → List Char → Except ParseFault (String × List Char)
  | 0, _, _ => .error .malformed
  | _ + 1, _, [] => .error .malformed
  | _ + 1, acc, '"' :: cs => .ok (String.ofList acc.reverse, cs)
  | fuel + 1, acc, '\\' :: 'u' :: cs =>
    match unicodeEscape? cs with
    | some (c, rest) => string fuel (c :: acc) rest
    | none => .error .malformed
  | fuel + 1, acc, '\\' :: e :: cs =>
    match plainEscape? e with
    | some c => string fuel (c :: acc) cs
    | none => .error .malformed
  | fuel + 1, acc, c :: cs =>
    if c.toNat < 0x20 ∨ c = '\\' then .error .malformed else string fuel (c :: acc) cs

private def span (cs : List Char) : List Nat × List Char :=
  ((cs.takeWhile Char.isDigit).map (·.toNat - 0x30), cs.dropWhile Char.isDigit)

def exponent (cs : List Char) : Option Int × List Char :=
  match cs with
  | c :: tail =>
    if c = 'e' ∨ c = 'E' then
      let (negative, body) := Text.leadingSign tail
      match span body with
      | ([], _) => (none, cs)
      | (ds, rest) =>
        (some (if negative then -(Text.ofDigits ds : Int) else Text.ofDigits ds), rest)
    else (none, cs)
  | [] => (none, [])

def fraction (cs : List Char) : Option (List Nat) × List Char :=
  match cs with
  | '.' :: tail =>
    match span tail with
    | ([], _) => (none, cs)
    | (ds, rest) => (some ds, rest)
  | _ => (none, cs)

/-- Reads a number after its sign. Without fraction and exponent it is a whole number. -/
def number (negative : Bool) (cs : List Char) : Except ParseFault (Json × List Char) :=
  let (whole, rest) := match cs with
    | '0' :: tail => ([0], tail)
    | _ => span cs
  if whole.isEmpty then .error .malformed
  else
    let (frac, rest) := fraction rest
    let (exp, rest) := exponent rest
    match frac, exp with
    | none, none =>
      if Text.maxNumeralDigits < whole.length then .error (.numeralTooLong whole.length)
      else
        let n : Nat := Text.ofDigits whole
        .ok (.int (if negative then -(n : Int) else n), rest)
    | _, _ => .ok (.float (Number.ofNumeral ⟨negative, whole, frac.getD [], exp.getD 0⟩), rest)

/-- Reads one of the words that stand for values, or a number. -/
def scalar (cs : List Char) : Except ParseFault (Json × List Char) :=
  match cs with
  | 'n' :: 'u' :: 'l' :: 'l' :: rest => .ok (.null, rest)
  | 't' :: 'r' :: 'u' :: 'e' :: rest => .ok (.bool true, rest)
  | 'f' :: 'a' :: 'l' :: 's' :: 'e' :: rest => .ok (.bool false, rest)
  | 'N' :: 'a' :: 'N' :: rest => .ok (.float (0.0 / 0.0), rest)
  | 'I' :: 'n' :: 'f' :: 'i' :: 'n' :: 'i' :: 't' :: 'y' :: rest => .ok (.float (1.0 / 0.0), rest)
  | '-' :: 'I' :: 'n' :: 'f' :: 'i' :: 'n' :: 'i' :: 't' :: 'y' :: rest =>
    .ok (.float (-(1.0 / 0.0)), rest)
  | '-' :: rest => number true rest
  | _ => number false cs

mutual

/-- Reads a value in which lists and objects are nested up to some depth. -/
def value : (fuel nesting : Nat) → List Char → Except ParseFault (Json × List Char)
  | 0, _, _ => .error .malformed
  | fuel + 1, nesting, cs =>
    match cs with
    | '"' :: rest => do
      let (s, rest) ← string (rest.length + 1) [] rest
      .ok (.str s, rest)
    | '[' :: rest =>
      match nesting with
      | 0 => .error (.nestedTooDeep true)
      | nesting + 1 =>
        match skipBlanks rest with
        | ']' :: rest => .ok (.arr [], rest)
        | rest => do
          let (items, rest) ← items fuel nesting rest
          .ok (.arr items, rest)
    | '\x7b' :: rest =>
      match nesting with
      | 0 => .error (.nestedTooDeep false)
      | nesting + 1 =>
        match skipBlanks rest with
        | '\x7d' :: rest => .ok (.obj [], rest)
        | rest => do
          let (fields, rest) ← fields fuel nesting [] rest
          .ok (.obj fields, rest)
    | _ => scalar cs

def items : (fuel nesting : Nat) → List Char → Except ParseFault (List Json × List Char)
  | 0, _, _ => .error .malformed
  | fuel + 1, nesting, cs => do
    let (v, rest) ← value fuel nesting cs
    match skipBlanks rest with
    | ',' :: rest =>
      let (vs, rest) ← items fuel nesting (skipBlanks rest)
      .ok (v :: vs, rest)
    | ']' :: rest => .ok ([v], rest)
    | _ => .error .malformed

def fields : (fuel nesting : Nat) → Fields → List Char → Except ParseFault (Fields × List Char)
  | 0, _, _, _ => .error .malformed
  | fuel + 1, nesting, acc, cs =>
    match cs with
    | '"' :: rest => do
      let (name, rest) ← string (rest.length + 1) [] rest
      match skipBlanks rest with
      | ':' :: rest =>
        let (v, rest) ← value fuel nesting (skipBlanks rest)
        let acc := acc.put name v
        match skipBlanks rest with
        | ',' :: rest => fields fuel nesting acc (skipBlanks rest)
        | '\x7d' :: rest => .ok (acc, rest)
        | _ => .error .malformed
      | _ => .error .malformed
    | _ => .error .malformed

end

end Parser

/-- Reads a whole text as one JSON document. How deep it may be nested depends on the room that is
left on the stack of the caller. -/
def parse (nesting : Nat) (s : String) : Except ParseFault Json := do
  let cs := Parser.skipBlanks s.toList
  let (v, rest) ← Parser.value (2 * cs.length + 1) nesting cs
  if (Parser.skipBlanks rest).isEmpty then .ok v else .error .malformed

end CloudAudit.Json
