import CloudAudit.Text.Blank

namespace CloudAudit.Text

def digitZeros : List Nat := [
  0x30, 0x660, 0x6F0, 0x7C0, 0x966, 0x9E6, 0xA66, 0xAE6, 0xB66, 0xBE6, 0xC66, 0xCE6, 0xD66,
  0xDE6, 0xE50, 0xED0, 0xF20, 0x1040, 0x1090, 0x17E0, 0x1810, 0x1946, 0x19D0, 0x1A80, 0x1A90,
  0x1B50, 0x1BB0, 0x1C40, 0x1C50, 0xA620, 0xA8D0, 0xA900, 0xA9D0, 0xA9F0, 0xAA50, 0xABF0, 0xFF10,
  0x104A0, 0x10D30, 0x11066, 0x110F0, 0x11136, 0x111D0, 0x112F0, 0x11450, 0x114D0, 0x11650,
  0x116C0, 0x11730, 0x118E0, 0x11950, 0x11C50, 0x11D50, 0x11DA0, 0x16A60, 0x16AC0, 0x16B50,
  0x1D7CE, 0x1D7D8, 0x1D7E2, 0x1D7EC, 0x1D7F6, 0x1E140, 0x1E2F0, 0x1E950, 0x1FBF0]

def digitValue? (c : Char) : Option Nat :=
  if c.toNat < 0x80 then
    if c.isDigit then some (c.toNat - 0x30) else none
  else
    (digitZeros.find? fun start => start ≤ c.toNat && c.toNat < start + 10).map (c.toNat - ·)

/-- Whether the character is a decimal digit of some script. -/
def isDecimalDigit (c : Char) : Bool := (digitValue? c).isSome

/-- The digits after a first one, each possibly behind an underscore, and what follows them. -/
def moreDigits : List Char → List Nat × List Char
  | [] => ([], [])
  | '_' :: c :: cs =>
    match digitValue? c with
    | some d =>
      let (ds, rest) := moreDigits cs
      (d :: ds, rest)
    | none => ([], '_' :: c :: cs)
  | c :: cs =>
    match digitValue? c with
    | some d =>
      let (ds, rest) := moreDigits cs
      (d :: ds, rest)
    | none => ([], c :: cs)

/-- The longest run of digits at the start of a text and what follows it. -/
def leadingDigits : List Char → List Nat × List Char
  | [] => ([], [])
  | c :: cs =>
    match digitValue? c with
    | some d =>
      let (ds, rest) := moreDigits cs
      (d :: ds, rest)
    | none => ([], c :: cs)

/-- The number that decimal digits write, highest first. -/
def ofDigits (ds : List Nat) : Nat := ds.foldl (fun n d => 10 * n + d) 0

/-- Splits an optional sign off a numeral; the flag tells a minus sign. -/
def leadingSign : List Char → Bool × List Char
  | '-' :: cs => (true, cs)
  | '+' :: cs => (false, cs)
  | cs => (false, cs)

def maxNumeralDigits : Nat := 4300

inductive NumeralFault where
  | malformed
  | tooLong (digits : Nat)
  deriving DecidableEq, Repr

/-- Reads a text as an integer. Too long a run of digits is told before what follows it is looked
at, unless that is an underscore. -/
def readInt (cs : List Char) : Except NumeralFault Int :=
  let (negative, body) := leadingSign (trimBy isSpace cs)
  match leadingDigits body with
  | ([], _) | (_, '_' :: _) => .error .malformed
  | (ds, rest) =>
    if maxNumeralDigits < ds.length then .error (.tooLong ds.length)
    else if rest.isEmpty then .ok (if negative then -(ofDigits ds : Int) else ofDigits ds)
    else .error .malformed

/-- Reads a text as an integer, without telling why it fails. -/
def readInt? (cs : List Char) : Option Int := (readInt cs).toOption

/-- Parts of a decimal number: its digits before and after the point and its power of ten. -/
structure DecimalNumeral where
  negative : Bool
  whole : List Nat
  fraction : List Nat
  exponent : Int

inductive DecimalText where
  | finite (value : DecimalNumeral)
  | infinite (negative : Bool)
  | nan

def readExponent? : List Char → Option Int
  | [] => some 0
  | c :: cs =>
    if c = 'e' ∨ c = 'E' then
      let (negative, body) := leadingSign cs
      match leadingDigits body with
      | ([], _) => none
      | (ds, []) => some (if negative then -(ofDigits ds : Int) else ofDigits ds)
      | _ => none
    else none

/-- Reads an unsigned decimal number such as `12.5e-3`; one of the two digit runs may be missing. -/
def readUnsignedDecimal? (negative : Bool) (cs : List Char) : Option DecimalNumeral :=
  let (whole, rest) := leadingDigits cs
  let (fraction, rest) := match rest with
    | '.' :: rest => leadingDigits rest
    | rest => ([], rest)
  if whole.isEmpty && fraction.isEmpty then none
  else (readExponent? rest).map fun exponent => ⟨negative, whole, fraction, exponent⟩

/-- Reads a text as a decimal number, an infinity or the mark that it is no number. -/
def readDecimal? (cs : List Char) : Option DecimalText :=
  let (negative, body) := leadingSign (trimBy isSpace cs)
  let word := String.ofList (body.map Char.toLower)
  if word = "inf" ∨ word = "infinity" then some (.infinite negative)
  else if word = "nan" then some .nan
  else (readUnsignedDecimal? negative body).map .finite

end CloudAudit.Text
