import CloudAudit.Number.Digits
import CloudAudit.Text.Numeral

namespace CloudAudit.Number

/-- A number of at least `width` digits, filled with zeros from the left. -/
def padded (width n : Nat) : String :=
  let ds := toString n
  String.ofList (List.replicate (width - ds.length) '0') ++ ds

private def zeros (n : Nat) : String := String.ofList (List.replicate n '0')

/-- Positional writing of `digits · 10 ^ exponent`, without a point when there is no fraction. -/
def Scientific.positional (s : Scientific) : String :=
  if 0 ≤ s.exponent then toString s.digits ++ zeros s.exponent.toNat
  else
    let places := (-s.exponent).toNat
    let ds := padded (places + 1) s.digits
    (ds.take (ds.length - places)).toString ++ "." ++ (ds.drop (ds.length - places)).toString

/-- Writing with one digit before the point and a signed exponent of at least two digits. -/
def Scientific.exponential (s : Scientific) : String :=
  let ds := toString s.digits
  let e : Int := s.exponent + ds.length - 1
  let mantissa :=
    if ds.length = 1 then ds else (ds.take 1).toString ++ "." ++ (ds.drop 1).toString
  mantissa ++ (if e < 0 then "e-" else "e+") ++ padded 2 e.natAbs

/-- How a format writes what is no finite nonzero number, and where positional writing ends. -/
structure Style where
  zero : String
  /-- Whether a number whose leading digit stands for `10 ^ k` is written positionally. -/
  isPositional : Int → Bool
  /-- Whether positional whole numbers end in `.0`. -/
  pointZero : Bool

def Style.write (style : Style) (s : Scientific) : String :=
  let leading : Int := s.exponent + (toString s.digits).length - 1
  if style.isPositional leading then
    s.positional ++ (if style.pointZero && decide (0 ≤ s.exponent) then ".0" else "")
  else s.exponential

private def signed (negative : Bool) (s : String) : String := if negative then "-" ++ s else s

/-- Whole doubles end in `.0`; from `10 ^ 16` and below `10 ^ -4` they have an exponent. -/
def plainStyle : Style := ⟨"0.0", fun k => -4 ≤ k && k < 16, true⟩

/-- Six significant digits; from `10 ^ 6` and below `10 ^ -4` they have an exponent. -/
def generalStyle : Style := ⟨"0", fun k => -4 ≤ k && k < 6, false⟩

private def writeFloat (style : Style) (digits : Nat → Int → Scientific) (x : Float) : String :=
  match Binary.ofFloat x with
  | .nan => "nan"
  | .infinite negative => signed negative "inf"
  | .finite negative 0 _ => signed negative style.zero
  | .finite negative m e => signed negative (style.write (digits m e))

def plain (x : Float) : String := writeFloat plainStyle shortest x

/-- A double with at most six significant digits. -/
def general (x : Float) : String :=
  writeFloat generalStyle (fun m e => ((Ratio.dyadic m e).leading 6).strip 6) x

def twoPlaces (x : Float) : String :=
  match Binary.ofFloat x with
  | .nan => "nan"
  | .infinite negative => signed negative "inf"
  | .finite negative m e =>
    signed negative (⟨((Ratio.dyadic m e).shift (-2)).round, -2⟩ : Scientific).positional

def ofNumeral (n : Text.DecimalNumeral) : Float :=
  floatOfDecimal n.negative (Text.ofDigits (n.whole ++ n.fraction)) (n.exponent - n.fraction.length)

/-- The double that a text writes: a decimal numeral, an infinity or no number. -/
def ofText? (cs : List Char) : Option Float :=
  (Text.readDecimal? cs).map fun
    | .finite n => ofNumeral n
    | .infinite negative => if negative then -(1.0 / 0.0) else 1.0 / 0.0
    | .nan => 0.0 / 0.0

end CloudAudit.Number
