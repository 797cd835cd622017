import CloudAudit.Number.Binary

namespace CloudAudit.Number

/-- Decimal digits and a power of ten: `digits · 10 ^ exponent`. -/
structure Scientific where
  digits : Nat
  exponent : Int
  deriving DecidableEq, Repr

/-- Moves trailing zeros of the digits into the exponent, at most `fuel` of them. -/
def Scientific.strip : Nat → Scientific → Scientific
  | 0, s => s
  | fuel + 1, s =>
    if s.digits ≠ 0 ∧ s.digits % 10 = 0 then strip fuel ⟨s.digits / 10, s.exponent + 1⟩ else s

/-- Raises `k` while `10 ^ k` is not above the fraction, at most `fuel` times. -/
def Ratio.raise (r : Ratio) : Nat → Int → Int
  | 0, k => k
  | fuel + 1, k =>
    let s := r.shift k
    if s.den ≤ s.num then r.raise fuel (k + 1) else k

/-- The number of digits before the point: the least `k` with the fraction below `10 ^ k`. -/
def Ratio.magnitude (r : Ratio) : Int :=
  let bits : Int := (r.num.log2 : Int) - (r.den.log2 : Int) - 1
  r.raise 4 (bits * 30103 / 100000)

/-- The nearest number with `count` leading digits; a half goes to the even neighbour. -/
def Ratio.leading (r : Ratio) (count : Nat) : Scientific :=
  let k := r.magnitude - count
  ⟨(r.shift k).round, k⟩

/-- The fractions that are nearest to one double, the ends counting when `closed`. -/
structure Interval where
  low : Ratio
  high : Ratio
  closed : Bool

def Ratio.below (a b : Ratio) (orEqual : Bool) : Bool :=
  a.num * b.den < b.num * a.den || (orEqual && a.num * b.den == b.num * a.den)

def Interval.holds (i : Interval) (r : Ratio) : Bool :=
  i.low.below r i.closed && r.below i.high i.closed

/-- The fractions that round to the double `m · 2 ^ e`; below a power of two the gap is halved. -/
def Interval.ofDyadic (m : Nat) (e : Int) : Interval where
  low :=
    if m = hiddenBit ∧ -1074 < e then .dyadic (4 * m - 1) (e - 2) else .dyadic (2 * m - 1) (e - 1)
  high := .dyadic (2 * m + 1) (e - 1)
  closed := m % 2 == 0

def Scientific.ratio (s : Scientific) : Ratio :=
  (⟨s.digits, 1, Nat.one_pos⟩ : Ratio).shift (-s.exponent)

/-- The neighbour of `r` on the grid of `count` digits that lies in the interval, the nearer if both
do. -/
def Interval.onGrid? (i : Interval) (r : Ratio) (count : Nat) : Option Scientific :=
  let k := r.magnitude - count
  let s := r.shift k
  let below : Scientific := ⟨s.floor, k⟩
  let above : Scientific := ⟨s.floor + 1, k⟩
  match i.holds below.ratio, i.holds above.ratio with
  | true, true => some ⟨s.round, k⟩
  | true, false => some below
  | false, true => some above
  | false, false => none

/-- The fewest digits that read back as the double `m · 2 ^ e`. -/
def shortest (m : Nat) (e : Int) : Scientific :=
  let r := Ratio.dyadic m e
  let i := Interval.ofDyadic m e
  (((List.range 17).findSome? fun n => i.onGrid? r (n + 1)).getD (r.leading 17)).strip 17

end CloudAudit.Number
