namespace CloudAudit.Number

/-- What a double stands for; a finite one is `± mantissa · 2 ^ exponent`. -/
inductive Binary where
  | finite (negative : Bool) (mantissa : Nat) (exponent : Int)
  | infinite (negative : Bool)
  | nan
  deriving DecidableEq, Repr

/-- The leading bit of a mantissa, which the 52 bits of a double's fraction leave out. -/
def hiddenBit : Nat := Nat.pow 2 52

def signBit : Nat := Nat.pow 2 63

def Binary.ofFloat (x : Float) : Binary :=
  let bits := x.toBits.toNat
  let negative := bits / signBit == 1
  let exponent : Nat := bits / hiddenBit % 2048
  let fraction := bits % hiddenBit
  if exponent = 2047 then
    if fraction = 0 then .infinite negative else .nan
  else if exponent = 0 then .finite negative fraction (-1074)
  else .finite negative (hiddenBit + fraction) (exponent - 1075)

def isFinite (x : Float) : Bool :=
  match Binary.ofFloat x with
  | .finite .. => true
  | _ => false

/-- A fraction that is not negative, with a positive denominator. -/
structure Ratio where
  num : Nat
  den : Nat
  den_pos : 0 < den

/-- The fraction `m · 2 ^ e`. -/
def Ratio.dyadic (m : Nat) (e : Int) : Ratio :=
  if 0 ≤ e then ⟨m * Nat.pow 2 e.toNat, 1, Nat.one_pos⟩
  else ⟨m, Nat.pow 2 (-e).toNat, Nat.two_pow_pos _⟩

/-- The fraction `r / 10 ^ k`. -/
def Ratio.shift (r : Ratio) (k : Int) : Ratio :=
  if 0 ≤ k then ⟨r.num, r.den * Nat.pow 10 k.toNat, Nat.mul_pos r.den_pos (Nat.pow_pos (by decide))⟩
  else ⟨r.num * Nat.pow 10 (-k).toNat, r.den, r.den_pos⟩

/-- The nearest whole number; a half goes to the even neighbour. -/
def Ratio.round (r : Ratio) : Nat :=
  let q := r.num / r.den
  let rest := 2 * (r.num % r.den)
  if r.den < rest ∨ (rest = r.den ∧ q % 2 = 1) then q + 1 else q

/-- The largest whole number that is not above the fraction. -/
def Ratio.floor (r : Ratio) : Nat := r.num / r.den

/-- A double from its sign and the nearest 53-bit mantissa of a fraction; too large is infinite. -/
def nearestFloat (negative : Bool) (r : Ratio) : Float :=
  if r.num = 0 then (if negative then -0.0 else 0.0)
  else
    let guess : Int := (r.num.log2 : Int) - (r.den.log2 : Int) - 52
    let scaled (e : Int) : Nat :=
      (if 0 ≤ e then
        (⟨r.num, r.den * Nat.pow 2 e.toNat, Nat.mul_pos r.den_pos (Nat.two_pow_pos _)⟩ : Ratio)
      else ⟨r.num * Nat.pow 2 (-e).toNat, r.den, r.den_pos⟩).round
    -- The quotient of the leading bits is off by at most one bit.
    let e := max (-1074) (if scaled guess < hiddenBit then guess - 1 else guess)
    let m := scaled e
    let bits : Nat := (e + 1074).toNat * hiddenBit + m
    let bits := min bits (2047 * hiddenBit)
    Float.ofBits (UInt64.ofNat (if negative then signBit + bits else bits))

def floatOfInt (n : Int) : Float := nearestFloat (n < 0) ⟨n.natAbs, 1, Nat.one_pos⟩

/-- The double nearest to a quotient of whole numbers; zero below the line counts as one. -/
def floatOfQuotient (a b : Int) : Float :=
  nearestFloat (decide (a < 0) != decide (b < 0))
    ⟨a.natAbs, max b.natAbs 1, Nat.lt_of_lt_of_le Nat.zero_lt_one (Nat.le_max_right ..)⟩

/-- The double nearest to `± m · 10 ^ e`. Beyond the range of doubles no power is computed. -/
def floatOfDecimal (negative : Bool) (m : Nat) (e : Int) : Float :=
  let size : Int := m.log2 * 30103 / 100000 + e
  if m = 0 ∨ size < -400 then (if negative then -0.0 else 0.0)
  else if 400 < size then
    Float.ofBits (UInt64.ofNat ((if negative then signBit else 0) + 2047 * hiddenBit))
  else nearestFloat negative ((⟨m, 1, Nat.one_pos⟩ : Ratio).shift (-e))

/-- The whole number next to zero from a finite double; `none` for the others. -/
def truncate? (x : Float) : Option Int :=
  match Binary.ofFloat x with
  | .finite negative m e =>
    let n : Nat := (Ratio.dyadic m e).floor
    some (if negative then -(n : Int) else n)
  | _ => none

/-- The whole number nearest to a finite double; `none` for the others. -/
def round? (x : Float) : Option Int :=
  match Binary.ofFloat x with
  | .finite negative m e =>
    let n : Nat := (Ratio.dyadic m e).round
    some (if negative then -(n : Int) else n)
  | _ => none

/-- The whole number that a double equals, if it equals one. -/
def exactInt? (x : Float) : Option Int :=
  match Binary.ofFloat x with
  | .finite negative m e =>
    let r := Ratio.dyadic m e
    if r.num % r.den = 0 then
      let n : Nat := r.num / r.den
      some (if negative then -(n : Int) else n)
    else none
  | _ => none

/-- The double nearest to the decimal number with `places` decimals that is nearest to `x`. -/
def roundPlaces (places : Nat) (x : Float) : Float :=
  match Binary.ofFloat x with
  | .finite negative m e =>
    floatOfDecimal negative ((Ratio.dyadic m e).shift (-places)).round (-places)
  | _ => x

end CloudAudit.Number
