import Mathlib
import CloudAudit.Number.Binary

namespace CloudAudit.Number

open Float.Model

variable {x y : Float}

def Binary.ofUnpacked : UnpackedFloat → Binary
  | .infinity s => .infinite (s == .negative)
  | .notANumber => .nan
  | .zero s => .finite (s == .negative) 0 (-1074)
  | .finite s m e _ => .finite (s == .negative) m e

/-! ### The fields of the bits -/

section Fields

variable (bits : BitVec Format.binary64.numBits)

theorem unpackMantissa_toNat :
    (UnpackedFloat.unpackMantissa bits).toNat = bits.toNat % hiddenBit := by
  simp [UnpackedFloat.unpackMantissa, hiddenBit]

theorem unpackExponent_toNat :
    (UnpackedFloat.unpackExponent bits).toNat = bits.toNat / hiddenBit % 2048 := by
  simp [UnpackedFloat.unpackExponent, hiddenBit, Nat.shiftRight_eq_div_pow]

theorem unpackSign_toNat : (UnpackedFloat.unpackSign bits).toNat = bits.toNat / signBit := by
  have hlt : bits.toNat < 2 ^ 64 := bits.isLt
  simp [UnpackedFloat.unpackSign, signBit, Nat.shiftRight_eq_div_pow]
  omega

theorem signOf_eq :
    (UnpackedFloat.Sign.ofBitVec (UnpackedFloat.unpackSign bits) == .negative) =
      (bits.toNat / signBit == 1) := by
  rw [← unpackSign_toNat]
  generalize UnpackedFloat.unpackSign bits = s
  revert s
  decide

end Fields

theorem Binary.ofFloat_eq (x : Float) : Binary.ofFloat x = ofUnpacked x.toModel.unpack := by
  change Binary.ofFloat x = ofUnpacked (UnpackedFloat.unpack Format.binary64 x.toBits.toBitVec)
  have hsign := signOf_eq x.toBits.toBitVec
  have hmantissa := unpackMantissa_toNat x.toBits.toBitVec
  have hexponent := unpackExponent_toNat x.toBits.toBitVec
  rw [Binary.ofFloat, UnpackedFloat.unpack]
  simp only [UInt64.toNat_toBitVec] at hsign hmantissa hexponent
  simp only [← hsign, ← hmantissa, ← hexponent, ← BitVec.toNat_inj, BitVec.toNat_zero]
  have hall : (-1#11).toNat = 2047 := rfl
  rw [hall]
  split
  · split <;> rfl
  · split
    case isTrue hzero =>
      split
      case isTrue hm => rw [hm, ofUnpacked]
      case isFalse => rw [ofUnpacked, hzero]; rfl
    case isFalse =>
      have happend (m : BitVec 52) : (1#1 ++ m).toNat = hiddenBit + m.toNat := by
        rw [BitVec.toNat_append, ← Nat.shiftLeft_add_eq_or_of_lt m.isLt]
        simp [Nat.shiftLeft_eq, hiddenBit]
      rw [ofUnpacked, happend]
      rfl

/-! ### Above zero -/

def Binary.isPositive : Binary → Bool
  | .finite negative m _ => !negative && decide (0 < m)
  | .infinite negative => !negative
  | .nan => false

theorem unpack_zero : (0.0 : Float).toModel.unpack = .zero .positive := rfl

theorem lt_iff : x < y ↔ x.toModel.unpack.lt y.toModel.unpack = true := decide_eq_true_iff

theorem le_iff : x ≤ y ↔ x.toModel.unpack.le y.toModel.unpack = true := decide_eq_true_iff

theorem zero_lt_iff : 0.0 < x ↔ (Binary.ofFloat x).isPositive = true := by
  rw [lt_iff, unpack_zero, Binary.ofFloat_eq]
  cases x.toModel.unpack with
  | notANumber => exact ⟨nofun, nofun⟩
  | zero s => cases s <;> exact ⟨nofun, nofun⟩
  | infinity s =>
    cases s with
    | negative => exact ⟨nofun, nofun⟩
    | positive => exact ⟨fun _ => rfl, fun _ => rfl⟩
  | finite s m e hm =>
    cases s with
    | negative => exact ⟨nofun, nofun⟩
    | positive => exact ⟨fun _ => decide_eq_true hm, fun _ => rfl⟩

theorem not_le_zero_iff :
    ¬ x ≤ 0.0 ↔ (Binary.ofFloat x).isPositive = true ∨ Binary.ofFloat x = .nan := by
  rw [le_iff, unpack_zero, Binary.ofFloat_eq]
  cases x.toModel.unpack with
  | notANumber => exact ⟨fun _ => .inr rfl, fun _ => nofun⟩
  | zero s => cases s <;> exact ⟨fun h => absurd rfl h, nofun⟩
  | infinity s =>
    cases s with
    | negative => exact ⟨fun h => absurd rfl h, nofun⟩
    | positive => exact ⟨fun _ => .inl rfl, fun _ => nofun⟩
  | finite s m e hm =>
    cases s with
    | negative => exact ⟨fun h => absurd rfl h, nofun⟩
    | positive => exact ⟨fun _ => .inl (decide_eq_true hm), fun _ => nofun⟩

/-! ### Whole parts -/

def Binary.isFraction : Binary → Bool
  | .finite false m e => decide (0 < m ∧ (Ratio.dyadic m e).num < (Ratio.dyadic m e).den)
  | _ => false

theorem Ratio.one_le_floor_iff (r : Ratio) : 1 ≤ r.floor ↔ r.den ≤ r.num :=
  Nat.div_pos_iff.trans (and_iff_right r.den_pos)

theorem truncate?_of_isPositive {n : Int} (h : truncate? x = some n)
    (hx : (Binary.ofFloat x).isPositive = true) :
    0 ≤ n ∧ (1 ≤ n ↔ (Binary.ofFloat x).isFraction = false) := by
  rw [truncate?] at h
  cases hb : Binary.ofFloat x with
  | nan => rw [hb] at h; cases h
  | infinite negative => rw [hb] at h; cases h
  | finite negative m e =>
    rw [hb] at h hx
    obtain ⟨rfl, hm⟩ : negative = false ∧ 0 < m := by simpa [Binary.isPositive] using hx
    cases h
    refine ⟨Int.natCast_nonneg _, ?_⟩
    have hfloor := (Ratio.dyadic m e).one_le_floor_iff
    simp only [Binary.isFraction, hm, true_and, decide_eq_false_iff_not, Nat.not_lt]
    rw [← hfloor]
    exact Int.ofNat_le

end CloudAudit.Number
