import CloudAudit.Number.Text
import CloudAudit.Proofs.Text.Blank
import CloudAudit.Text.Numeral

namespace CloudAudit.Text

variable {ds : List Char} {c : Char} {n acc : Nat}

/-- ASCII digits, not more than may be read, that write a number. -/
structure Decimal (ds : List Char) (n : Nat) : Prop where
  nonempty : ds ≠ []
  digits : ∀ c ∈ ds, c.isDigit = true
  length : ds.length ≤ maxNumeralDigits
  value : Nat.ofDigitChars 10 ds 0 = n

theorem digit_bounds (h : c.isDigit = true) : 48 ≤ c.toNat ∧ c.toNat ≤ 57 :=
  Char.isDigit_iff_toNat.mp h

theorem not_isBlank_of_isDigit (h : c.isDigit = true) : isBlank c = false := by
  have hc : c.toNat < 0x80 := Nat.lt_of_le_of_lt (digit_bounds h).2 (by decide)
  revert h
  apply forall_ascii (motive := fun c => c.isDigit = true → isBlank c = false) _ hc
  decide +kernel

theorem digitChar_of_isDigit (h : c.isDigit = true) : Nat.digitChar (c.toNat - 48) = c := by
  have hc := digit_bounds h
  apply Char.toNat_inj.mp
  rw [Nat.toNat_digitChar_of_lt_ten (by omega)]
  omega

theorem toDigits_append_digits (h : ∀ c ∈ ds, c.isDigit = true) (hacc : 0 < acc) :
    Nat.toDigits 10 acc ++ ds = Nat.toDigits 10 (Nat.ofDigitChars 10 ds acc) := by
  induction ds generalizing acc with
  | nil => exact List.append_nil _
  | cons c ds ih =>
    obtain ⟨hc, hds⟩ := List.forall_mem_cons.mp h
    have hvalue : c.toNat - 48 < 10 := by
      have := digit_bounds hc
      omega
    have hstep := Nat.toDigits_append_toDigits (by decide) hacc hvalue
    rw [Nat.toDigits_of_lt_base hvalue, digitChar_of_isDigit hc] at hstep
    rw [Nat.ofDigitChars_cons, ← List.singleton_append, ← List.append_assoc, hstep]
    apply ih hds
    omega

theorem Decimal.eq_toDigits (h : Decimal ds n) (hzero : 1 < ds.length → ds.head? ≠ some '0') :
    ds = Nat.toDigits 10 n := by
  obtain ⟨c, ds, rfl⟩ := List.exists_cons_of_ne_nil h.nonempty
  obtain ⟨hc, hds⟩ := List.forall_mem_cons.mp h.digits
  have hbounds := digit_bounds hc
  have hfirst : Nat.toDigits 10 (c.toNat - 48) = [c] := by
    rw [Nat.toDigits_of_lt_base (by omega), digitChar_of_isDigit hc]
  have hvalue := h.value
  rw [Nat.ofDigitChars_cons, Nat.mul_zero, Nat.zero_add] at hvalue
  cases ds with
  | nil =>
    rw [← hvalue]
    exact hfirst.symm
  | cons d ds =>
    have hne : c ≠ '0' := by
      intro he
      apply hzero (Nat.one_lt_succ_succ _)
      rw [he]
      rfl
    have hpos : 0 < c.toNat - 48 := by
      have : c.toNat ≠ 48 := fun he => hne (Char.toNat_inj.mp he)
      omega
    rw [← hvalue, ← List.singleton_append, ← hfirst]
    exact toDigits_append_digits hds hpos

theorem Decimal.not_mem (h : Decimal ds n) (hc : c.isDigit = false) : c ∉ ds := by
  intro hmem
  have hdigit := h.digits c hmem
  rw [hc] at hdigit
  cases hdigit

end CloudAudit.Text

namespace CloudAudit.Number

variable {width n : Nat} {c : Char}

theorem toList_padded (width n : Nat) : (padded width n).toList =
    List.replicate (width - (Nat.toDigits 10 n).length) '0' ++ Nat.toDigits 10 n := by
  have hdigits : toString n = String.ofList (Nat.toDigits 10 n) := Nat.toString_eq_ofList_toDigits
  rw [padded, hdigits, String.length_ofList, String.toList_append, String.toList_ofList,
    String.toList_ofList]

theorem isDigit_of_mem_padded (h : c ∈ (padded width n).toList) : c.isDigit = true := by
  rw [toList_padded, List.mem_append] at h
  rcases h with h | h
  · rw [List.eq_of_mem_replicate h]
    rfl
  · exact Nat.isDigit_of_mem_toDigits (by decide) (by decide) h

theorem length_padded (hwidth : 0 < width) (h : n < Nat.pow 10 width) :
    (padded width n).toList.length = width := by
  have hlength := (Nat.length_toDigits_le_iff (b := 10) (by decide) hwidth).mpr h
  rw [toList_padded, List.length_append, List.length_replicate]
  omega

theorem ofDigitChars_padded (width n : Nat) :
    Nat.ofDigitChars 10 (padded width n).toList 0 = n := by
  rw [toList_padded, Nat.ofDigitChars_append, Nat.ofDigitChars_replicate_zero, Nat.mul_zero,
    Nat.ofDigitChars_ten_toDigits]

end CloudAudit.Number
