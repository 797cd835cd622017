import Mathlib.Data.String.Basic
import CloudAudit.Proofs.Text.Decimal

namespace CloudAudit.Number

open Text

variable {width m n acc acc' : Nat} {as bs xs ys : List Char}

theorem append_lt_append_iff (h : as.length = bs.length) :
    as ++ xs < bs ++ ys ↔ as < bs ∨ as = bs ∧ xs < ys := by
  induction as generalizing bs with
  | nil =>
    rw [List.length_nil, eq_comm, List.length_eq_zero_iff] at h
    subst h
    simp
  | cons a as ih =>
    cases bs with
    | nil => cases h
    | cons b bs =>
      have ih := ih (Nat.succ.inj h)
      rw [List.cons_append, List.cons_append, List.cons_lt_cons_iff, List.cons_lt_cons_iff, ih,
        List.cons.injEq]
      simp only [and_or_left, or_assoc, and_assoc]

theorem ofDigitChars_lt_of_acc (ha : ∀ c ∈ as, c.isDigit = true)
    (hb : ∀ c ∈ bs, c.isDigit = true) (hlength : as.length = bs.length) (h : acc < acc') :
    Nat.ofDigitChars 10 as acc < Nat.ofDigitChars 10 bs acc' := by
  induction as generalizing bs acc acc' with
  | nil =>
    rw [List.length_nil, eq_comm, List.length_eq_zero_iff] at hlength
    subst hlength
    exact h
  | cons a as ih =>
    cases bs with
    | nil => cases hlength
    | cons b bs =>
      obtain ⟨ha, has⟩ := List.forall_mem_cons.mp ha
      obtain ⟨hb, hbs⟩ := List.forall_mem_cons.mp hb
      have hda := digit_bounds ha
      have hdb := digit_bounds hb
      rw [Nat.ofDigitChars_cons, Nat.ofDigitChars_cons]
      exact ih has hbs (Nat.succ.inj hlength) (by omega)

theorem ofDigitChars_lt (ha : ∀ c ∈ as, c.isDigit = true) (hb : ∀ c ∈ bs, c.isDigit = true)
    (hlength : as.length = bs.length) (h : as < bs) :
    Nat.ofDigitChars 10 as acc < Nat.ofDigitChars 10 bs acc := by
  induction as generalizing bs acc with
  | nil =>
    rw [List.length_nil, eq_comm, List.length_eq_zero_iff] at hlength
    subst hlength
    exact absurd h (lt_irrefl _)
  | cons a as ih =>
    cases bs with
    | nil => cases hlength
    | cons b bs =>
      obtain ⟨ha, has⟩ := List.forall_mem_cons.mp ha
      obtain ⟨hb, hbs⟩ := List.forall_mem_cons.mp hb
      rw [Nat.ofDigitChars_cons, Nat.ofDigitChars_cons]
      obtain hab | ⟨rfl, htail⟩ := List.cons_lt_cons_iff.mp h
      · have hda := digit_bounds ha
        have hdb := digit_bounds hb
        have hab : a.toNat < b.toNat := hab
        have hzero : '0'.toNat = 48 := rfl
        exact ofDigitChars_lt_of_acc has hbs (Nat.succ.inj hlength) (by omega)
      · exact ih has hbs (Nat.succ.inj hlength) htail

theorem padded_append_lt_iff (hwidth : 0 < width) (hm : m < Nat.pow 10 width)
    (hn : n < Nat.pow 10 width) :
    (padded width m).toList ++ xs < (padded width n).toList ++ ys ↔ m < n ∨ m = n ∧ xs < ys := by
  have hlength : (padded width m).toList.length = (padded width n).toList.length := by
    rw [length_padded hwidth hm, length_padded hwidth hn]
  have hlt {i j : Nat} (hi : i < Nat.pow 10 width) (hj : j < Nat.pow 10 width)
      (h : (padded width i).toList < (padded width j).toList) : i < j := by
    rw [← ofDigitChars_padded width i, ← ofDigitChars_padded width j]
    apply ofDigitChars_lt (fun c => isDigit_of_mem_padded) (fun c => isDigit_of_mem_padded) _ h
    rw [length_padded hwidth hi, length_padded hwidth hj]
  have hinj (h : (padded width m).toList = (padded width n).toList) : m = n := by
    rw [← ofDigitChars_padded width m, ← ofDigitChars_padded width n, h]
  rw [append_lt_append_iff hlength]
  constructor
  · rintro (h | ⟨h, htail⟩)
    · exact .inl (hlt hm hn h)
    · exact .inr ⟨hinj h, htail⟩
  · rintro (h | ⟨rfl, htail⟩)
    · left
      rcases lt_trichotomy (padded width m).toList (padded width n).toList with hl | he | hg
      · exact hl
      · exact absurd (hinj he) (Nat.ne_of_lt h)
      · exact absurd (hlt hn hm hg) (Nat.lt_asymm h)
    · exact .inr ⟨rfl, htail⟩

theorem padded_of_le (hwidth : 0 < width) (h : Nat.pow 10 width ≤ n) :
    padded (width + 1) n = toString n := by
  have hdigits : toString n = String.ofList (Nat.toDigits 10 n) := Nat.toString_eq_ofList_toDigits
  have hlength : width < (Nat.toDigits 10 n).length := by
    rw [← Nat.not_le, Nat.length_toDigits_le_iff (by decide) hwidth, Nat.not_lt]
    exact h
  have hzeros : width + 1 - (Nat.toDigits 10 n).length = 0 := by omega
  rw [← String.toList_inj, toList_padded, hdigits, String.toList_ofList, hzeros,
    List.replicate_zero, List.nil_append]

end CloudAudit.Number
