import Mathlib.Data.Nat.Digits.Defs
import CloudAudit.Proofs.Text.Blank
import CloudAudit.Text.Numeral

namespace CloudAudit.Text

variable {cs ds before after : List Char} {c : Char} {n : Nat}

theorem ofDigits_eq (ds : List Nat) : ofDigits ds = Nat.ofDigits 10 ds.reverse := by
  rw [ofDigits, Nat.ofDigits_eq_foldr, List.foldr_reverse]
  congr 1
  funext n d
  rw [Nat.add_comm]
  rfl

/-- Decimal digits, highest first and not more than may be read, that write a number. -/
structure Numeral (ds : List Char) (n : Nat) : Prop where
  nonempty : ds ≠ []
  digits : ∀ c ∈ ds, isDecimalDigit c = true
  length : ds.length ≤ maxNumeralDigits
  value : Nat.ofDigits 10 (ds.filterMap digitValue?).reverse = n

instance (ds : List Char) (n : Nat) : Decidable (Numeral ds n) :=
  decidable_of_iff (ds ≠ [] ∧ (∀ c ∈ ds, isDecimalDigit c = true) ∧ ds.length ≤ maxNumeralDigits ∧
      Nat.ofDigits 10 (ds.filterMap digitValue?).reverse = n)
    ⟨fun ⟨hne, hd, hl, hv⟩ => ⟨hne, hd, hl, hv⟩,
      fun h => ⟨h.nonempty, h.digits, h.length, h.value⟩⟩

theorem not_isBlank_of_digit (h : isDecimalDigit c = true) : isBlank c = false := by
  by_cases hc : c.toNat < 0x80
  · revert h
    apply forall_ascii (motive := fun c => isDecimalDigit c = true → isBlank c = false) _ hc
    decide +kernel
  · rw [isDecimalDigit, digitValue?, if_neg hc, Option.isSome_map, List.find?_isSome] at h
    obtain ⟨start, hs, hr⟩ := h
    rw [Bool.and_eq_true, decide_eq_true_eq, decide_eq_true_eq] at hr
    have htable : ∀ start ∈ digitZeros, ∀ k < 10, isBlank (Char.ofNat (start + k)) = false := by
      decide +kernel
    have hk := htable start hs (c.toNat - start) (by omega)
    rwa [Nat.add_sub_cancel' hr.1, Char.ofNat_toNat] at hk

theorem ne_of_digit {d : Char} (h : isDecimalDigit c = true) (hd : isDecimalDigit d = false) :
    c ≠ d := by
  rintro rfl
  rw [h] at hd
  cases hd

theorem exists_digitValue (h : isDecimalDigit c = true) : ∃ v, digitValue? c = some v :=
  Option.isSome_iff_exists.mp h

theorem moreDigits_of_digits (h : ∀ c ∈ cs, isDecimalDigit c = true) :
    moreDigits cs = (cs.filterMap digitValue?, []) := by
  induction cs with
  | nil => rfl
  | cons c cs ih =>
    obtain ⟨hc, hcs⟩ := List.forall_mem_cons.mp h
    obtain ⟨v, hv⟩ := exists_digitValue hc
    have hbar : c ≠ '_' := ne_of_digit hc (by decide)
    rw [moreDigits.eq_3 _ _ fun _ _ he => absurd he hbar, hv, ih hcs, List.filterMap_cons_some hv]

theorem leadingDigits_of_digits (h : ∀ c ∈ cs, isDecimalDigit c = true) :
    leadingDigits cs = (cs.filterMap digitValue?, []) := by
  cases cs with
  | nil => rfl
  | cons c cs =>
    obtain ⟨hc, hcs⟩ := List.forall_mem_cons.mp h
    obtain ⟨v, hv⟩ := exists_digitValue hc
    rw [leadingDigits, hv, moreDigits_of_digits hcs, List.filterMap_cons_some hv]

theorem leadingDigits_of_no_digit (h : ∀ c ∈ cs, isDecimalDigit c = false) :
    leadingDigits cs = ([], cs) := by
  cases cs with
  | nil => rfl
  | cons c cs =>
    have hc : digitValue? c = none :=
      Option.not_isSome_iff_eq_none.mp (Bool.eq_false_iff.mp (h c List.mem_cons_self))
    rw [leadingDigits, hc]

theorem leadingSign_of_digits (h : ∀ c ∈ cs, isDecimalDigit c = true) :
    leadingSign cs = (false, cs) := by
  cases cs with
  | nil => rfl
  | cons c cs =>
    have hc := h c List.mem_cons_self
    have hminus : c ≠ '-' := ne_of_digit hc (by decide)
    have hplus : c ≠ '+' := ne_of_digit hc (by decide)
    rw [leadingSign.eq_3 _ (fun _ he => absurd (List.cons.inj he).1 hminus)
      fun _ he => absurd (List.cons.inj he).1 hplus]

theorem mem_of_mem_leadingSign (h : c ∈ (leadingSign cs).2) : c ∈ cs := by
  rw [leadingSign.eq_def] at h
  split at h
  · exact List.mem_cons_of_mem _ h
  · exact List.mem_cons_of_mem _ h
  · exact h

theorem not_isBlank_of_digitValue {d : Nat} (h : digitValue? c = some d) : isBlank c = false :=
  not_isBlank_of_digit (Option.isSome_of_mem h)

theorem solid_of_moreDigits (h : (moreDigits cs).2 = []) : ∀ c ∈ cs, isBlank c = false := by
  induction cs using moreDigits.induct with
  | case1 => exact List.forall_mem_nil _
  | case2 c cs d hd more rest hrest ih =>
    rw [moreDigits, hd] at h
    rw [List.forall_mem_cons, List.forall_mem_cons]
    exact ⟨by decide, not_isBlank_of_digitValue hd, ih h⟩
  | case3 c cs hd =>
    rw [moreDigits, hd] at h
    cases h
  | case4 c cs hx d hd more rest hrest ih =>
    rw [moreDigits.eq_3 _ _ hx, hd] at h
    exact List.forall_mem_cons.mpr ⟨not_isBlank_of_digitValue hd, ih h⟩
  | case5 c cs hx hd =>
    rw [moreDigits.eq_3 _ _ hx, hd] at h
    cases h

theorem solid_of_leadingDigits (h : (leadingDigits cs).2 = []) : ∀ c ∈ cs, isBlank c = false := by
  cases cs with
  | nil => exact List.forall_mem_nil _
  | cons c cs =>
    rw [leadingDigits] at h
    cases hd : digitValue? c with
    | none =>
      rw [hd] at h
      cases h
    | some d =>
      rw [hd] at h
      exact List.forall_mem_cons.mpr ⟨not_isBlank_of_digitValue hd, solid_of_moreDigits h⟩

theorem solid_of_leadingSign (h : ∀ c ∈ (leadingSign cs).2, isBlank c = false) :
    ∀ c ∈ cs, isBlank c = false := by
  rw [leadingSign.eq_def] at h
  split at h
  · exact List.forall_mem_cons.mpr ⟨by decide, h⟩
  · exact List.forall_mem_cons.mpr ⟨by decide, h⟩
  · exact h

theorem solid_of_readInt? {i : Int} (h : readInt? cs = some i) :
    ∀ c ∈ trimBy isSpace cs, isBlank c = false := by
  apply solid_of_leadingSign
  apply solid_of_leadingDigits
  rw [readInt?, readInt] at h
  dsimp only at h
  split at h
  case h_1 => cases h
  case h_2 => cases h
  case h_3 digits rest _ _ hdigits =>
    split at h
    case isTrue => cases h
    case isFalse =>
      split at h
      case isTrue hrest =>
        rw [hdigits]
        exact List.isEmpty_iff.mp hrest
      case isFalse => cases h

theorem readInt?_trimBy (h : trimBy isSpace before = trimBy isSpace after) :
    readInt? before = readInt? after := by
  rw [readInt?, readInt?, readInt, readInt, h]

theorem readInt?_append (hb : ∀ c ∈ before, isSpace c = true) (ha : ∀ c ∈ after, isSpace c = true) :
    readInt? (before ++ cs ++ after) = readInt? cs :=
  readInt?_trimBy (trimBy_append hb ha)

theorem exists_word_of_readInt? {i : Int} (h : readInt? cs = some i) : ∃ before word after,
    cs = before ++ word ++ after ∧ (∀ c ∈ before, isSpace c = true) ∧
      (∀ c ∈ word, isBlank c = false) ∧ ∀ c ∈ after, isSpace c = true := by
  obtain ⟨before, after, he, hb, ha⟩ := exists_trimBy isSpace cs
  exact ⟨before, trimBy isSpace cs, after, he, hb, solid_of_readInt? h, ha⟩

theorem Numeral.solid (h : Numeral ds n) : ∀ c ∈ ds, isBlank c = false :=
  fun c hc => not_isBlank_of_digit (h.digits c hc)

theorem Numeral.not_mem (h : Numeral ds n) (hc : isDecimalDigit c = false) : c ∉ ds :=
  fun hmem => ne_of_digit (h.digits c hmem) hc rfl

theorem Numeral.readInt? (h : Numeral ds n) : readInt? ds = some (n : Int) := by
  have hspace : trimBy isSpace ds = ds := by
    apply trimBy_of_forall
    intro c hc
    have hblank := h.solid c hc
    rw [isBlank, Bool.or_eq_false_iff] at hblank
    exact hblank.1
  have hlength : (ds.filterMap digitValue?).length = ds.length := by
    rw [List.length_filterMap_eq_countP]
    exact List.countP_eq_length.mpr h.digits
  have hne : ds.filterMap digitValue? ≠ [] := by
    rw [← List.length_pos_iff, hlength]
    exact List.length_pos_iff.mpr h.nonempty
  obtain ⟨v, vs, hvs⟩ := List.exists_cons_of_ne_nil hne
  have hvalue : ofDigits (v :: vs) = n := by rw [← hvs, ofDigits_eq, h.value]
  have hshort : ¬ maxNumeralDigits < (v :: vs).length := by
    rw [← hvs, hlength]
    exact Nat.not_lt.mpr h.length
  rw [Text.readInt?, readInt, hspace, leadingSign_of_digits h.digits]
  simp only [leadingDigits_of_digits h.digits, hvs, if_neg hshort, hvalue, List.isEmpty_nil, if_true]
  rfl

theorem readInt?_of_no_digit (h : ∀ c ∈ cs, isDecimalDigit c = false) : readInt? cs = none := by
  have hbody : ∀ c ∈ (leadingSign (trimBy isSpace cs)).2, isDecimalDigit c = false := by
    intro c hc
    exact h c (mem_of_mem_trimBy (mem_of_mem_leadingSign hc))
  rw [readInt?, readInt]
  simp only [leadingDigits_of_no_digit hbody]
  rfl

end CloudAudit.Text
