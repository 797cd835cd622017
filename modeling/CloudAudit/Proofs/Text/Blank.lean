import Mathlib.Data.List.DropRight
import CloudAudit.Text.Blank

namespace CloudAudit.Text

variable {p : Char → Bool} {cs before after : List Char} {s : String} {c : Char}

-- A property of all characters can be decided by going through every one of them there is, so what
-- is asked only of those of a list has to say that it goes through the list.
instance decidableForallMem (p : Char → Prop) [DecidablePred p] (cs : List Char) :
    Decidable (∀ c ∈ cs, p c) := List.decidableBAll p cs

instance decidableExistsMem (p : Char → Prop) [DecidablePred p] (cs : List Char) :
    Decidable (∃ c ∈ cs, p c) := List.decidableBEx p cs

theorem forall_ascii {motive : Char → Prop} (h : ∀ n < 0x80, motive (Char.ofNat n))
    (hc : c.toNat < 0x80) : motive c := by
  have hn := h c.toNat hc
  rwa [Char.ofNat_toNat] at hn

theorem trimBy_eq_nil : trimBy p cs = [] ↔ ∀ c ∈ cs, p c = true := by
  rw [trimBy, List.reverse_eq_nil_iff, List.dropWhile_eq_nil_iff]
  constructor
  · intro h
    -- What `dropWhile` leaves does not begin with a blank, so if it is all blank it is empty.
    have hd : (cs.dropWhile p).dropWhile p = [] :=
      List.dropWhile_eq_nil_iff.mpr fun c hc => h c (List.mem_reverse.mpr hc)
    rw [List.dropWhile_idempotent] at hd
    exact List.dropWhile_eq_nil_iff.mp hd
  · intro h c hc
    exact h c ((List.dropWhile_sublist p).mem (List.mem_reverse.mp hc))

theorem trim_eq_empty : trim s = "" ↔ ∀ c ∈ s.toList, isBlank c = true := by
  rw [trim, ← trimBy_eq_nil, ← String.toList_inj, String.toList_ofList]
  rfl

theorem isBlank_of_isSpace (h : isSpace c = true) : isBlank c = true := by
  rw [isBlank, h, Bool.true_or]

theorem rdropWhile_append_cons (hc : p c = false) (before after : List Char) :
    (before ++ c :: after).rdropWhile p = before ++ c :: after.rdropWhile p := by
  induction after using List.reverseRecOn with
  | nil => rw [List.rdropWhile_concat_neg _ _ _ (ne_true_of_eq_false hc), List.rdropWhile_nil]
  | append_singleton after x ih =>
    have hassoc : before ++ c :: (after ++ [x]) = (before ++ c :: after) ++ [x] := by
      rw [List.append_assoc, List.cons_append]
    rw [hassoc]
    by_cases hx : p x = true
    · rw [List.rdropWhile_concat_pos _ _ _ hx, List.rdropWhile_concat_pos _ _ _ hx, ih]
    · rw [List.rdropWhile_concat_neg _ _ _ hx, List.rdropWhile_concat_neg _ _ _ hx, hassoc]

theorem dropWhile_append_cons (hc : p c = false) (before after : List Char) :
    (before ++ c :: after).dropWhile p = before.dropWhile p ++ c :: after := by
  rw [List.dropWhile_append]
  split
  case isTrue h =>
    rw [List.isEmpty_iff.mp h, List.dropWhile_cons_of_neg (ne_true_of_eq_false hc)]
    rfl
  case isFalse => rfl

theorem rdropWhile_append (h : ∀ c ∈ after, p c = true) :
    (cs ++ after).rdropWhile p = cs.rdropWhile p := by
  rw [List.rdropWhile, List.rdropWhile, List.reverse_append, List.dropWhile_append_of_pos]
  intro c hc
  exact h c (List.mem_reverse.mp hc)

theorem trimBy_append (hb : ∀ c ∈ before, p c = true) (ha : ∀ c ∈ after, p c = true) :
    trimBy p (before ++ cs ++ after) = trimBy p cs := by
  change (List.dropWhile p _).rdropWhile p = (List.dropWhile p _).rdropWhile p
  rw [List.append_assoc, List.dropWhile_append_of_pos hb, List.dropWhile_append]
  split
  case isTrue h => rw [List.isEmpty_iff.mp h, List.dropWhile_eq_nil_iff.mpr ha]
  case isFalse => exact rdropWhile_append ha

theorem exists_trimBy (p : Char → Bool) (cs : List Char) : ∃ before after,
    cs = before ++ trimBy p cs ++ after ∧ (∀ c ∈ before, p c = true) ∧ ∀ c ∈ after, p c = true := by
  refine ⟨cs.takeWhile p, (cs.dropWhile p).rtakeWhile p, ?_, ?_, ?_⟩
  · change cs = cs.takeWhile p ++ (cs.dropWhile p).rdropWhile p ++ (cs.dropWhile p).rtakeWhile p
    rw [List.append_assoc, List.rdropWhile_append_rtakeWhile, List.takeWhile_append_dropWhile]
  · intro c hc
    exact List.mem_takeWhile_imp hc
  · intro c hc
    exact List.mem_rtakeWhile_imp hc

theorem trimBy_trimBy (p : Char → Bool) (cs : List Char) : trimBy p (trimBy p cs) = trimBy p cs := by
  obtain ⟨before, after, he, hb, ha⟩ := exists_trimBy p cs
  conv_rhs => rw [he]
  exact (trimBy_append hb ha).symm

theorem trimBy_of_forall (h : ∀ c ∈ cs, p c = false) : trimBy p cs = cs := by
  have hkeep (xs : List Char) (hx : ∀ c ∈ xs, p c = false) : xs.dropWhile p = xs := by
    cases xs with
    | nil => rfl
    | cons x xs =>
      exact List.dropWhile_cons_of_neg (ne_true_of_eq_false (hx x List.mem_cons_self))
  rw [trimBy, hkeep cs h, hkeep cs.reverse, List.reverse_reverse]
  intro c hc
  exact h c (List.mem_reverse.mp hc)

theorem not_blank_of_getLast?_trimBy (h : (trimBy p cs).getLast? = some c) : p c = false := by
  have hne : (cs.dropWhile p).rdropWhile p ≠ [] := by
    intro hnil
    change ((cs.dropWhile p).rdropWhile p).getLast? = some c at h
    rw [hnil] at h
    cases h
  have hlast := List.rdropWhile_last_not p _ hne
  change ((cs.dropWhile p).rdropWhile p).getLast? = some c at h
  rw [List.getLast?_eq_some_getLast hne, Option.some.injEq] at h
  rw [h] at hlast
  exact Bool.eq_false_iff.mpr hlast

theorem mem_of_mem_trimBy (h : c ∈ trimBy p cs) : c ∈ cs := by
  rw [trimBy, List.mem_reverse] at h
  have h := (List.dropWhile_sublist p).mem h
  exact (List.dropWhile_sublist p).mem (List.mem_reverse.mp h)

theorem squeeze_append (cs ds : List Char) : squeeze (cs ++ ds) = squeeze cs ++ squeeze ds :=
  List.filter_append cs ds

theorem squeeze_cons_of_solid (h : isBlank c = false) : squeeze (c :: cs) = c :: squeeze cs := by
  apply List.filter_cons_of_pos
  rw [h]
  rfl

theorem squeeze_cons_of_blank (h : isBlank c = true) : squeeze (c :: cs) = squeeze cs := by
  apply List.filter_cons_of_neg
  rw [h]
  exact Bool.false_ne_true

theorem squeeze_of_blank (h : ∀ c ∈ cs, isBlank c = true) : squeeze cs = [] := by
  rw [squeeze, List.filter_eq_nil_iff]
  intro c hc
  rw [h c hc]
  exact Bool.false_ne_true

theorem squeeze_of_solid (h : ∀ c ∈ cs, isBlank c = false) : squeeze cs = cs := by
  rw [squeeze, List.filter_eq_self]
  intro c hc
  rw [h c hc]
  rfl

theorem mem_squeeze : c ∈ squeeze cs ↔ c ∈ cs ∧ isBlank c = false := by
  rw [squeeze, List.mem_filter, Bool.not_eq_true']

end CloudAudit.Text
