import Mathlib.Data.List.Basic
import CloudAudit.Proofs.Text.Blank
import CloudAudit.Text.Case

namespace CloudAudit.Text

variable {s t : String} {c d : Char} {expansions : List (Nat × List Nat)} {runs : List CaseRun}

theorem mem_of_lookup_expansions {codes : List Nat} (h : expansions.lookup c.toNat = some codes) :
    (c.toNat, codes) ∈ expansions := by
  obtain ⟨l₁, l₂, he, -⟩ := List.lookup_eq_some_iff.mp h
  rw [he]
  exact List.mem_append_right l₁ List.mem_cons_self

theorem otherCase_ne_nil (h : ∀ e ∈ expansions, e.2 ≠ []) : otherCase expansions runs c ≠ [] := by
  rw [otherCase]
  split
  case h_1 codes hl =>
    rw [ne_eq, List.map_eq_nil_iff]
    exact h _ (mem_of_lookup_expansions hl)
  case h_2 => exact List.cons_ne_nil _ _

theorem mem_otherCase (h : d ∈ otherCase expansions runs c) :
    (∃ e ∈ expansions, e.1 = c.toNat ∧ ∃ code ∈ e.2, Char.ofNat code = d) ∨
      (∃ run ∈ runs, ∃ code, run.partner? c.toNat = some code ∧ Char.ofNat code = d) ∨ d = c := by
  rw [otherCase] at h
  split at h
  case h_1 codes hl =>
    obtain ⟨code, hcode, hd⟩ := List.mem_map.mp h
    exact .inl ⟨_, mem_of_lookup_expansions hl, rfl, code, hcode, hd⟩
  case h_2 =>
    rw [List.mem_singleton] at h
    cases hfind : runs.findSome? (·.partner? c.toNat) with
    | none =>
      rw [hfind] at h
      exact .inr (.inr h)
    | some code =>
      obtain ⟨run, hrun, hcode⟩ := List.exists_of_findSome?_eq_some hfind
      rw [hfind] at h
      exact .inr (.inl ⟨run, hrun, code, hcode, h.symm⟩)

theorem ne_nil_of_mem_upperExpansions : ∀ e ∈ upperExpansions, e.2 ≠ [] := by
  decide

theorem upperChar_ne_nil (c : Char) : upperChar c ≠ [] := by
  rw [upperChar]
  split
  · exact List.cons_ne_nil _ _
  · exact otherCase_ne_nil ne_nil_of_mem_upperExpansions

theorem upper_eq_empty : upper s = "" ↔ s = "" := by
  rw [upper, ← String.toList_inj, String.toList_ofList, ← String.toList_eq_nil_iff]
  constructor
  · intro h
    rw [String.toList_empty, List.flatMap_eq_nil_iff] at h
    exact List.eq_nil_iff_forall_not_mem.mpr fun c hc => upperChar_ne_nil c (h c hc)
  · intro h
    rw [h]
    rfl

theorem ofNat_ne_bar_of_mem_upperExpansions :
    ∀ e ∈ upperExpansions, ∀ code ∈ e.2, Char.ofNat code ≠ '|' := by
  decide +kernel

theorem partner?_of_mem_upperRuns :
    ∀ run ∈ upperRuns, run.partner? ('|'.toNat - run.shift).toNat ≠ some '|'.toNat := by
  decide +kernel

theorem toNat_of_ofNat_eq_bar {code : Nat} (h : Char.ofNat code = '|') : code = '|'.toNat := by
  by_cases hcode : code.isValidChar
  · rw [Char.ofNat, dif_pos hcode] at h
    exact congrArg Char.toNat h
  · rw [Char.ofNat, dif_neg hcode] at h
    exact absurd h (by decide)

theorem upperRuns_ne_bar {run : CaseRun} {code partner : Nat} (hrun : run ∈ upperRuns)
    (h : run.partner? code = some partner) : Char.ofNat partner ≠ '|' := by
  intro hbar
  obtain rfl := toNat_of_ofNat_eq_bar hbar
  have hcode : code = ('|'.toNat - run.shift).toNat := by
    rw [CaseRun.partner?] at h
    split at h
    · have h := Option.some.inj h
      have hpos : '|'.toNat = 124 := rfl
      omega
    · cases h
  exact partner?_of_mem_upperRuns run hrun (hcode ▸ h)

theorem eq_bar_of_mem_upperChar (h : '|' ∈ upperChar c) : c = '|' := by
  by_cases hc : c.toNat < 0x80
  · revert h
    apply forall_ascii (motive := fun c => '|' ∈ upperChar c → c = '|') _ hc
    decide +kernel
  rw [upperChar, if_neg hc] at h
  rcases mem_otherCase h with ⟨e, he, -, code, hcode, hbar⟩ | ⟨run, hrun, code, hcode, hbar⟩ | rfl
  · exact absurd hbar (ofNat_ne_bar_of_mem_upperExpansions e he code hcode)
  · exact absurd hbar (upperRuns_ne_bar hrun hcode)
  · rfl

theorem bar_mem_of_upper (h : '|' ∈ (upper s).toList) : '|' ∈ s.toList := by
  rw [upper, String.toList_ofList] at h
  obtain ⟨c, hc, hbar⟩ := List.mem_flatMap.mp h
  rw [← eq_bar_of_mem_upperChar hbar]
  exact hc

theorem upperChar_toLower (c : Char) : upperChar c.toLower = upperChar c := by
  by_cases hc : c.toNat < 0x80
  · apply forall_ascii (motive := fun c => upperChar c.toLower = upperChar c) _ hc
    decide +kernel
  · have hupper : ¬ (c.val ≥ 'A'.val ∧ c.val ≤ 'Z'.val) := by
      rintro ⟨-, hz⟩
      have hz : c.toNat ≤ 'Z'.toNat := hz
      exact hc (Nat.lt_of_le_of_lt hz (by decide))
    exact congrArg upperChar (dif_neg hupper)

/-- The same text but for the case of ASCII letters. -/
def SameButCase (s t : String) : Prop := s.toList.map Char.toLower = t.toList.map Char.toLower

instance : Decidable (SameButCase s t) := inferInstanceAs (Decidable (_ = _))

theorem SameButCase.upper_eq (h : SameButCase s t) : upper s = upper t := by
  have hlower (s : String) :
      s.toList.flatMap upperChar = (s.toList.map Char.toLower).flatMap upperChar := by
    rw [List.flatMap_map]
    apply List.flatMap_congr
    intro c _
    exact (upperChar_toLower c).symm
  rw [upper, upper, hlower s, hlower t, h]

end CloudAudit.Text
