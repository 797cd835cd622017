import Mathlib.Data.List.Basic
import CloudAudit.Proofs.Text.Blank

namespace CloudAudit.Text

variable {p : Char → Bool} {sep c : Char} {before after cs piece : List Char}
  {pieces : List (List Char)}

theorem cutAt?_eq_some (h : cutAt? sep cs = some (before, after)) :
    cs = before ++ sep :: after ∧ sep ∉ before := by
  induction cs generalizing before with
  | nil => cases h
  | cons c cs ih =>
    rw [cutAt?] at h
    split at h
    case isTrue hc =>
      cases h
      exact ⟨by rw [hc]; rfl, List.not_mem_nil⟩
    case isFalse hc =>
      obtain ⟨⟨before', after'⟩, hcut, he⟩ := Option.map_eq_some_iff.mp h
      cases he
      obtain ⟨rfl, hno⟩ := ih hcut
      exact ⟨rfl, List.not_mem_cons_of_ne_of_not_mem (fun hs => hc hs.symm) hno⟩

theorem cutAt?_append (h : sep ∉ before) :
    cutAt? sep (before ++ sep :: after) = some (before, after) := by
  induction before with
  | nil => rw [List.nil_append, cutAt?, if_pos rfl]
  | cons c before ih =>
    rw [List.mem_cons, not_or] at h
    rw [List.cons_append, cutAt?, if_neg (fun he => h.1 he.symm), ih h.2]
    rfl

theorem cutAt?_of_not_mem (h : sep ∉ cs) : cutAt? sep cs = none := by
  cases hcut : cutAt? sep cs with
  | none => rfl
  | some halves =>
    obtain ⟨rfl, -⟩ := cutAt?_eq_some hcut
    exact absurd (List.mem_append_right _ List.mem_cons_self) h

theorem not_mem_of_cutAt? (h : cutAt? sep cs = none) : sep ∉ cs := by
  intro hmem
  obtain ⟨before, after, rfl, hno⟩ := List.eq_append_cons_of_mem hmem
  rw [cutAt?_append hno] at h
  cases h

theorem append_sep_inj {before' after' : List Char} (h : sep ∉ before) (h' : sep ∉ before') :
    before ++ sep :: after = before' ++ sep :: after' ↔ before = before' ∧ after = after' := by
  constructor
  · intro he
    have hcut : cutAt? sep (before ++ sep :: after) = some (before, after) := cutAt?_append h
    rw [he, cutAt?_append h'] at hcut
    cases hcut
    exact ⟨rfl, rfl⟩
  · rintro ⟨rfl, rfl⟩
    rfl

theorem splitOnChar_eq_splitOn (sep : Char) (cs : List Char) :
    splitOnChar sep cs = cs.splitOn sep := by
  induction cs with
  | nil => rfl
  | cons c cs ih =>
    rw [splitOnChar, List.splitOn_cons_eq_if_modifyHead, ih]
    by_cases hc : c = sep
    · rw [if_pos hc, if_pos (beq_iff_eq.mpr hc)]
    · rw [if_neg hc, if_neg (fun he => hc (beq_iff_eq.mp he))]
      cases h : cs.splitOn sep with
      | nil => exact absurd h (List.splitOn_ne_nil sep cs)
      | cons piece pieces => rfl

theorem intercalate_splitOnChar (sep : Char) (cs : List Char) :
    [sep].intercalate (splitOnChar sep cs) = cs := by
  rw [splitOnChar_eq_splitOn, List.intercalate_splitOn]

theorem splitOnChar_of_not_mem (h : sep ∉ cs) : splitOnChar sep cs = [cs] := by
  rw [splitOnChar_eq_splitOn, List.splitOn_eq_singleton h]

theorem splitOnChar_append_cons (sep : Char) (before after : List Char) :
    splitOnChar sep (before ++ sep :: after) =
      splitOnChar sep before ++ splitOnChar sep after := by
  simp only [splitOnChar_eq_splitOn, List.splitOn_append_cons_self]

theorem splitOnChar_intercalate (h : ∀ piece ∈ pieces, sep ∉ piece) (hne : pieces ≠ []) :
    splitOnChar sep ([sep].intercalate pieces) = pieces := by
  rw [splitOnChar_eq_splitOn, List.splitOn_intercalate sep h hne]

theorem splitOnChar_intercalate_end (hne : pieces ≠ []) :
    splitOnChar sep ([sep].intercalate pieces ++ [sep]) =
      pieces.flatMap (splitOnChar sep) ++ [[]] := by
  induction pieces with
  | nil => exact absurd rfl hne
  | cons piece rest ih =>
    cases rest with
    | nil =>
      rw [List.intercalate_singleton, splitOnChar_append_cons, List.flatMap_singleton]
      rfl
    | cons next rest =>
      rw [List.intercalate_cons_cons, List.append_assoc, List.append_assoc, List.singleton_append,
        splitOnChar_append_cons, ih (List.cons_ne_nil next rest)]
      simp only [List.flatMap_cons, List.append_assoc]

theorem intercalate_append {pieces' : List (List Char)} (h : pieces ≠ []) (h' : pieces' ≠ []) :
    [sep].intercalate (pieces ++ pieces') =
      [sep].intercalate pieces ++ [sep] ++ [sep].intercalate pieces' := by
  obtain ⟨first, rest', rfl⟩ := List.exists_cons_of_ne_nil h'
  induction pieces with
  | nil => exact absurd rfl h
  | cons piece rest ih =>
    cases rest with
    | nil => rw [List.singleton_append, List.intercalate_cons_cons, List.intercalate_singleton]
    | cons next rest =>
      have hrest := ih (List.cons_ne_nil next rest)
      rw [List.cons_append] at hrest
      rw [List.cons_append, List.cons_append, List.intercalate_cons_cons,
        List.intercalate_cons_cons, hrest]
      simp only [List.append_assoc]

theorem mem_of_mem_intercalate (hc : c ≠ sep) (h : c ∈ [sep].intercalate pieces) :
    ∃ piece ∈ pieces, c ∈ piece := by
  induction pieces with
  | nil => exact absurd h List.not_mem_nil
  | cons piece rest ih =>
    cases rest with
    | nil =>
      rw [List.intercalate_singleton] at h
      exact ⟨piece, List.mem_cons_self, h⟩
    | cons next rest =>
      rw [List.intercalate_cons_cons, List.mem_append, List.mem_append, List.mem_singleton] at h
      rcases h with (h | h) | h
      · exact ⟨piece, List.mem_cons_self, h⟩
      · exact absurd h hc
      · obtain ⟨other, ho, hco⟩ := ih h
        exact ⟨other, List.mem_cons_of_mem _ ho, hco⟩

theorem splitOnChar_induction (sep : Char) {motive : List Char → Prop}
    (word : ∀ cs, sep ∉ cs → motive cs)
    (joined : ∀ before after, motive before → motive after → motive (before ++ sep :: after))
    (cs : List Char) : motive cs := by
  induction hn : cs.length using Nat.strong_induction_on generalizing cs with
  | _ n ih =>
    by_cases h : sep ∈ cs
    · obtain ⟨before, after, rfl⟩ := List.append_of_mem h
      rw [List.length_append, List.length_cons] at hn
      apply joined
      · exact ih before.length (by omega) before rfl
      · exact ih after.length (by omega) after rfl
    · exact word cs h

theorem not_mem_of_mem_splitOnChar (h : piece ∈ splitOnChar sep cs) : sep ∉ piece := by
  induction cs using splitOnChar_induction sep with
  | word cs hcs =>
    rw [splitOnChar_of_not_mem hcs, List.mem_singleton] at h
    rw [h]
    exact hcs
  | joined before after ihb iha =>
    rw [splitOnChar_append_cons, List.mem_append] at h
    exact h.elim ihb iha

theorem mem_splitOnChar (hc : c ≠ sep) : (∃ piece ∈ splitOnChar sep cs, c ∈ piece) ↔ c ∈ cs := by
  induction cs using splitOnChar_induction sep with
  | word cs hcs =>
    rw [splitOnChar_of_not_mem hcs]
    simp only [List.mem_singleton, exists_eq_left]
  | joined before after ihb iha =>
    rw [splitOnChar_append_cons]
    simp only [List.mem_append, or_and_right, exists_or, ihb, iha, List.mem_cons, hc, false_or]

theorem map_filter_splitOnChar (hp : p sep = true) (cs : List Char) :
    (splitOnChar sep cs).map (List.filter p) = splitOnChar sep (cs.filter p) := by
  induction cs using splitOnChar_induction sep with
  | word cs hcs =>
    have hfilter : sep ∉ cs.filter p := fun hmem => hcs (List.mem_filter.mp hmem).1
    rw [splitOnChar_of_not_mem hcs, splitOnChar_of_not_mem hfilter]
    rfl
  | joined before after ihb iha =>
    rw [List.filter_append, List.filter_cons_of_pos hp, splitOnChar_append_cons,
      splitOnChar_append_cons, List.map_append, ihb, iha]

theorem map_trimBy_splitOnChar_append (hp : p sep = false) (hb : ∀ c ∈ before, p c = true)
    (ha : ∀ c ∈ after, p c = true) :
    (splitOnChar sep (before ++ cs ++ after)).map (trimBy p) =
      (splitOnChar sep cs).map (trimBy p) := by
  have hno {cs : List Char} (h : ∀ c ∈ cs, p c = true) : sep ∉ cs := by
    intro hmem
    rw [h sep hmem] at hp
    cases hp
  induction cs using splitOnChar_induction sep generalizing before after with
  | word cs hcs =>
    have hall : sep ∉ before ++ cs ++ after := by
      simp only [List.mem_append, not_or]
      exact ⟨⟨hno hb, hcs⟩, hno ha⟩
    rw [splitOnChar_of_not_mem hall, splitOnChar_of_not_mem hcs, List.map_singleton,
      List.map_singleton, trimBy_append hb ha]
  | joined first rest ihf ihr =>
    have hfirst := ihf hb (List.forall_mem_nil _)
    have hrest := ihr (List.forall_mem_nil _) ha
    rw [List.append_nil] at hfirst
    rw [List.nil_append] at hrest
    have hassoc : before ++ (first ++ sep :: rest) ++ after =
        (before ++ first) ++ sep :: (rest ++ after) := by
      simp only [List.append_assoc, List.cons_append]
    rw [hassoc, splitOnChar_append_cons, splitOnChar_append_cons, List.map_append, List.map_append,
      hfirst, hrest]

theorem map_trimBy_splitOnChar (hp : p sep = false) (cs : List Char) :
    (splitOnChar sep (trimBy p cs)).map (trimBy p) = (splitOnChar sep cs).map (trimBy p) := by
  obtain ⟨before, after, he, hb, ha⟩ := exists_trimBy p cs
  conv_rhs => rw [he]
  exact (map_trimBy_splitOnChar_append hp hb ha).symm

end CloudAudit.Text
