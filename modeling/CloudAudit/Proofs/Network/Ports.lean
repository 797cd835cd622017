import CloudAudit.Network.FirewallRule
import CloudAudit.Proofs.Result
import CloudAudit.Proofs.Text.Numeral
import CloudAudit.Proofs.Text.Split

namespace CloudAudit.Ports

open Text

variable {port : Int} {spec : String} {space : Char → Bool}
  {low high before after gap gap' cs word segment : List Char}

def between (port : Int) (low high : List Char) : Bool :=
  match readInt? low, readInt? high with
  | some lo, some hi => lo ≤ port && port ≤ hi
  | _, _ => false

theorem between_of_numerals {lo hi : Nat} (hlow : Numeral low lo) (hhigh : Numeral high hi) :
    between port low high = true ↔ (lo : Int) ≤ port ∧ port ≤ hi := by
  simp only [between, hlow.readInt?, hhigh.readInt?, Bool.and_eq_true, decide_eq_true_eq]

theorem segmentHas_trimChars (port : Int) (segment : List Char) :
    segmentHas port (trimChars segment) = segmentHas port segment := by
  have htrim : trimChars (trimChars segment) = trimChars segment := trimBy_trimBy isBlank segment
  rw [segmentHas, segmentHas, htrim]

theorem segmentHas_word (hb : ∀ c ∈ before, isBlank c = true) (ha : ∀ c ∈ after, isBlank c = true)
    (hword : ∀ c ∈ word, isBlank c = false) (hyphen : '-' ∉ word) :
    segmentHas port (before ++ word ++ after) = (readInt? word == some port) := by
  have hitem : trimChars (before ++ word ++ after) = word :=
    (trimBy_append hb ha).trans (trimBy_of_forall hword)
  rw [segmentHas, hitem, cutAt?_of_not_mem hyphen]

theorem segmentHas_range (hyphen : '-' ∉ low) :
    segmentHas port (low ++ '-' :: high) =
      between port (low.dropWhile isBlank) (high.rdropWhile isBlank) := by
  have hitem : trimChars (low ++ '-' :: high) =
      low.dropWhile isBlank ++ '-' :: high.rdropWhile isBlank := by
    change (List.dropWhile isBlank _).rdropWhile isBlank = _
    rw [dropWhile_append_cons (by decide), rdropWhile_append_cons (by decide)]
  have hcut : '-' ∉ low.dropWhile isBlank :=
    fun hmem => hyphen ((List.dropWhile_sublist isBlank).mem hmem)
  rw [segmentHas, hitem, cutAt?_append hcut]
  rfl

theorem readInt?_low (hb : ∀ c ∈ before, isBlank c = true) (hlow : ∀ c ∈ low, isBlank c = false)
    (hgap : ∀ c ∈ gap, isSpace c = true) :
    readInt? ((before ++ low ++ gap).dropWhile isBlank) = readInt? low := by
  rw [List.append_assoc, List.dropWhile_append_of_pos hb]
  cases low with
  | nil =>
    rw [List.nil_append, List.dropWhile_eq_nil_iff.mpr fun c hc => isBlank_of_isSpace (hgap c hc)]
  | cons c low =>
    have hc : ¬ isBlank c = true := ne_true_of_eq_false (hlow c List.mem_cons_self)
    have hread : readInt? ([] ++ c :: low ++ gap) = readInt? (c :: low) :=
      readInt?_append (List.forall_mem_nil _) hgap
    rwa [List.cons_append, List.dropWhile_cons_of_neg hc]

theorem readInt?_high (hgap : ∀ c ∈ gap, isSpace c = true)
    (hhigh : ∀ c ∈ high, isBlank c = false) (ha : ∀ c ∈ after, isBlank c = true) :
    readInt? ((gap ++ high ++ after).rdropWhile isBlank) = readInt? high := by
  rw [rdropWhile_append ha]
  cases high using List.reverseRecOn with
  | nil =>
    have hnil : gap.rdropWhile isBlank = [] := by
      rw [List.rdropWhile_eq_nil_iff]
      intro c hc
      exact isBlank_of_isSpace (hgap c hc)
    rw [List.append_nil, hnil]
  | append_singleton high c =>
    have hc : ¬ isBlank c = true :=
      ne_true_of_eq_false (hhigh c (List.mem_append_right _ List.mem_cons_self))
    have hread : readInt? (gap ++ (high ++ [c]) ++ []) = readInt? (high ++ [c]) :=
      readInt?_append hgap (List.forall_mem_nil _)
    rw [List.append_nil] at hread
    rwa [← List.append_assoc, List.rdropWhile_concat_neg _ _ _ hc, List.append_assoc]

theorem segmentHas_spaced_range (hb : ∀ c ∈ before, isBlank c = true)
    (hlow : ∀ c ∈ low, isBlank c = false) (hyphen : '-' ∉ low) (hgap : ∀ c ∈ gap, isSpace c = true)
    (hgap' : ∀ c ∈ gap', isSpace c = true) (hhigh : ∀ c ∈ high, isBlank c = false)
    (ha : ∀ c ∈ after, isBlank c = true) :
    segmentHas port (before ++ low ++ gap ++ '-' :: (gap' ++ high ++ after)) =
      between port low high := by
  have hleft : '-' ∉ before ++ low ++ gap := by
    simp only [List.mem_append, not_or]
    refine ⟨⟨fun hm => ?_, hyphen⟩, fun hm => ?_⟩
    · exact absurd (hb _ hm) (by decide)
    · exact absurd (hgap _ hm) (by decide)
  rw [segmentHas_range hleft, between, readInt?_low hb hlow hgap, readInt?_high hgap' hhigh ha]
  rfl

theorem segmentHas_solid_word (hword : ∀ c ∈ word, isBlank c = false) (hyphen : '-' ∉ word) :
    segmentHas port word = (readInt? word == some port) := by
  have h : segmentHas port ([] ++ word ++ []) = (readInt? word == some port) :=
    segmentHas_word (List.forall_mem_nil _) (List.forall_mem_nil _) hword hyphen
  rwa [List.nil_append, List.append_nil] at h

theorem segmentHas_solid_range (hlow : ∀ c ∈ low, isBlank c = false) (hyphen : '-' ∉ low)
    (hhigh : ∀ c ∈ high, isBlank c = false) :
    segmentHas port (low ++ '-' :: high) = between port low high := by
  have h : segmentHas port ([] ++ low ++ [] ++ '-' :: ([] ++ high ++ [])) = between port low high :=
    segmentHas_spaced_range (List.forall_mem_nil _) hlow hyphen (List.forall_mem_nil _)
      (List.forall_mem_nil _) hhigh (List.forall_mem_nil _)
  simpa only [List.nil_append, List.append_nil] using h

/-- A word with blanks around it, or two with blanks around them and a hyphen between them, with
nothing beside the hyphen but what counts as `space`. -/
inductive SpacedOut (space : Char → Bool) : List Char → List Char → Prop
  | word {before word after : List Char} (hb : ∀ c ∈ before, isBlank c = true)
    (hword : ∀ c ∈ word, isBlank c = false) (hyphen : '-' ∉ word)
    (ha : ∀ c ∈ after, isBlank c = true) : SpacedOut space word (before ++ word ++ after)
  | range {before low gap gap' high after : List Char} (hb : ∀ c ∈ before, isBlank c = true)
    (hlow : ∀ c ∈ low, isBlank c = false) (hyphen : '-' ∉ low) (hgap : ∀ c ∈ gap, space c = true)
    (hgap' : ∀ c ∈ gap', space c = true) (hhigh : ∀ c ∈ high, isBlank c = false)
    (ha : ∀ c ∈ after, isBlank c = true) :
    SpacedOut space (low ++ '-' :: high) (before ++ low ++ gap ++ '-' :: (gap' ++ high ++ after))

theorem SpacedOut.bare_word (hword : ∀ c ∈ word, isBlank c = false) (hyphen : '-' ∉ word) :
    SpacedOut space word word := by
  have h : SpacedOut space word ([] ++ word ++ []) :=
    .word (List.forall_mem_nil _) hword hyphen (List.forall_mem_nil _)
  rwa [List.nil_append, List.append_nil] at h

theorem SpacedOut.bare_range (hlow : ∀ c ∈ low, isBlank c = false) (hyphen : '-' ∉ low)
    (hhigh : ∀ c ∈ high, isBlank c = false) :
    SpacedOut space (low ++ '-' :: high) (low ++ '-' :: high) := by
  have h : SpacedOut space (low ++ '-' :: high) ([] ++ low ++ [] ++ '-' :: ([] ++ high ++ [])) :=
    .range (List.forall_mem_nil _) hlow hyphen (List.forall_mem_nil _) (List.forall_mem_nil _) hhigh
      (List.forall_mem_nil _)
  simpa only [List.nil_append, List.append_nil] using h

theorem segmentHas_spacedOut (h : SpacedOut isSpace word segment) :
    segmentHas port segment = segmentHas port word := by
  cases h with
  | word hb hword hyphen ha =>
    rw [segmentHas_word hb ha hword hyphen, segmentHas_solid_word hword hyphen]
  | range hb hlow hyphen hgap hgap' hhigh ha =>
    rw [segmentHas_spaced_range hb hlow hyphen hgap hgap' hhigh ha,
      segmentHas_solid_range hlow hyphen hhigh]

theorem SpacedOut.pad (h : SpacedOut space word segment) (hb : ∀ c ∈ before, isBlank c = true)
    (ha : ∀ c ∈ after, isBlank c = true) : SpacedOut space word (before ++ segment ++ after) := by
  have hjoin {cs ds : List Char} (hcs : ∀ c ∈ cs, isBlank c = true)
      (hds : ∀ c ∈ ds, isBlank c = true) : ∀ c ∈ cs ++ ds, isBlank c = true :=
    fun c hc => (List.mem_append.mp hc).elim (hcs c) (hds c)
  cases h with
  | @word before' word after' hb' hword hyphen ha' =>
    have h : SpacedOut space word ((before ++ before') ++ word ++ (after' ++ after)) :=
      .word (hjoin hb hb') hword hyphen (hjoin ha' ha)
    simpa only [List.append_assoc] using h
  | @range before' low gap gap' high after' hb' hlow hyphen hgap hgap' hhigh ha' =>
    have h : SpacedOut space (low ++ '-' :: high)
        ((before ++ before') ++ low ++ gap ++ '-' :: (gap' ++ high ++ (after' ++ after))) :=
      .range (hjoin hb hb') hlow hyphen hgap hgap' hhigh (hjoin ha' ha)
    simpa only [List.append_assoc, List.cons_append] using h

theorem exists_spacedOut (h : segmentHas port segment = true) :
    ∃ word, SpacedOut isSpace word segment := by
  have hspace {cs : List Char} (hcs : ∀ c ∈ cs, isSpace c = true) : ∀ c ∈ cs, isBlank c = true :=
    fun c hc => isBlank_of_isSpace (hcs c hc)
  have hitem : ∃ word, SpacedOut isSpace word (trimChars segment) := by
    rw [segmentHas] at h
    cases hcut : cutAt? '-' (trimChars segment) with
    | none =>
      rw [hcut] at h
      obtain ⟨before, word, after, he, hb, hword, ha⟩ := exists_word_of_readInt? (beq_iff_eq.mp h)
      have hyphen := not_mem_of_cutAt? hcut
      rw [he] at hyphen ⊢
      refine ⟨word, .word (hspace hb) hword (fun hmem => hyphen ?_) (hspace ha)⟩
      exact List.mem_append_left _ (List.mem_append_right _ hmem)
    | some halves =>
      obtain ⟨low, high⟩ := halves
      obtain ⟨he, hyphen⟩ := cutAt?_eq_some hcut
      rw [hcut] at h
      dsimp only at h
      split at h
      case h_1 lo hi hlo hhi =>
        obtain ⟨before, low, gap, rfl, hb, hlow, hgap⟩ := exists_word_of_readInt? hlo
        obtain ⟨gap', high, after, rfl, hgap', hhigh, ha⟩ := exists_word_of_readInt? hhi
        rw [he]
        refine ⟨_, .range (hspace hb) hlow (fun hmem => hyphen ?_) hgap hgap' hhigh (hspace ha)⟩
        exact List.mem_append_left _ (List.mem_append_right _ hmem)
      case h_2 => cases h
  obtain ⟨before, after, he, hb, ha⟩ := exists_trimBy isBlank segment
  obtain ⟨word, hword⟩ := hitem
  refine ⟨word, ?_⟩
  rw [he]
  exact hword.pad hb ha

theorem SpacedOut.mem_cases (h : SpacedOut space word segment) {c : Char} (hc : c ∈ segment) :
    c ∈ word ∨ isBlank c = true ∨ space c = true := by
  cases h with
  | word hb hword hyphen ha =>
    simp only [List.mem_append] at hc
    rcases hc with (hc | hc) | hc
    · exact .inr (.inl (hb c hc))
    · exact .inl hc
    · exact .inr (.inl (ha c hc))
  | range hb hlow hyphen hgap hgap' hhigh ha =>
    simp only [List.mem_append, List.mem_cons] at hc ⊢
    rcases hc with ((hc | hc) | hc) | hc | (hc | hc) | hc
    · exact .inr (.inl (hb c hc))
    · exact .inl (.inl hc)
    · exact .inr (.inr (hgap c hc))
    · exact .inl (.inr (.inl hc))
    · exact .inr (.inr (hgap' c hc))
    · exact .inl (.inr (.inr hc))
    · exact .inr (.inl (ha c hc))

theorem segmentHas_of_no_digit (h : ∀ c ∈ segment, isDecimalDigit c = false) :
    segmentHas port segment = false := by
  have hitem : ∀ c ∈ trimChars segment, isDecimalDigit c = false :=
    fun c hc => h c (mem_of_mem_trimBy hc)
  rw [segmentHas]
  split
  case h_1 low high hcut =>
    obtain ⟨he, -⟩ := cutAt?_eq_some hcut
    have hlow : ∀ c ∈ low, isDecimalDigit c = false :=
      fun c hc => hitem c (he ▸ List.mem_append_left _ hc)
    rw [readInt?_of_no_digit hlow]
  case h_2 =>
    rw [readInt?_of_no_digit hitem]
    rfl

theorem trimChars_eq_nil : trimChars cs = [] ↔ ∀ c ∈ cs, isBlank c = true := trimBy_eq_nil

theorem has_of_blank (h : ∀ c ∈ spec.toList, isBlank c = true) : has port spec = true := by
  rw [has, trimChars_eq_nil.mpr h]
  rfl

theorem has_of_not_blank (h : ∃ c ∈ spec.toList, isBlank c = false) :
    has port spec = (segments spec.toList).any (segmentHas port) := by
  have hne : (trimChars spec.toList).isEmpty = false := by
    rw [List.isEmpty_eq_false_iff]
    intro hnil
    obtain ⟨c, hc, hblank⟩ := h
    rw [trimChars_eq_nil.mp hnil c hc] at hblank
    cases hblank
  have hany (cs : List Char) : (segments cs).any (segmentHas port) =
      ((segments cs).map trimChars).any (segmentHas port) := by
    rw [List.any_map]
    congr 1
    funext segment
    exact (segmentHas_trimChars port segment).symm
  rw [has, hne, Bool.false_or, hany, hany spec.toList]
  exact congrArg (List.any · (segmentHas port)) (map_trimBy_splitOnChar (by decide) spec.toList)

theorem has_all (h₁ : 1 ≤ port) (h₂ : port ≤ 65535) : has port all = true := by
  have hlow : readInt? ['1'] = some 1 := by decide
  have hhigh : readInt? ['6', '5', '5', '3', '5'] = some 65535 := by decide
  have hitem : segmentHas port (['1'] ++ '-' :: ['6', '5', '5', '3', '5']) = true := by
    rw [segmentHas_solid_range (by decide) (by decide) (by decide), between, hlow, hhigh]
    simp only [Bool.and_eq_true, decide_eq_true_eq]
    exact ⟨h₁, h₂⟩
  rw [has_of_not_blank (by decide)]
  exact List.any_eq_true.mpr ⟨_, List.mem_singleton.mpr rfl, hitem⟩

theorem has_trim (port : Int) (spec : String) : has port (trim spec) = has port spec := by
  have htrim : trimChars (trim spec).toList = trimChars spec.toList := by
    rw [trim, String.toList_ofList]
    exact trimBy_trimBy isBlank _
  rw [has, has, htrim]

theorem has_of_isAll (h : isAll spec = true) (h₁ : 1 ≤ port) (h₂ : port ≤ 65535) :
    has port spec = true := by
  rw [isAll, Bool.or_eq_true, beq_iff_eq, beq_iff_eq] at h
  rw [← has_trim]
  rcases h with h | h
  · rw [h]
    exact has_of_blank (List.forall_mem_nil _)
  · rw [h]
    exact has_all h₁ h₂

/-- A specification that may name every port in another way than by being blank or `1-65535`: with
several items, or with one range that is spelled otherwise or is wider. -/
inductive Respelled (spec : String) : Prop
  | items (comma : ',' ∈ spec.toList)
  | range {low high : List Char} {lo hi : Int}
    (text : trimChars spec.toList = low ++ '-' :: high) (first : '-' ∉ low)
    (reads : readInt? low = some lo) (reads' : readInt? high = some hi) (least : lo ≤ 1)
    (most : 65535 ≤ hi) (other : trim spec ≠ all)

theorem not_respelled_of_isAll (h : isAll spec = true) : ¬ Respelled spec := by
  rw [isAll, Bool.or_eq_true, beq_iff_eq, beq_iff_eq] at h
  have htext : trimChars spec.toList = (trim spec).toList := by rw [trim, String.toList_ofList]
  rintro (comma | ⟨text, -, -, -, -, -, other⟩)
  · have hmem : ',' ∈ (trim spec).toList := by
      obtain ⟨before, after, he, hb, ha⟩ := exists_trimBy isBlank spec.toList
      rw [he] at comma
      simp only [List.mem_append] at comma
      rcases comma with (hc | hc) | hc
      · exact absurd (hb _ hc) (by decide)
      · rw [← htext]
        exact hc
      · exact absurd (ha _ hc) (by decide)
    rcases h with h | h
    · rw [h] at hmem
      exact absurd hmem (by decide)
    · rw [h] at hmem
      exact absurd hmem (by decide)
  · rcases h with h | h
    · rw [htext, h] at text
      exact List.append_ne_nil_of_right_ne_nil _ (List.cons_ne_nil _ _) text.symm
    · exact other h

theorem respelled_of_segmentHas (h₁ : segmentHas 1 spec.toList = true)
    (h₂ : segmentHas 65535 spec.toList = true) (other : trim spec ≠ all) : Respelled spec := by
  rw [segmentHas] at h₁ h₂
  cases hcut : cutAt? '-' (trimChars spec.toList) with
  | none =>
    rw [hcut] at h₁ h₂
    dsimp only at h₁ h₂
    rw [beq_iff_eq] at h₁ h₂
    rw [h₁] at h₂
    cases h₂
  | some halves =>
    obtain ⟨low, high⟩ := halves
    obtain ⟨text, first⟩ := cutAt?_eq_some hcut
    rw [hcut] at h₁ h₂
    dsimp only at h₁ h₂
    split at h₁
    case h_1 lo hi hlo hhi =>
      rw [hlo, hhi] at h₂
      simp only [Bool.and_eq_true, decide_eq_true_eq] at h₁ h₂
      exact .range text first hlo hhi h₁.1 h₂.2 other
    case h_2 => cases h₁

theorem isAll_of_has (h : ∀ port, 1 ≤ port → port ≤ 65535 → has port spec = true)
    (hplain : ¬ Respelled spec) : isAll spec = true := by
  rw [isAll, Bool.or_eq_true, beq_iff_eq, beq_iff_eq]
  by_cases hblank : ∀ c ∈ spec.toList, isBlank c = true
  · exact .inl (trim_eq_empty.mpr hblank)
  have hsome : ∃ c ∈ spec.toList, isBlank c = false := by
    simpa only [not_forall, Bool.not_eq_true, exists_prop] using hblank
  have hone : segments spec.toList = [spec.toList] :=
    splitOnChar_of_not_mem fun comma => hplain (.items comma)
  have hitem (port : Int) (h₁ : 1 ≤ port) (h₂ : port ≤ 65535) :
      segmentHas port spec.toList = true := by
    have hport := h port h₁ h₂
    rwa [has_of_not_blank hsome, hone, List.any_cons, List.any_nil, Bool.or_false] at hport
  by_contra hother
  rw [not_or] at hother
  exact hplain (respelled_of_segmentHas (hitem 1 (by decide) (by decide))
    (hitem 65535 (by decide) (by decide)) hother.2)

/-- An item of a specification: a port, the ports from one to another, or a remark. -/
inductive Item where
  | port (n : Nat)
  | range (lo hi : Nat)
  | junk

/-- The item names the port. -/
def Item.Names (p : Int) : Item → Prop
  | .port n => p = n
  | .range lo hi => lo ≤ p ∧ p ≤ hi
  | .junk => False

/-- How an item may be written. -/
inductive Item.Written (space : Char → Bool) : Item → List Char → Prop
  | port {ds text : List Char} {n : Nat} (hn : Numeral ds n) (hs : SpacedOut space ds text) :
    Written space (.port n) text
  | range {low high text : List Char} {lo hi : Nat} (hlo : Numeral low lo) (hhi : Numeral high hi)
    (hs : SpacedOut space (low ++ '-' :: high) text) : Written space (.range lo hi) text
  | junk {text : List Char} (comma : ',' ∉ text) (digits : ∀ c ∈ text, isDecimalDigit c = false) :
    Written space .junk text

theorem Item.Written.bare_port {ds : List Char} {n : Nat} (h : Numeral ds n) :
    Item.Written space (.port n) ds :=
  .port h (.bare_word h.solid (h.not_mem (by decide)))

theorem Item.Written.bare_range {lo hi : Nat} (hlo : Numeral low lo) (hhi : Numeral high hi) :
    Item.Written space (.range lo hi) (low ++ '-' :: high) :=
  .range hlo hhi (.bare_range hlo.solid (hlo.not_mem (by decide)) hhi.solid)

theorem Item.Written.segmentHas_iff {item : Item} (h : item.Written isSpace segment) :
    segmentHas port segment = true ↔ item.Names port := by
  cases h with
  | port hn hs =>
    rw [segmentHas_spacedOut hs, segmentHas_solid_word hn.solid (hn.not_mem (by decide)),
      hn.readInt?, beq_iff_eq, Option.some.injEq, Item.Names]
    exact eq_comm
  | range hlo hhi hs =>
    rw [segmentHas_spacedOut hs, segmentHas_solid_range hlo.solid (hlo.not_mem (by decide)) hhi.solid,
      between_of_numerals hlo hhi, Item.Names]
  | junk comma digits =>
    rw [segmentHas_of_no_digit digits, Item.Names]
    exact iff_of_false Bool.false_ne_true not_false

theorem Item.Written.comma_not_mem {item : Item} (h : item.Written isSpace segment) :
    ',' ∉ segment := by
  have hword {word : List Char} (hs : SpacedOut isSpace word segment) (hno : ',' ∉ word) :
      ',' ∉ segment := by
    intro hmem
    rcases hs.mem_cases hmem with hc | hc | hc
    · exact hno hc
    · exact absurd hc (by decide)
    · exact absurd hc (by decide)
  cases h with
  | port hn hs => exact hword hs (hn.not_mem (by decide))
  | range hlo hhi hs =>
    apply hword hs
    simp only [List.mem_append, List.mem_cons, not_or]
    exact ⟨hlo.not_mem (by decide), by decide, hhi.not_mem (by decide)⟩
  | junk comma digits => exact comma

/-- A specification that says more than blanks and is made of the items, in that order. -/
structure Spells (space : Char → Bool) (items : List Item) (spec : String) : Prop where
  written : ∃ texts, List.Forall₂ (Item.Written space) items texts ∧
    spec.toList = [','].intercalate texts
  notBlank : ∃ c ∈ spec.toList, isBlank c = false

/-- Items that may name a port: no remarks, and no ranges that end before they begin. -/
def Item.Proper (item : Item) : Prop := ∃ p, item.Names p

variable {items items' : List Item} {spec' : String}

theorem Spells.texts_ne_nil {texts : List (List Char)} (h : Spells space items spec)
    (he : spec.toList = [','].intercalate texts) : texts ≠ [] := by
  rintro rfl
  obtain ⟨c, hc, -⟩ := h.notBlank
  rw [he] at hc
  exact List.not_mem_nil hc

theorem any_segmentHas {texts : List (List Char)}
    (h : List.Forall₂ (Item.Written isSpace) items texts) :
    texts.any (segmentHas port) = true ↔ ∃ item ∈ items, item.Names port := by
  induction h with
  | nil => simp only [List.any_nil, Bool.false_eq_true, List.not_mem_nil, false_and, exists_false]
  | cons hw _ ih =>
    rw [List.any_cons, Bool.or_eq_true, ih, hw.segmentHas_iff]
    simp only [List.mem_cons, exists_eq_or_imp]

theorem Spells.has_iff (h : Spells isSpace items spec) :
    has port spec = true ↔ ∃ item ∈ items, item.Names port := by
  obtain ⟨texts, hw, he⟩ := h.written
  have hcomma : ∀ text ∈ texts, ',' ∉ text := by
    intro text ht
    obtain ⟨-, item, -, -, hitem⟩ := Result.of_mem_forall₂ hw.flip ht
    exact hitem.comma_not_mem
  have hsegments : segments spec.toList = texts := by
    rw [segments, he, splitOnChar_intercalate hcomma (h.texts_ne_nil he)]
  rw [has_of_not_blank h.notBlank, hsegments]
  exact any_segmentHas hw

theorem Spells.append (h : Spells space items spec) (h' : Spells space items' spec') :
    Spells space (items ++ items') (spec ++ "," ++ spec') := by
  obtain ⟨texts, hw, he⟩ := h.written
  obtain ⟨texts', hw', he'⟩ := h'.written
  have hjoin : (spec ++ "," ++ spec').toList = spec.toList ++ [','] ++ spec'.toList := by
    rw [String.toList_append, String.toList_append]
    rfl
  constructor
  · refine ⟨texts ++ texts', List.rel_append hw hw', ?_⟩
    rw [hjoin, he, he', intercalate_append (h.texts_ne_nil he) (h'.texts_ne_nil he')]
  · obtain ⟨c, hc, hblank⟩ := h.notBlank
    rw [hjoin]
    exact ⟨c, List.mem_append_left _ (List.mem_append_left _ hc), hblank⟩

/-- A specification names a port if one of its items does. The order of the items, items that stand
twice, remarks and ranges that end before they begin do not matter, and of two specifications joined
by a comma each counts. -/
theorem has_spelled (h : Spells isSpace items spec) (port : Int) :
    (has port spec = true ↔ ∃ item ∈ items, item.Names port) ∧
    (∀ items' spec', Spells isSpace items' spec' →
      (∀ item : Item, item.Proper → (item ∈ items' ↔ item ∈ items)) →
      has port spec' = has port spec) ∧
    ∀ items' spec', Spells isSpace items' spec' →
      has port (spec ++ "," ++ spec') = (has port spec || has port spec') := by
  refine ⟨h.has_iff, ?_, ?_⟩
  · intro items' spec' h' hsame
    rw [Bool.eq_iff_iff, h'.has_iff, h.has_iff]
    constructor
    · rintro ⟨item, hm, hp⟩
      exact ⟨item, (hsame item ⟨port, hp⟩).mp hm, hp⟩
    · rintro ⟨item, hm, hp⟩
      exact ⟨item, (hsame item ⟨port, hp⟩).mpr hm, hp⟩
  · intro items' spec' h'
    rw [Bool.eq_iff_iff, (h.append h').has_iff, Bool.or_eq_true, h.has_iff, h'.has_iff]
    simp only [List.mem_append, or_and_right, exists_or]

/-- A port after a remark and a range that ends before it begins, and the same port written twice.
-/
theorem has_spelled_remark :
    let items : List Item := [.junk, .range 90 80, .port 22]
    let items' : List Item := [.port 22, .port 22]
    Spells isSpace items "web,90 -80,\t22" ∧ Spells isSpace items' "22,\t22" ∧
      (∀ item : Item, item.Proper → (item ∈ items' ↔ item ∈ items)) ∧
      has 22 "web,90 -80,\t22" = true ∧ has 22 "22,\t22" = true ∧
      has 22 "web,90 -80,\t22,22,\t22" = true := by
  intro items items'
  have h22 : Numeral ['2', '2'] 22 := by decide
  have h80 : Numeral ['8', '0'] 80 := by decide
  have h90 : Numeral ['9', '0'] 90 := by decide
  have hport : SpacedOut isSpace ['2', '2'] (['\t'] ++ ['2', '2'] ++ []) :=
    .word (by decide) h22.solid (h22.not_mem (by decide)) (by decide)
  have hback : SpacedOut isSpace (['9', '0'] ++ '-' :: ['8', '0'])
      ([] ++ ['9', '0'] ++ [' '] ++ '-' :: ([] ++ ['8', '0'] ++ [])) :=
    .range (by decide) h90.solid (h90.not_mem (by decide)) (by decide) (by decide) h80.solid
      (by decide)
  have hspells : Spells isSpace items "web,90 -80,\t22" := by
    refine ⟨⟨[['w', 'e', 'b'], ['9', '0', ' ', '-', '8', '0'], ['\t', '2', '2']], ?_, rfl⟩,
      by decide⟩
    exact .cons (.junk (by decide) (by decide)) (.cons (.range h90 h80 hback)
      (.cons (.port h22 hport) .nil))
  have hspells' : Spells isSpace items' "22,\t22" := by
    refine ⟨⟨[['2', '2'], ['\t', '2', '2']], ?_, rfl⟩, by decide⟩
    exact .cons (.bare_port h22) (.cons (.port h22 hport) .nil)
  have hsame : ∀ item : Item, item.Proper → (item ∈ items' ↔ item ∈ items) := by
    rintro item ⟨p, hp⟩
    simp only [items, items', List.mem_cons, List.not_mem_nil, or_false, or_self]
    constructor
    · exact fun h => .inr (.inr h)
    · rintro (rfl | rfl | rfl)
      · exact hp.elim
      · rw [Item.Names] at hp
        omega
      · rfl
  have hhas : has 22 "web,90 -80,\t22" = true := by
    rw [(has_spelled hspells 22).1]
    exact ⟨.port 22, List.mem_of_mem_getLast? rfl, rfl⟩
  have hhas' : has 22 "22,\t22" = true := by
    rw [(has_spelled hspells 22).2.1 items' _ hspells' hsame]
    exact hhas
  have hjoin := (has_spelled hspells 22).2.2 items' _ hspells'
  rw [hhas, Bool.true_or] at hjoin
  exact ⟨hspells, hspells', hsame, hhas, hhas', hjoin⟩

/-- A blank beside the hyphen that is one of the four separators of ASCII hides the range. -/
theorem has_spelled_separator :
    Spells isBlank [.range 20 25] "20\x1c-25" ∧ Item.Names 22 (.range 20 25) ∧
      has 22 "20\x1c-25" = false := by
  have h20 : Numeral ['2', '0'] 20 := by decide
  have h25 : Numeral ['2', '5'] 25 := by decide
  have hrange : SpacedOut isBlank (['2', '0'] ++ '-' :: ['2', '5'])
      ([] ++ ['2', '0'] ++ ['\x1c'] ++ '-' :: ([] ++ ['2', '5'] ++ [])) :=
    .range (by decide) h20.solid (h20.not_mem (by decide)) (by decide) (by decide) h25.solid
      (by decide)
  have hspells : Spells isBlank [.range 20 25] "20\x1c-25" := by
    refine ⟨⟨[['2', '0', '\x1c', '-', '2', '5']], ?_, rfl⟩, by decide⟩
    exact .cons (.range h20 h25 hrange) .nil
  refine ⟨hspells, ?_, by decide +kernel⟩
  rw [Item.Names]
  omega

end CloudAudit.Ports
