import CloudAudit.Proofs.Text.Case

namespace CloudAudit.Text

variable {c d : Char} {before after cs rest value : List Char}

theorem ne_nil_of_mem_lowerExpansions : ∀ e ∈ lowerExpansions, e.2 ≠ [] := by
  decide

theorem lowerChar_ne_nil (c : Char) : lowerChar c ≠ [] := by
  rw [lowerChar]
  split
  · exact List.cons_ne_nil _ _
  · exact otherCase_ne_nil ne_nil_of_mem_lowerExpansions

theorem solid_of_mem_lowerExpansions : ∀ e ∈ lowerExpansions,
    isBlank (Char.ofNat e.1) = false ∧ ∀ code ∈ e.2, isBlank (Char.ofNat code) = false := by
  decide +kernel

/-- Stretches of code points that hold all blanks but no letters. -/
def blankRuns : List (Nat × Nat) :=
  [(0x09, 0x20), (0x85, 0xA0), (0x1680, 0x1680), (0x2000, 0x205F), (0x3000, 0x3000)]

theorem exists_blankRun (h : isBlank c = true) :
    ∃ blank ∈ blankRuns, blank.1 ≤ c.toNat ∧ c.toNat ≤ blank.2 := by
  simp only [isBlank, isSpace, Bool.or_eq_true, Bool.and_eq_true, decide_eq_true_eq,
    beq_iff_eq] at h
  simp only [blankRuns, List.mem_cons, List.not_mem_nil, or_false, exists_eq_or_imp,
    exists_eq_left]
  omega

theorem pos_of_mem_blankRuns : ∀ blank ∈ blankRuns, 0 < blank.1 := by
  decide

theorem solid_of_outside {code : Nat} (h : ∀ blank ∈ blankRuns, code < blank.1 ∨ blank.2 < code) :
    isBlank (Char.ofNat code) = false := by
  apply Bool.eq_false_iff.mpr
  intro hblank
  by_cases hcode : code.isValidChar
  · obtain ⟨blank, hmem, hlow, hhigh⟩ := exists_blankRun hblank
    rw [Char.ofNat, dif_pos hcode] at hlow hhigh
    have hlow : blank.1 ≤ code := hlow
    have hhigh : code ≤ blank.2 := hhigh
    have hout := h blank hmem
    omega
  · rw [Char.ofNat, dif_neg hcode] at hblank
    exact absurd hblank (by decide)

theorem lowerRuns_outside : ∀ run ∈ lowerRuns, ∀ blank ∈ blankRuns,
    (run.last < blank.1 ∨ blank.2 < run.first) ∧
      (run.last + run.shift < blank.1 ∨ blank.2 < run.first + run.shift) := by
  decide +kernel

theorem isBlank_of_mem_lowerChar : ∀ d ∈ lowerChar c, isBlank d = isBlank c := by
  by_cases hc : c.toNat < 0x80
  · apply forall_ascii (motive := fun c => ∀ d ∈ lowerChar c, isBlank d = isBlank c) _ hc
    decide +kernel
  intro d hd
  rw [lowerChar, if_neg hc] at hd
  rcases mem_otherCase hd with ⟨e, he, hfrom, code, hcode, rfl⟩ | ⟨run, hrun, code, hcode, rfl⟩ | rfl
  · obtain ⟨hsolid, hcodes⟩ := solid_of_mem_lowerExpansions e he
    rw [hfrom, Char.ofNat_toNat] at hsolid
    rw [hsolid, hcodes code hcode]
  · rw [CaseRun.partner?] at hcode
    split at hcode
    case isTrue hin =>
      cases hcode
      have hfrom : isBlank (Char.ofNat c.toNat) = false := by
        apply solid_of_outside
        intro blank hblank
        have hout := lowerRuns_outside run hrun blank hblank
        omega
      have hto : isBlank (Char.ofNat (c.toNat + run.shift).toNat) = false := by
        apply solid_of_outside
        intro blank hblank
        have hout := lowerRuns_outside run hrun blank hblank
        have hpos := pos_of_mem_blankRuns blank hblank
        omega
      rw [Char.ofNat_toNat] at hfrom
      rw [hfrom, hto]
    case isFalse => cases hcode
  · rfl

/-- The small form of a character with these characters before it and those behind it. -/
def lowerAt (before : List Char) (c : Char) (after : List Char) : List Char :=
  if c = capitalSigma then [if meetsCased before && !meetsCased after then 'ς' else 'σ']
  else lowerChar c

theorem lowerFrom_cons (before : List Char) (c : Char) (cs : List Char) :
    lowerFrom before (c :: cs) = lowerAt before c cs ++ lowerFrom (c :: before) cs := rfl

theorem length_lowerAt (before : List Char) (c : Char) (after : List Char) :
    (lowerAt before c after).length = (lowerChar c).length := by
  rw [lowerAt]
  split
  case isTrue h =>
    rw [h]
    rfl
  case isFalse => rfl

theorem lowerAt_ne_nil : lowerAt before c after ≠ [] := by
  rw [← List.length_pos_iff, length_lowerAt, List.length_pos_iff]
  exact lowerChar_ne_nil c

theorem isBlank_of_mem_lowerAt (h : d ∈ lowerAt before c after) : isBlank d = isBlank c := by
  rw [lowerAt] at h
  split at h
  case isTrue hc =>
    rw [hc]
    have hsigma : d = 'ς' ∨ d = 'σ' := by
      rw [List.mem_singleton] at h
      split at h
      · exact .inl h
      · exact .inr h
    rcases hsigma with rfl | rfl <;> decide
  case isFalse => exact isBlank_of_mem_lowerChar d h

theorem length_lowerFrom (before cs : List Char) :
    (lowerFrom before cs).length = (cs.flatMap lowerChar).length := by
  induction cs generalizing before with
  | nil => rfl
  | cons c cs ih =>
    rw [lowerFrom_cons, List.length_append, length_lowerAt, ih, List.flatMap_cons,
      List.length_append]

theorem length_lowerChars_append (cs rest : List Char) :
    (lowerChars (cs ++ rest)).length = (lowerChars cs).length + (lowerChars rest).length := by
  simp only [lowerChars, length_lowerFrom, List.flatMap_append, List.length_append]

theorem lowerChars_eq_nil : lowerChars cs = [] ↔ cs = [] := by
  cases cs with
  | nil => exact iff_of_true rfl rfl
  | cons c cs =>
    rw [lowerChars, lowerFrom_cons, List.append_eq_nil_iff]
    exact iff_of_false (fun h => lowerAt_ne_nil h.1) (List.cons_ne_nil c cs)

/-- The small form of a text that has another text behind it. -/
def lowerBefore (rest before : List Char) : List Char → List Char
  | [] => []
  | c :: cs => lowerAt before c (cs ++ rest) ++ lowerBefore rest (c :: before) cs

theorem lowerFrom_append (before cs rest : List Char) :
    lowerFrom before (cs ++ rest) =
      lowerBefore rest before cs ++ lowerFrom (cs.reverse ++ before) rest := by
  induction cs generalizing before with
  | nil => rfl
  | cons c cs ih =>
    rw [List.cons_append, lowerFrom_cons, ih, lowerBefore, List.append_assoc, List.reverse_cons,
      List.append_assoc]
    rfl

theorem length_lowerBefore (rest before cs : List Char) :
    (lowerBefore rest before cs).length = (lowerFrom before cs).length := by
  induction cs generalizing before with
  | nil => rfl
  | cons c cs ih =>
    rw [lowerBefore, lowerFrom_cons, List.length_append, List.length_append, length_lowerAt,
      length_lowerAt, ih]

/-- The last character of a small form is blank just where that of the text is. -/
theorem getLast?_lowerFrom (before cs : List Char) :
    (lowerFrom before cs).getLast?.map isBlank = cs.getLast?.map isBlank := by
  cases cs using List.reverseRecOn with
  | nil => rfl
  | append_singleton cs c =>
    have hsingle : lowerFrom (cs.reverse ++ before) [c] = lowerAt (cs.reverse ++ before) c [] :=
      List.append_nil _
    rw [lowerFrom_append, hsingle, List.getLast?_append_of_ne_nil _ lowerAt_ne_nil,
      List.getLast?_concat]
    have hne : lowerAt (cs.reverse ++ before) c [] ≠ [] := lowerAt_ne_nil
    rw [List.getLast?_eq_some_getLast hne, Option.map_some, Option.map_some,
      isBlank_of_mem_lowerAt (List.getLast_mem _)]

theorem lowerChars_trimBy {p : Char → Bool} :
    lowerChars (trimBy p cs) = lowerChars cs ↔ trimBy p cs = cs := by
  constructor
  · intro h
    obtain ⟨before, after, he, -, -⟩ := exists_trimBy p cs
    have hlength := congrArg (fun cs => (lowerChars cs).length) he
    rw [length_lowerChars_append, length_lowerChars_append, h] at hlength
    have hb : before = [] := lowerChars_eq_nil.mp (List.eq_nil_of_length_eq_zero (by omega))
    have ha : after = [] := lowerChars_eq_nil.mp (List.eq_nil_of_length_eq_zero (by omega))
    rw [hb, ha, List.nil_append, List.append_nil] at he
    exact he.symm
  · exact congrArg lowerChars

theorem lowerChars_trimChars_colon (before value : List Char) :
    lowerChars (trimChars (before ++ ':' :: value)) ≠ lowerChars value := by
  intro h
  have hshape : trimChars (before ++ ':' :: value) =
      before.dropWhile isBlank ++ ':' :: value.rdropWhile isBlank := by
    change (List.dropWhile isBlank _).rdropWhile isBlank = _
    rw [dropWhile_append_cons (by decide), rdropWhile_append_cons (by decide)]
  -- The trimmed text does not end in a blank, so the value does not either and is all there.
  have hlast : ∀ c ∈ value.getLast?, isBlank c = false := by
    intro c hc
    have hends := congrArg (fun cs => cs.getLast?.map isBlank) h
    rw [lowerChars, lowerChars, getLast?_lowerFrom, getLast?_lowerFrom, Option.mem_def.mp hc,
      Option.map_some, Option.map_eq_some_iff] at hends
    obtain ⟨d, hd, he⟩ := hends
    rw [← he]
    exact not_blank_of_getLast?_trimBy hd
  have hall : value.rdropWhile isBlank = value := by
    rw [List.rdropWhile_eq_self_iff]
    intro hne
    rw [hlast _ (List.getLast?_eq_some_getLast hne)]
    exact Bool.false_ne_true
  have hlength := congrArg List.length h
  have hcolon : (lowerChars (':' :: value)).length = 1 + (lowerChars value).length :=
    length_lowerChars_append [':'] value
  rw [hshape, hall, length_lowerChars_append, hcolon] at hlength
  omega

/-- Whether a character is passed over where a letter with case is looked for. -/
def isPassedOver (c : Char) : Bool :=
  caseIgnorableRanges.any fun (first, last) => first ≤ c.toNat && c.toNat ≤ last

theorem meetsCased_append_of_passed (h : ∀ c ∈ cs, isPassedOver c = true) (rest : List Char) :
    meetsCased (cs ++ rest) = meetsCased rest := by
  have hdrop : (cs ++ rest).dropWhile isPassedOver = rest.dropWhile isPassedOver :=
    List.dropWhile_append_of_pos h
  change ((List.dropWhile isPassedOver (cs ++ rest)).head?.map _).getD false = _
  rw [hdrop]
  rfl

theorem meetsCased_of_passed (h : ∀ c ∈ cs, isPassedOver c = true) : meetsCased cs = false := by
  have hnil := meetsCased_append_of_passed h []
  rwa [List.append_nil] at hnil

theorem meetsCased_append_of_not_passed (h : ¬ ∀ c ∈ cs, isPassedOver c = true)
    (rest : List Char) : meetsCased (cs ++ rest) = meetsCased cs := by
  have hne : cs.dropWhile isPassedOver ≠ [] := fun hnil => h (List.dropWhile_eq_nil_iff.mp hnil)
  have hdrop : (cs ++ rest).dropWhile isPassedOver = cs.dropWhile isPassedOver ++ rest := by
    rw [List.dropWhile_append, if_neg (fun he => hne (List.isEmpty_iff.mp he))]
  change ((List.dropWhile isPassedOver (cs ++ rest)).head?.map _).getD false = _
  rw [hdrop, List.head?_append_of_ne_nil _ hne]
  rfl

theorem meetsCased_colon (cs value : List Char) :
    meetsCased (cs ++ ':' :: value) = meetsCased cs ↔
      ¬ ((∀ c ∈ cs, isPassedOver c = true) ∧ meetsCased value = true) := by
  have hpassed : ∀ c ∈ [':'], isPassedOver c = true := by decide
  have hcolon : meetsCased (':' :: value) = meetsCased value :=
    meetsCased_append_of_passed hpassed value
  by_cases h : ∀ c ∈ cs, isPassedOver c = true
  · rw [meetsCased_append_of_passed h, meetsCased_of_passed h, hcolon, and_iff_right h,
      Bool.not_eq_true]
  · rw [meetsCased_append_of_not_passed h]
    exact iff_of_true rfl fun hboth => h hboth.1

theorem lowerAt_eq_iff {after' : List Char} : lowerAt before c after = lowerAt before c after' ↔
    (c = capitalSigma → meetsCased before = true → meetsCased after = meetsCased after') := by
  rw [lowerAt, lowerAt]
  by_cases hc : c = capitalSigma
  · rw [if_pos hc, if_pos hc, forall_prop_of_true hc]
    cases meetsCased before <;> cases meetsCased after <;> cases meetsCased after' <;> decide
  · rw [if_neg hc, if_neg hc]
    exact iff_of_true rfl fun h => absurd h hc

theorem lowerBefore_cons_eq_iff :
    lowerBefore rest before (c :: cs) = lowerFrom before (c :: cs) ↔
      lowerAt before c (cs ++ rest) = lowerAt before c cs ∧
        lowerBefore rest (c :: before) cs = lowerFrom (c :: before) cs := by
  rw [lowerBefore, lowerFrom_cons]
  constructor
  · intro h
    exact List.append_inj h (by rw [length_lowerAt, length_lowerAt])
  · rintro ⟨hhead, htail⟩
    rw [hhead, htail]

theorem lowerBefore_eq_iff : lowerBefore rest before cs = lowerFrom before cs ↔
    ∀ first last, cs = first ++ capitalSigma :: last → meetsCased (first.reverse ++ before) = true →
      meetsCased (last ++ rest) = meetsCased last := by
  induction cs generalizing before with
  | nil =>
    apply iff_of_true rfl
    intro first last he
    cases first <;> cases he
  | cons c cs ih =>
    rw [lowerBefore_cons_eq_iff, lowerAt_eq_iff, ih]
    constructor
    · rintro ⟨hhead, htail⟩ first last he hmeets
      cases first with
      | nil =>
        cases he
        exact hhead rfl hmeets
      | cons x first =>
        cases he
        apply htail first last rfl
        rwa [List.reverse_cons, List.append_assoc] at hmeets
    · intro h
      constructor
      · rintro rfl hmeets
        exact h [] cs rfl hmeets
      · rintro first last rfl hmeets
        apply h (c :: first) last rfl
        rwa [List.reverse_cons, List.append_assoc]

/-- A word goes on from one text into another, behind a capital sigma that is the last letter of the
first. -/
def SplitsWord (cs rest : List Char) : Prop :=
  ∃ before after, cs = before ++ capitalSigma :: after ∧ meetsCased before.reverse = true ∧
    (∀ c ∈ after, isPassedOver c = true) ∧ meetsCased rest = true

/-- A small form with a colon begins that of a longer text, but where the colon is in a word behind
a capital sigma, which would be the last letter of the word without the rest. -/
theorem prefix_lowerChars (cs value : List Char) :
    lowerChars cs ++ [':'] <+: lowerChars (cs ++ ':' :: value) ↔ ¬ SplitsWord cs value := by
  have hsplit : lowerChars (cs ++ ':' :: value) =
      lowerBefore (':' :: value) [] cs ++ ':' :: lowerFrom (':' :: cs.reverse) value := by
    rw [lowerChars, lowerFrom_append, List.append_nil]
    rfl
  have hsame : lowerChars cs ++ [':'] <+: lowerChars (cs ++ ':' :: value) ↔
      lowerBefore (':' :: value) [] cs = lowerFrom [] cs := by
    rw [hsplit]
    constructor
    · rintro ⟨rest, h⟩
      rw [List.append_assoc] at h
      exact (List.append_inj h (length_lowerBefore _ _ _).symm).1.symm
    · intro h
      rw [h]
      exact ⟨lowerFrom (':' :: cs.reverse) value, List.append_assoc _ _ _⟩
  rw [hsame, lowerBefore_eq_iff]
  simp only [List.append_nil, meetsCased_colon]
  constructor
  · rintro h ⟨first, last, he, hmeets, hpassed, hvalue⟩
    exact h first last he hmeets ⟨hpassed, hvalue⟩
  · rintro h first last he hmeets ⟨hpassed, hvalue⟩
    exact h ⟨first, last, he, hmeets, hpassed, hvalue⟩

end CloudAudit.Text
