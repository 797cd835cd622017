import CloudAudit.Proofs.Store.Findings

namespace CloudAudit

variable {a b id : String}

namespace Store

variable {s s' s'' : Store} {now : Time.Moment}

/-- A store holds what another one holds for every account but one. -/
structure SameBut (a : String) (s s' : Store) : Prop where
  rules : s'.rules.filter (·.accountId != some a) = s.rules.filter (·.accountId != some a)
  overrides : s'.overrides.filter (·.accountId != a) = s.overrides.filter (·.accountId != a)
  findings : ∀ b ≠ a, s'.findingsOf b = s.findingsOf b
  scores : s'.scores.filter (·.accountId != a) = s.scores.filter (·.accountId != a)
  notes : s'.notes.filter (·.accountId != a) = s.notes.filter (·.accountId != a)
  lastRuns : ∀ b ≠ a, s'.lastRun? b = s.lastRun? b

namespace SameBut

theorem refl (a : String) (s : Store) : SameBut a s s :=
  ⟨rfl, rfl, fun _ _ => rfl, rfl, rfl, fun _ _ => rfl⟩

theorem trans (h : SameBut a s s') (h' : SameBut a s' s'') : SameBut a s s'' where
  rules := h'.rules.trans h.rules
  overrides := h'.overrides.trans h.overrides
  findings := fun b hb => (h'.findings b hb).trans (h.findings b hb)
  scores := h'.scores.trans h.scores
  notes := h'.notes.trans h.notes
  lastRuns := fun b hb => (h'.lastRuns b hb).trans (h.lastRuns b hb)

theorem filter_of_imp {α : Type} {p q : α → Bool} {rows rows' : List α}
    (h : rows'.filter q = rows.filter q) (hpq : ∀ x, p x = true → q x = true) :
    rows'.filter p = rows.filter p := by
  have hf (rows : List α) : (rows.filter q).filter p = rows.filter p := by
    rw [List.filter_filter]
    refine List.filter_congr fun x _ => ?_
    cases hp : p x with
    | false => rfl
    | true => exact hpq x hp
  rw [← hf rows', h, hf]

theorem ne_of_owner (hb : b ≠ a) {c : String} (hc : (c == b) = true) : (c != a) = true := by
  rw [bne_iff_ne, eq_of_beq hc]
  exact hb

theorem overridesOf (h : SameBut a s s') (hb : b ≠ a) : s'.overridesOf b = s.overridesOf b :=
  filter_of_imp h.overrides fun _ => ne_of_owner hb

theorem notesOf (h : SameBut a s s') (hb : b ≠ a) : s'.notesOf b = s.notesOf b :=
  filter_of_imp h.notes fun _ => ne_of_owner hb

theorem scoreHistory (h : SameBut a s s') (hb : b ≠ a) (limit : Int) :
    s'.scoreHistory b limit = s.scoreHistory b limit := by
  have hs := filter_of_imp (p := (·.accountId == b)) h.scores fun _ => ne_of_owner hb
  rw [Store.scoreHistory, Store.scoreHistory, hs]

theorem visible (h : SameBut a s s') (hb : b ≠ a) :
    Rule.visible s'.rules b = Rule.visible s.rules b := by
  refine filter_of_imp h.rules fun r hr => ?_
  rw [bne_iff_ne]
  intro ha
  rw [Rule.visibleTo, ha] at hr
  exact hb (eq_of_beq hr).symm

theorem accountRules (h : SameBut a s s') (hb : b ≠ a) :
    s'.accountRules b = s.accountRules b := by
  rw [Store.accountRules, Store.accountRules, h.overridesOf hb, h.visible hb]

end SameBut

theorem putRule_sameBut {r : Rule} (h : s.registrationFault? a r = none) :
    SameBut a s (s.putRule r) where
  __ := SameBut.refl a s
  rules := by
    rw [registrationFault?] at h
    split at h
    · cases h
    case isFalse ha =>
      rw [ne_eq, not_not] at ha
      refine Table.filter_upsert (by simp [ha]) fun known hk => ?_
      rw [hk] at h
      dsimp only at h
      split at h
      case isTrue ha => simp [ha]
      case isFalse => cases h

theorem registerRules_sameBut (s : Store) (a : String) (rules : List Rule) :
    SameBut a s (s.registerRules a rules).2 := by
  induction rules generalizing s with
  | nil => exact .refl a s
  | cons r rest ih =>
    rw [registerRules]
    split
    · exact .refl a s
    case h_2 h => exact (putRule_sameBut h).trans (ih (s.putRule r))

theorem putOverride_sameBut {o : Override} (h : o.accountId = a) :
    SameBut a s (s.putOverride o) where
  __ := SameBut.refl a s
  overrides := by
    refine Table.filter_upsert (by simp [h]) fun known hk => ?_
    have ho := congrArg Prod.fst (Table.mem_of_find? hk).2
    simpa [h] using ho

theorem replaceOverrides_sameBut (s : Store) (a : String) (rows : List Override) :
    SameBut a s (s.replaceOverrides a rows) where
  __ := SameBut.refl a s
  overrides := by
    have hnone : (Override.forAccount rows a).filter (·.accountId != a) = [] := by
      rw [List.filter_eq_nil_iff]
      intro o ho
      simpa using (List.mem_filter.mp (Table.mem_ofList ho)).2
    rw [replaceOverrides, List.filter_append, hnone, List.append_nil, List.filter_filter]
    simp only [Bool.and_self]

theorem toggleRule_sameBut {isActive : Bool} {r : AccountRule × Store}
    (h : s.toggleRule a id isActive now = .ok r) : SameBut a s r.2 := by
  obtain ⟨rule, -, -, -, -, he⟩ := toggleRule_ok h
  rw [he]
  exact putOverride_sameBut rfl

theorem applyProfile_sameBut {r : ProfileApplication × Store}
    (h : s.applyProfile a id now = .ok r) : SameBut a s r.2 := by
  obtain ⟨profile, -, -, he⟩ := applyProfile_ok h
  rw [he]
  exact replaceOverrides_sameBut s a _

theorem replaceFindings_sameBut (s : Store) (a : String) (rows : List Finding) :
    SameBut a s (s.replaceFindings a rows) where
  __ := SameBut.refl a s
  findings := fun b hb => by rw [findingsOf_replaceFindings, if_neg hb]

theorem updateFinding_sameBut {f : Finding} (hf : f.accountId = a)
    (h : s.updateFinding f = .ok s') : SameBut a s s' := by
  subst hf
  rw [updateFinding_ok h]
  exact replaceFindings_sameBut s f.accountId _

theorem putNote_sameBut {n : Note} (h : n.accountId = a) (hfresh : ∀ m ∈ s.notes, m.id ≠ n.id) :
    SameBut a s (s.putNote n) where
  __ := SameBut.refl a s
  notes := by
    refine Table.filter_upsert (by simp [h]) fun m hm => ?_
    obtain ⟨hm, he⟩ := Table.mem_of_find? hm
    exact absurd he (hfresh m hm)

theorem addNote_sameBut {text noteId : String} {author : Option String} {r : Note × Store}
    (hf : ∀ f, s.finding id = .ok f → f.accountId = a) (hfresh : ∀ m ∈ s.notes, m.id ≠ noteId)
    (h : s.addNote id text author noteId now = .ok r) : SameBut a s r.2 := by
  obtain ⟨f, n, hid, hn, rfl⟩ := addNote_ok h
  rw [Note.create?] at hn
  split at hn
  · cases hn
  · cases hn
    exact putNote_sameBut (hf f hid) hfresh

theorem deleteNote_sameBut (hn : ∀ n ∈ s.notes, n.id = id → n.accountId = a)
    (h : s.deleteNote id = .ok s') : SameBut a s s' := by
  rw [deleteNote_ok h]
  refine { SameBut.refl a s with notes := ?_ }
  rw [List.filter_filter]
  refine List.filter_congr fun n hmem => ?_
  by_cases hid : n.id = id
  · simp [hn n hmem hid]
  · simp [hid]

theorem appendScore_sameBut {e : ScoreEntry} (h : e.accountId = a) :
    SameBut a s (s.appendScore e) where
  __ := SameBut.refl a s
  scores := by
    rw [appendScore, List.filter_append, List.filter_cons_of_neg (by simp [h]), List.filter_nil,
      List.append_nil]

theorem putLastRun_sameBut (s : Store) (a : String) (m : Time.Moment) :
    SameBut a s (s.putLastRun a m) where
  __ := SameBut.refl a s
  lastRuns := fun b hb => by rw [lastRun?, putLastRun, Table.lookup_upsert, if_neg hb]; rfl

theorem appendResourceEntries_sameBut (s : Store) (a : String) (es : List ResourceEntry) :
    SameBut a s (s.appendResourceEntries es) :=
  ⟨rfl, rfl, fun _ _ => rfl, rfl, rfl, fun _ _ => rfl⟩

end Store

end CloudAudit
