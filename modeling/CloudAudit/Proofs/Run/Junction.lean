import CloudAudit.Proofs.Run.Arena

namespace CloudAudit.CompositeContext

namespace Junction

/-- Whether an operator in a configuration stands for the junction, in letters of either case. -/
def SpelledBy (j : Junction) (operator : String) : Prop :=
  Text.upper operator = j.text ∨ operator = "" ∧ j = .and

/-- When combined rules hold for a group. -/
def Holds (j : Junction) (found : List Verdict) (ids : List String) (group : Option String) :
    Prop :=
  match j with
  | .and => ∀ id ∈ ids, Verdict.Holds found id group
  | .or => ∃ id ∈ ids, Verdict.Holds found id group

/-- When combined rules fail for a group. -/
def Fails (j : Junction) (found : List Verdict) (ids : List String) (group : Option String) :
    Prop :=
  match j with
  | .and => ∃ id ∈ ids, Verdict.Fails found id group
  | .or => ∀ id ∈ ids, Verdict.Fails found id group

/-- What a junction of rules has to say about a list of verdicts. -/
structure Agrees (j : Junction) (found : List Verdict) (rule : Rule) (ids : List String)
    (out : List Verdict) : Prop where
  rule : ∀ o ∈ out, o.ruleId = rule.id
  /-- Where a combined rule judged a resource, each such resource has one verdict. -/
  resources : (∃ v ∈ found, v.ruleId ∈ ids ∧ v.resourceId ≠ none) →
    (out.map (·.resourceId)).Nodup ∧ ∀ group, group ∈ out.map (·.resourceId) ↔
      group ≠ none ∧ ∃ v ∈ found, v.ruleId ∈ ids ∧ v.resourceId = group
  /-- Where combined rules judged the account only, there is one verdict on the account. -/
  account : (∃ v ∈ found, v.ruleId ∈ ids) →
    (∀ v ∈ found, v.ruleId ∈ ids → v.resourceId = none) → out.map (·.resourceId) = [none]
  compliant : ∀ o ∈ out, o.status = .compliant ↔ j.Holds found ids o.resourceId
  nonCompliant : ∀ o ∈ out, o.status = .nonCompliant ↔ j.Fails found ids o.resourceId
  notApplicable : ∀ o ∈ out, o.status = .notApplicable ↔
    ¬ j.Holds found ids o.resourceId ∧ ¬ j.Fails found ids o.resourceId

theorem SpelledBy.operatorOf {j : Junction} {cfg : CompositeConfig} (h : j.SpelledBy cfg.operator) :
    CompositeContext.operatorOf cfg = j.text := by
  rw [CompositeContext.operatorOf]
  obtain h | ⟨h, rfl⟩ := h
  · rw [if_neg, h]
    intro he
    rw [he] at h
    cases j <;> exact absurd h (by decide)
  · rw [if_pos h]
    decide

example : Junction.or.SpelledBy "oR" := .inl (by decide)

end Junction

variable {ctx : CompositeContext} {rule : Rule} {ids : List String} {j : Junction}
  {group : Option String}

theorem combine_eq_compliant (hne : ids ≠ []) :
    j.combine (ids.map (ctx.status · group)) = .compliant ↔
      j.Holds ctx.arena.verdicts ids group := by
  cases j with
  | and =>
    rw [Junction.combine, Status.allOf_eq_compliant]
    simp only [ne_eq, List.map_eq_nil_iff, hne, not_false_eq_true, true_and, List.mem_map,
      forall_exists_index, and_imp, forall_apply_eq_imp_iff₂, status_eq_compliant, Junction.Holds]
  | or =>
    rw [Junction.combine, Status.anyOf_eq_compliant]
    simp only [List.mem_map, status_eq_compliant, Junction.Holds]

theorem combine_eq_nonCompliant (hne : ids ≠ []) :
    j.combine (ids.map (ctx.status · group)) = .nonCompliant ↔
      j.Fails ctx.arena.verdicts ids group := by
  cases j with
  | and =>
    rw [Junction.combine, Status.allOf_eq_nonCompliant]
    simp only [List.mem_map, status_eq_nonCompliant, Junction.Fails]
  | or =>
    rw [Junction.combine, Status.anyOf_eq_nonCompliant]
    simp only [ne_eq, List.map_eq_nil_iff, hne, not_false_eq_true, true_and, List.mem_map,
      forall_exists_index, and_imp, forall_apply_eq_imp_iff₂, status_eq_nonCompliant,
      Junction.Fails]

theorem junctionVerdict_agrees (hne : ids ≠ []) :
    let o := ctx.junctionVerdict rule ids j group
    (o.status = .compliant ↔ j.Holds ctx.arena.verdicts ids group) ∧
      (o.status = .nonCompliant ↔ j.Fails ctx.arena.verdicts ids group) ∧
      (o.status = .notApplicable ↔ ¬ j.Holds ctx.arena.verdicts ids group ∧
        ¬ j.Fails ctx.arena.verdicts ids group) := by
  rw [← combine_eq_compliant hne, ← combine_eq_nonCompliant hne]
  refine ⟨.rfl, .rfl, ?_⟩
  change j.combine (ids.map (ctx.status · group)) = _ ↔ _
  cases j.combine (ids.map (ctx.status · group)) <;> simp

theorem groups_eq_nil : ctx.groups ids = [] ↔ ∀ v ∈ ctx.arena.verdicts, v.ruleId ∉ ids := by
  rw [List.eq_nil_iff_forall_not_mem]
  constructor
  · intro h v hv hid
    by_cases hr : ∃ w ∈ ctx.arena.verdicts, w.ruleId ∈ ids ∧ w.resourceId ≠ none
    · obtain ⟨w, hw, hwid, hwr⟩ := hr
      exact h w.resourceId (mem_groups.mpr ⟨⟨w, hw, hwid, rfl⟩, fun hn => absurd hn hwr⟩)
    · have hno : ∀ w ∈ ctx.arena.verdicts, w.ruleId ∈ ids → w.resourceId = none :=
        fun w hw hwid => not_not.mp fun hwr => hr ⟨w, hw, hwid, hwr⟩
      exact h none (mem_groups.mpr ⟨⟨v, hv, hid, hno v hv hid⟩, fun _ => hno⟩)
  · intro h g hg
    obtain ⟨⟨v, hv, hid, -⟩, -⟩ := mem_groups.mp hg
    exact h v hv hid

theorem junction_of_known (hne : ids ≠ []) (hknown : ∀ id ∈ ids, ∃ r ∈ ctx.rules, r.id = id) :
    ctx.junction rule ids j =
      if ctx.groups ids = [] then openVerdict rule "No sub-rule results to combine."
      else (ctx.groups ids).map (ctx.junctionVerdict rule ids j) := by
  have hu : ids.filter (fun id => !ctx.isKnown id) = [] := by
    rw [List.filter_eq_nil_iff]
    intro id hid
    simp only [isKnown_iff.mpr (hknown id hid), Bool.not_true, Bool.false_eq_true,
      not_false_eq_true]
  simp only [junction, List.isEmpty_iff, hne, if_false, hu, List.isEmpty_nil, Bool.not_true,
    Bool.false_eq_true]
  split
  case h_1 he => rw [if_pos he]
  case h_2 he => rw [if_neg he]

theorem map_resourceId_junctionVerdict (groups : List (Option String)) :
    (groups.map (ctx.junctionVerdict rule ids j)).map (·.resourceId) = groups := by
  rw [List.map_map]
  exact List.map_id groups

theorem open_of_no_verdict (j : Junction) {found : List Verdict} (hne : ids ≠ [])
    (hno : ∀ v ∈ found, v.ruleId ∉ ids) (group : Option String) :
    ¬ j.Holds found ids group ∧ ¬ j.Fails found ids group := by
  have hb : ∀ id ∈ ids, ∀ v, ¬ Verdict.Bears found id group v := by
    rintro id hid v ⟨hv, rfl, -⟩
    exact hno v hv hid
  obtain ⟨id, hid⟩ := List.exists_mem_of_ne_nil _ hne
  cases j with
  | and =>
    constructor
    · intro h
      obtain ⟨⟨v, hv⟩, -⟩ := h id hid
      exact hb id hid v hv
    · rintro ⟨id', hid', v, hv, -⟩
      exact hb id' hid' v hv
  | or =>
    constructor
    · rintro ⟨id', hid', ⟨v, hv⟩, -⟩
      exact hb id' hid' v hv
    · intro h
      obtain ⟨v, hv, -⟩ := h id hid
      exact hb id hid v hv

theorem openVerdict_agrees {found : List Verdict} (hne : ids ≠ [])
    (hno : ∀ v ∈ found, v.ruleId ∉ ids) (detail : String) :
    j.Agrees found rule ids (openVerdict rule detail) := by
  have ho {P : Verdict → Prop} (h : P ⟨rule.id, none, .notApplicable, detail⟩) :
      ∀ o ∈ openVerdict rule detail, P o := by
    intro o hmem
    rw [openVerdict, List.mem_singleton] at hmem
    exact hmem ▸ h
  obtain ⟨hh, hf⟩ := open_of_no_verdict j hne hno none
  exact {
    rule := ho rfl
    resources := fun ⟨v, hv, hid, _⟩ => absurd hid (hno v hv)
    account := fun ⟨v, hv, hid⟩ => absurd hid (hno v hv)
    compliant := ho (iff_of_false (by simp) hh)
    nonCompliant := ho (iff_of_false (by simp) hf)
    notApplicable := ho (iff_of_true rfl ⟨hh, hf⟩) }

theorem junctionVerdicts_agree (hne : ids ≠ []) (hg : ctx.groups ids ≠ []) :
    j.Agrees ctx.arena.verdicts rule ids
      ((ctx.groups ids).map (ctx.junctionVerdict rule ids j)) := by
  have ho {P : Verdict → Prop} (h : ∀ group, P (ctx.junctionVerdict rule ids j group)) :
      ∀ o ∈ (ctx.groups ids).map (ctx.junctionVerdict rule ids j), P o := by
    intro o hmem
    obtain ⟨group, -, rfl⟩ := List.mem_map.mp hmem
    exact h group
  refine {
    rule := ho fun _ => rfl
    resources := ?_
    account := ?_
    compliant := ho fun _ => (junctionVerdict_agrees hne).1
    nonCompliant := ho fun _ => (junctionVerdict_agrees hne).2.1
    notApplicable := ho fun _ => (junctionVerdict_agrees hne).2.2 }
  · intro hr
    rw [map_resourceId_junctionVerdict]
    exact ⟨groups_nodup ctx ids, fun _ => mem_groups_of_resource hr⟩
  · intro _ hno
    rw [map_resourceId_junctionVerdict]
    exact groups_of_account hg hno

/-- Where the configuration joins known rules by "and" or "or", the verdicts are those that the list
of verdicts calls for. -/
theorem resolveRule_agrees {cfg : CompositeConfig}
    (hcfg : rule.configAs CompositeConfig.schema = .ok cfg) (hop : j.SpelledBy cfg.operator)
    (hne : cfg.ruleIds ≠ []) (hknown : ∀ id ∈ cfg.ruleIds, ∃ r ∈ ctx.rules, r.id = id) :
    j.Agrees ctx.arena.verdicts rule cfg.ruleIds (ctx.resolveRule rule) := by
  have hr : ctx.resolveRule rule = ctx.junction rule cfg.ruleIds j := by
    rw [resolveRule, hcfg]
    dsimp only
    rw [hop.operatorOf]
    cases j <;> rfl
  rw [hr, junction_of_known hne hknown]
  by_cases hg : ctx.groups cfg.ruleIds = []
  · rw [if_pos hg]
    exact openVerdict_agrees hne (groups_eq_nil.mp hg) _
  · rw [if_neg hg]
    exact junctionVerdicts_agree hne hg

/-- One rule judged the account and the other one two resources; the operator is in mixed case. -/
theorem resolveRule_agrees_mixed :
    let rules : List Rule := [⟨"a", "A", "", [], "has_tags", [], .warning, true, none, false⟩,
      ⟨"b", "B", "", [], "tfa_users", [], .warning, true, none, false⟩]
    let rule : Rule := ⟨"c", "C", "", [], "composite",
      [("operator", .str "Or"), ("rule_ids", .arr [.str "a", .str "b"])], .warning, true, none,
      false⟩
    let found : List Verdict := [⟨"a", none, .nonCompliant, "x"⟩, ⟨"b", some "r", .compliant, "y"⟩,
      ⟨"b", some "q", .nonCompliant, "z"⟩]
    rule.configAs CompositeConfig.schema = .ok ⟨"Or", ["a", "b"], none, none⟩ ∧
      Junction.or.SpelledBy "Or" ∧
      Junction.or.Agrees found rule ["a", "b"] (resolveRule ⟨rules, ⟨found⟩⟩ rule) := by
  intro rules rule found
  have hcfg : rule.configAs CompositeConfig.schema = .ok ⟨"Or", ["a", "b"], none, none⟩ := rfl
  have hop : Junction.or.SpelledBy "Or" := .inl (by decide)
  exact ⟨hcfg, hop, @resolveRule_agrees ⟨rules, ⟨found⟩⟩ rule .or _ hcfg hop (by decide)
    (by decide)⟩

end CloudAudit.CompositeContext
