import CloudAudit.Proofs.Run.Resolution

namespace CloudAudit.CompositeContext

open Verdict

/-- What a rule that binds where `ifId` is violated, and then asks for `thenId`, has to say about a
list of verdicts. -/
structure ConditionalAgrees (found : List Verdict) (rule : Rule) (ifId thenId : String)
    (out : List Verdict) : Prop where
  rule : ∀ o ∈ out, o.ruleId = rule.id
  /-- Where one of the two judged a resource, each such resource has one verdict. -/
  resources : (∃ v ∈ found, v.ruleId ∈ [ifId, thenId] ∧ v.resourceId ≠ none) →
    (out.map (·.resourceId)).Nodup ∧ ∀ group, group ∈ out.map (·.resourceId) ↔
      group ≠ none ∧ ∃ v ∈ found, v.ruleId ∈ [ifId, thenId] ∧ v.resourceId = group
  /-- Where they judged no resource, there is one verdict, on the account. -/
  account : (∀ v ∈ found, v.ruleId ∈ [ifId, thenId] → v.resourceId = none) →
    out.map (·.resourceId) = [none]
  notApplicable : ∀ o ∈ out, o.status = .notApplicable ↔ ¬ Fails found ifId o.resourceId
  compliant : ∀ o ∈ out, o.status = .compliant ↔
    Fails found ifId o.resourceId ∧ Holds found thenId o.resourceId
  nonCompliant : ∀ o ∈ out, o.status = .nonCompliant ↔
    Fails found ifId o.resourceId ∧ ¬ Holds found thenId o.resourceId

variable {ctx : CompositeContext} {rule : Rule} {ifId thenId : String} {group : Option String}

theorem conditionalVerdict_agrees :
    let o := ctx.conditionalVerdict rule ifId thenId group
    (o.status = .notApplicable ↔ ¬ Fails ctx.arena.verdicts ifId o.resourceId) ∧
      (o.status = .compliant ↔ Fails ctx.arena.verdicts ifId o.resourceId ∧
        Holds ctx.arena.verdicts thenId o.resourceId) ∧
      (o.status = .nonCompliant ↔ Fails ctx.arena.verdicts ifId o.resourceId ∧
        ¬ Holds ctx.arena.verdicts thenId o.resourceId) := by
  dsimp only
  rw [resourceId_conditionalVerdict, ← status_eq_nonCompliant, ← status_eq_compliant,
    conditionalVerdict]
  by_cases hif : ctx.status ifId group = .nonCompliant
  · by_cases hthen : ctx.status thenId group = .compliant
    · simp [hif, hthen]
    · simp [hif, hthen]
  · simp [hif]

theorem conditional_of_known (hif : ifId ≠ "") (hthen : thenId ≠ "")
    (hknown : ∀ id ∈ [ifId, thenId], ∃ r ∈ ctx.rules, r.id = id) :
    ctx.conditional rule (some ifId) (some thenId) =
      if ctx.groups [ifId, thenId] = [] then
        openVerdict rule "No resources to evaluate for IF_THEN composite rule."
      else (ctx.groups [ifId, thenId]).map (ctx.conditionalVerdict rule ifId thenId) := by
  have hk : ctx.isKnown ifId = true := isKnown_iff.mpr (hknown ifId List.mem_cons_self)
  have hk' : ctx.isKnown thenId = true :=
    isKnown_iff.mpr (hknown thenId (List.mem_cons_of_mem _ List.mem_cons_self))
  simp only [conditional, Option.getD_some, hif, hthen, hk, hk', Bool.not_true, Bool.false_eq_true,
    or_self, if_false]
  split
  case h_1 he => rw [if_pos he]
  case h_2 he => rw [if_neg he]

theorem map_resourceId_conditionalVerdict (groups : List (Option String)) :
    (groups.map (ctx.conditionalVerdict rule ifId thenId)).map (·.resourceId) = groups := by
  rw [List.map_map]
  exact List.map_id'' (resourceId_conditionalVerdict ifId thenId) groups

theorem openVerdict_conditionalAgrees {found : List Verdict}
    (hno : ∀ v ∈ found, v.ruleId ∉ [ifId, thenId]) (detail : String) :
    ConditionalAgrees found rule ifId thenId (openVerdict rule detail) := by
  have hf : ¬ Fails found ifId none := by
    rintro ⟨v, ⟨hv, hid, -⟩, -⟩
    exact hno v hv (hid ▸ List.mem_cons_self)
  exact {
    rule := List.forall_mem_singleton.mpr rfl
    resources := fun ⟨v, hv, hid, _⟩ => absurd hid (hno v hv)
    account := fun _ => rfl
    notApplicable := List.forall_mem_singleton.mpr (iff_of_true rfl hf)
    compliant := List.forall_mem_singleton.mpr (iff_of_false nofun fun h => hf h.1)
    nonCompliant := List.forall_mem_singleton.mpr (iff_of_false nofun fun h => hf h.1) }

theorem conditionalVerdicts_agree (hg : ctx.groups [ifId, thenId] ≠ []) :
    ConditionalAgrees ctx.arena.verdicts rule ifId thenId
      ((ctx.groups [ifId, thenId]).map (ctx.conditionalVerdict rule ifId thenId)) := by
  refine {
    rule := List.forall_mem_map.mpr fun group _ => ruleId_conditionalVerdict ifId thenId group
    resources := ?_
    account := ?_
    notApplicable := List.forall_mem_map.mpr fun _ _ => conditionalVerdict_agrees.1
    compliant := List.forall_mem_map.mpr fun _ _ => conditionalVerdict_agrees.2.1
    nonCompliant := List.forall_mem_map.mpr fun _ _ => conditionalVerdict_agrees.2.2 }
  · intro hr
    rw [map_resourceId_conditionalVerdict]
    exact ⟨groups_nodup ctx _, fun _ => mem_groups_of_resource hr⟩
  · intro hno
    rw [map_resourceId_conditionalVerdict]
    exact groups_of_account hg hno

/-- Where the configuration binds a known rule to the failure of a known rule, the verdicts are
those that the list of verdicts calls for. -/
theorem resolveRule_implies {cfg : CompositeConfig}
    (hcfg : rule.configAs CompositeConfig.schema = .ok cfg)
    (hop : Operator.conditional.SpelledBy cfg.operator)
    (hif : cfg.ifRuleId = some ifId) (hthen : cfg.thenRuleId = some thenId)
    (hne : ifId ≠ "" ∧ thenId ≠ "") (hknown : ∀ id ∈ [ifId, thenId], ∃ r ∈ ctx.rules, r.id = id) :
    ConditionalAgrees ctx.arena.verdicts rule ifId thenId (ctx.resolveRule rule) := by
  rw [resolveRule_of_spelled hcfg hop, Operator.apply, hif, hthen,
    conditional_of_known hne.1 hne.2 hknown]
  by_cases hg : ctx.groups [ifId, thenId] = []
  · rw [if_pos hg]
    exact openVerdict_conditionalAgrees (groups_eq_nil.mp hg) _
  · rw [if_neg hg]
    exact conditionalVerdicts_agree hg

/-- The first rule fails on the account, which stands in for a resource that it did not judge; the
second judged one resource twice. -/
theorem resolveRule_implies_broadcast :
    let rules : List Rule := [⟨"a", "A", "", [], "tfa_users", [], .warning, true, none, false⟩,
      ⟨"b", "B", "", [], "has_tags", [], .warning, true, none, false⟩]
    let rule : Rule := ⟨"c", "C", "", [], "composite",
      [("operator", .str "If_Then"), ("if_rule_id", .str "a"), ("then_rule_id", .str "b")],
      .warning, true, none, false⟩
    let found : List Verdict := [⟨"a", none, .nonCompliant, "x"⟩, ⟨"a", some "q", .compliant, "y"⟩,
      ⟨"b", some "r", .compliant, "z"⟩, ⟨"b", some "r", .notApplicable, "z"⟩]
    rule.configAs CompositeConfig.schema = .ok ⟨"If_Then", [], some "a", some "b"⟩ ∧
      Operator.conditional.SpelledBy "If_Then" ∧
      ConditionalAgrees found rule "a" "b" (resolveRule ⟨rules, ⟨found⟩⟩ rule) ∧
      (resolveRule ⟨rules, ⟨found⟩⟩ rule).map (fun o => (o.resourceId, o.status)) =
        [(some "q", .notApplicable), (some "r", .nonCompliant)] := by
  intro rules rule found
  have hcfg : rule.configAs CompositeConfig.schema =
      .ok ⟨"If_Then", [], some "a", some "b"⟩ := rfl
  have hop : Operator.conditional.SpelledBy "If_Then" :=
    show Text.upper "If_Then" = "IF_THEN" by decide
  have hagrees := @resolveRule_implies ⟨rules, ⟨found⟩⟩ rule "a" "b" _ hcfg hop rfl rfl (by decide)
    (by decide)
  exact ⟨hcfg, hop, hagrees, rfl⟩

end CloudAudit.CompositeContext
