import CloudAudit.Proofs.Table
import CloudAudit.Run.Composite

namespace CloudAudit

namespace Rule

/-- The identifiers in the configuration of a composite; one that cannot be read mentions none. -/
def mentions (r : Rule) : List String :=
  match r.configAs CompositeConfig.schema with
  | .error _ => []
  | .ok cfg => cfg.ruleIds ++ cfg.ifRuleId.toList ++ cfg.thenRuleId.toList

/-- Each composite with a chosen identifier mentions only chosen identifiers, and such as no rule
has. -/
def MentionsWithin (rules : List Rule) (chosen : List String) : Prop :=
  ∀ c ∈ rules, c.isComposite → c.id ∈ chosen →
    ∀ id ∈ c.mentions, id ∈ chosen ∨ ∀ r ∈ rules, r.id ≠ id

/-- Gives the composite with an identifier another configuration. -/
def reconfigure (id : String) (config : Fields) (r : Rule) : Rule :=
  if r.isComposite && r.id == id then { r with config } else r

variable {id : String} {config : Fields} {r : Rule}

@[simp]
theorem reconfigure_id : (r.reconfigure id config).id = r.id := by
  rw [reconfigure]
  split <;> rfl

@[simp]
theorem reconfigure_name : (r.reconfigure id config).name = r.name := by
  rw [reconfigure]
  split <;> rfl

@[simp]
theorem isComposite_reconfigure : (r.reconfigure id config).isComposite = r.isComposite := by
  rw [reconfigure]
  split <;> rfl

theorem reconfigure_of_not_composite (h : r.isComposite = false) :
    r.reconfigure id config = r := by
  rw [reconfigure, h]
  rfl

theorem filter_map_reconfigure {rules : List Rule} {p : Rule → Bool}
    (hp : ∀ r, p (r.reconfigure id config) = p r) :
    (rules.map (reconfigure id config)).filter p = (rules.filter p).map (reconfigure id config) := by
  have hc : p ∘ reconfigure id config = p := funext hp
  rw [List.filter_map, hc]

theorem reconfigure_of_ne (h : r.id ≠ id) : r.reconfigure id config = r := by
  rw [reconfigure, beq_false_of_ne h, Bool.and_false]
  rfl

end Rule

/-- Where each rule gives verdicts of its own only, the verdicts of some rules are those that these
rules give. -/
theorem Verdict.filter_flatMap {f : Rule → List Verdict} {rules : List Rule}
    (h : ∀ r ∈ rules, ∀ v ∈ f r, v.ruleId = r.id) (p : String → Bool) :
    (rules.flatMap f).filter (p ·.ruleId) = (rules.filter (p ·.id)).flatMap f :=
  Table.filter_flatMap h p

namespace CompositeContext

/-- Two contexts say the same of a rule: whether it is known, its name and its verdicts. -/
structure SameAt (ctx ctx' : CompositeContext) (id : String) : Prop where
  isKnown : ctx.isKnown id = ctx'.isKnown id
  name : ctx.name id = ctx'.name id
  ofRule : ctx.arena.ofRule id = ctx'.arena.ofRule id

variable {ctx ctx' : CompositeContext} {rule : Rule} {ids : List String} {id : String}
  {group : Option String}

theorem cell_eq_filter (a : Arena) (id : String) (group : Option String) :
    a.cell id group = (a.ofRule id).filter (·.resourceId == group) := by
  rw [Arena.cell, Arena.ofRule, List.filter_filter]
  simp only [Bool.and_comm]

namespace SameAt

theorem cell (h : ctx.SameAt ctx' id) (group : Option String) :
    ctx.arena.cell id group = ctx'.arena.cell id group := by
  rw [cell_eq_filter, cell_eq_filter, h.ofRule]

theorem status (h : ctx.SameAt ctx' id) (group : Option String) :
    ctx.status id group = ctx'.status id group := by
  rw [CompositeContext.status, CompositeContext.status, relevant, relevant, h.cell, h.cell]

end SameAt

theorem groups_congr (h : ∀ id ∈ ids, ctx.SameAt ctx' id) : ctx.groups ids = ctx'.groups ids := by
  have hr : ctx.arena.resourceIds ids = ctx'.arena.resourceIds ids := by
    rw [Arena.resourceIds, Arena.resourceIds]
    exact congrArg _ (List.flatMap_congr fun id hid => by rw [(h id hid).ofRule])
  have ha : (ids.any fun id => !(ctx.arena.cell id none).isEmpty) =
      ids.any fun id => !(ctx'.arena.cell id none).isEmpty := by
    rw [Bool.eq_iff_iff, List.any_eq_true, List.any_eq_true]
    exact exists_congr fun id => and_congr_right fun hid => by rw [(h id hid).cell]
  rw [groups, groups, hr, ha]

theorem junction_congr (h : ∀ id ∈ ids, ctx.SameAt ctx' id) (j : Junction) :
    ctx.junction rule ids j = ctx'.junction rule ids j := by
  have hk : ids.filter (!ctx.isKnown ·) = ids.filter (!ctx'.isKnown ·) :=
    List.filter_congr fun id hid => by rw [(h id hid).isKnown]
  have hv : ctx.junctionVerdict rule ids j = ctx'.junctionVerdict rule ids j := by
    funext group
    have hs : ids.map (ctx.status · group) = ids.map (ctx'.status · group) :=
      List.map_congr_left fun id hid => (h id hid).status group
    have hn : ids.map ctx.name = ids.map ctx'.name :=
      List.map_congr_left fun id hid => (h id hid).name
    rw [junctionVerdict, junctionVerdict, hs, hn]
  rw [junction, junction, hk, groups_congr h, hv]

theorem negation_congr (h : ∀ id ∈ ids, ctx.SameAt ctx' id) :
    ctx.negation rule ids = ctx'.negation rule ids := by
  cases ids with
  | nil => rfl
  | cons target _ =>
    have ht := h target List.mem_cons_self
    rw [negation, negation, ht.isKnown, ht.ofRule]

theorem conditional_congr {ifId thenId : Option String}
    (hi : ∀ id ∈ ifId, ctx.SameAt ctx' id) (ht : ∀ id ∈ thenId, ctx.SameAt ctx' id) :
    ctx.conditional rule ifId thenId = ctx'.conditional rule ifId thenId := by
  -- Where an identifier is missing the rest of the context does not matter.
  cases ifId with
  | none => rw [conditional, conditional, if_pos (.inl rfl), if_pos (.inl rfl)]
  | some a =>
    cases thenId with
    | none => rw [conditional, conditional, if_pos (.inr (.inl rfl)), if_pos (.inr (.inl rfl))]
    | some b =>
      have ha := hi a rfl
      have hb := ht b rfl
      have hg : ctx.groups [a, b] = ctx'.groups [a, b] := groups_congr (by simp [ha, hb])
      have hv : ctx.conditionalVerdict rule a b = ctx'.conditionalVerdict rule a b := by
        funext group
        rw [conditionalVerdict, conditionalVerdict, ha.name, hb.name, ha.status, hb.status]
      simp only [conditional, Option.getD_some, ha.isKnown, hb.isKnown, hg, hv]

theorem resolveRule_congr (h : ∀ id ∈ rule.mentions, ctx.SameAt ctx' id) :
    ctx.resolveRule rule = ctx'.resolveRule rule := by
  rw [resolveRule, resolveRule]
  rw [Rule.mentions] at h
  cases hc : rule.configAs CompositeConfig.schema with
  | error _ => rfl
  | ok cfg =>
    rw [hc] at h
    simp only [List.mem_append, Option.mem_toList] at h
    have hids : ∀ id ∈ cfg.ruleIds, ctx.SameAt ctx' id := fun id hid => h id (.inl (.inl hid))
    dsimp only
    split
    · exact conditional_congr (fun id hid => h id (.inl (.inr hid))) fun id hid => h id (.inr hid)
    · exact negation_congr hids
    · exact junction_congr hids .and
    · exact junction_congr hids .or
    · rfl

variable {v : Verdict}

theorem ruleId_of_mem_openVerdict {detail : String} (h : v ∈ openVerdict rule detail) :
    v.ruleId = rule.id := by
  rw [openVerdict, List.mem_singleton] at h
  rw [h]

theorem ruleId_of_mem_junction {j : Junction} (h : v ∈ ctx.junction rule ids j) :
    v.ruleId = rule.id := by
  rw [junction] at h
  split at h
  · exact ruleId_of_mem_openVerdict h
  dsimp only at h
  split at h
  · exact ruleId_of_mem_openVerdict h
  split at h
  · exact ruleId_of_mem_openVerdict h
  · obtain ⟨group, -, rfl⟩ := List.mem_map.mp h
    rfl

theorem ruleId_of_mem_negation (h : v ∈ ctx.negation rule ids) : v.ruleId = rule.id := by
  cases ids with
  | nil => exact ruleId_of_mem_openVerdict h
  | cons target _ =>
    rw [negation] at h
    split at h
    · exact ruleId_of_mem_openVerdict h
    split at h
    · exact ruleId_of_mem_openVerdict h
    · obtain ⟨w, -, rfl⟩ := List.mem_map.mp h
      rfl

theorem ruleId_conditionalVerdict (ifId thenId : String) (group : Option String) :
    (ctx.conditionalVerdict rule ifId thenId group).ruleId = rule.id := by
  rw [conditionalVerdict]
  split
  · rfl
  · split <;> rfl

theorem ruleId_of_mem_conditional {ifId thenId : Option String}
    (h : v ∈ ctx.conditional rule ifId thenId) : v.ruleId = rule.id := by
  rw [conditional] at h
  split at h
  · exact ruleId_of_mem_openVerdict h
  split at h
  · exact ruleId_of_mem_openVerdict h
  · obtain ⟨group, -, rfl⟩ := List.mem_map.mp h
    exact ruleId_conditionalVerdict _ _ _

theorem ruleId_of_mem_resolveRule (h : v ∈ ctx.resolveRule rule) : v.ruleId = rule.id := by
  rw [resolveRule] at h
  split at h
  · exact ruleId_of_mem_openVerdict h
  split at h
  · exact ruleId_of_mem_conditional h
  · exact ruleId_of_mem_negation h
  · exact ruleId_of_mem_junction h
  · exact ruleId_of_mem_junction h
  · exact ruleId_of_mem_openVerdict h

/-- The part of a context that is about rules with chosen identifiers. -/
def restrict (ctx : CompositeContext) (chosen : List String) : CompositeContext :=
  ⟨ctx.rules.filter (chosen.contains ·.id),
    ⟨ctx.arena.verdicts.filter (chosen.contains ·.ruleId)⟩⟩

theorem sameAt_restrict {chosen : List String} (h : id ∈ chosen) :
    ctx.SameAt (ctx.restrict chosen) id := by
  have hp {α : Type} (key : α → String) :
      (fun a => chosen.contains (key a) && key a == id) = fun a => key a == id := by
    funext a
    by_cases ha : key a = id
    · rw [ha, List.contains_iff_mem.mpr h, Bool.true_and]
    · rw [beq_false_of_ne ha, Bool.and_false]
  have hq {α : Type} (key : α → String) :
      (fun a => key a == id && chosen.contains (key a)) = fun a => key a == id := by
    rw [← hp key]
    simp only [Bool.and_comm]
  constructor
  · change ctx.rules.any _ = (ctx.rules.filter _).any _
    rw [List.any_filter, hp Rule.id]
  · have hl : Rule.lastById? (ctx.rules.filter (chosen.contains ·.id)) id =
        Rule.lastById? ctx.rules id := by
      rw [Rule.lastById?, Rule.byId?, ← List.filter_reverse, ← List.head?_filter,
        List.filter_filter, hq Rule.id, List.head?_filter]
      rfl
    exact congrArg (fun r => (r.map Rule.name).getD id) hl.symm
  · change _ = (ctx.arena.verdicts.filter _).filter _
    rw [List.filter_filter, hq Verdict.ruleId]
    rfl

theorem sameAt_restrict_of_absent (chosen : List String) (h : ∀ r ∈ ctx.rules, r.id ≠ id)
    (hv : ∀ v ∈ ctx.arena.verdicts, ∃ r ∈ ctx.rules, r.id = v.ruleId) :
    ctx.SameAt (ctx.restrict chosen) id := by
  have hr (rules : List Rule) (hs : ∀ r ∈ rules, r ∈ ctx.rules) :
      rules.any (·.id == id) = false ∧ Rule.lastById? rules id = none := by
    constructor
    · rw [List.any_eq_false]
      exact fun r hr he => h r (hs r hr) (beq_iff_eq.mp he)
    · rw [Rule.lastById?, Rule.byId?, List.find?_eq_none]
      exact fun r hr he => h r (hs r (List.mem_reverse.mp hr)) (beq_iff_eq.mp he)
  have hf (found : List Verdict) (hs : ∀ v ∈ found, v ∈ ctx.arena.verdicts) :
      found.filter (·.ruleId == id) = [] := by
    rw [List.filter_eq_nil_iff]
    intro v hv' he
    obtain ⟨r, hr, hid⟩ := hv v (hs v hv')
    exact h r hr (hid.trans (beq_iff_eq.mp he))
  obtain ⟨ha, hl⟩ := hr ctx.rules fun _ h => h
  obtain ⟨ha', hl'⟩ := hr _ fun r hr => (List.mem_filter.mp hr).1
  exact ⟨ha.trans ha'.symm,
    congrArg (fun r => (r.map Rule.name).getD id) (hl.trans hl'.symm),
    (hf _ fun _ h => h).trans (hf _ fun v hv => (List.mem_filter.mp hv).1).symm⟩

theorem resolve_restrict {chosen : List String} {composites : List Rule}
    (h : ∀ c ∈ composites, c.id ∈ chosen →
      ∀ id ∈ c.mentions, ctx.SameAt (ctx.restrict chosen) id) :
    (ctx.restrict chosen).resolve (composites.filter (chosen.contains ·.id)) =
      (ctx.resolve composites).filter (chosen.contains ·.ruleId) := by
  rw [resolve, resolve, Verdict.filter_flatMap fun c _ _ => ruleId_of_mem_resolveRule]
  refine List.flatMap_congr fun c hc => (resolveRule_congr (h c ?_ ?_)).symm
  · exact (List.mem_filter.mp hc).1
  · exact List.contains_iff_mem.mp (List.mem_filter.mp hc).2

theorem sameAt_of_names
    (hr : ctx.rules.map (fun r => (r.id, r.name)) = ctx'.rules.map fun r => (r.id, r.name))
    (ha : ctx.arena = ctx'.arena) : ctx.SameAt ctx' id := by
  have hk (ctx : CompositeContext) : ctx.isKnown id =
      (ctx.rules.map fun r => (r.id, r.name)).any (·.1 == id) := by
    rw [List.any_map]
    rfl
  have hn (ctx : CompositeContext) : ctx.name id =
      (((ctx.rules.map fun r => (r.id, r.name)).reverse.find? (·.1 == id)).map (·.2)).getD id := by
    rw [← List.map_reverse, List.find?_map, Option.map_map]
    rfl
  exact ⟨by rw [hk, hk, hr], by rw [hn, hn, hr], by rw [ha]⟩

theorem resolve_reconfigure {rules : List Rule} {a : Arena} {id : String} {config : Fields}
    (composites : List Rule) :
    (resolve ⟨rules.map (Rule.reconfigure id config), a⟩
        (composites.map (Rule.reconfigure id config))).filter (·.ruleId != id) =
      (resolve ⟨rules, a⟩ composites).filter (·.ruleId != id) := by
  have hp : ∀ r : Rule, ((r.reconfigure id config).id != id) = (r.id != id) := by simp
  rw [resolve, resolve, Verdict.filter_flatMap (fun c _ _ => ruleId_of_mem_resolveRule) (· != id),
    Verdict.filter_flatMap (fun c _ _ => ruleId_of_mem_resolveRule) (· != id),
    Rule.filter_map_reconfigure hp, List.flatMap_map]
  refine List.flatMap_congr fun c hc => ?_
  rw [Rule.reconfigure_of_ne (bne_iff_ne.mp (List.mem_filter.mp hc).2)]
  refine resolveRule_congr fun _ _ => sameAt_of_names ?_ rfl
  rw [List.map_map]
  exact List.map_congr_left fun r _ => Prod.ext Rule.reconfigure_id Rule.reconfigure_name

end CompositeContext

end CloudAudit
