import CloudAudit.Proofs.Run.Arena
import CloudAudit.Proofs.Run.FirstPass
import CloudAudit.Proofs.Run.Report

namespace CloudAudit

variable {σ : Type}

theorem Status.allOf_perm {statuses statuses' : List Status} (h : statuses.Perm statuses') :
    allOf statuses = allOf statuses' := by
  rw [allOf, allOf, h.isEmpty_eq, h.all_eq, h.any_eq]

@[elab_as_elim]
theorem perm_cases {α : Type} {P : List α → List α → Prop} {as bs : List α} (h : as.Perm bs)
    (nil : P [] []) (cons : ∀ a as b bs, (a :: as).Perm (b :: bs) → P (a :: as) (b :: bs)) :
    P as bs := by
  cases as with
  | nil => rwa [h.nil_eq.symm]
  | cons a as =>
    cases bs with
    | nil => exact absurd h.symm.nil_eq nofun
    | cons b bs => exact cons a as b bs h

namespace CompositeContext

/-- Two contexts with the same rules and judgements, in any order. -/
structure Alike (ctx ctx' : CompositeContext) : Prop where
  rules : ctx.rules.Perm ctx'.rules
  judgements : (ctx.arena.verdicts.map Verdict.judgement).Perm
    (ctx'.arena.verdicts.map Verdict.judgement)

namespace Alike

variable {ctx ctx' : CompositeContext} {rule : Rule} {ids : List String} {id : String}
  {group : Option String}

theorem symm (h : ctx.Alike ctx') : ctx'.Alike ctx := ⟨h.rules.symm, h.judgements.symm⟩

theorem isKnown (h : ctx.Alike ctx') (id : String) : ctx.isKnown id = ctx'.isKnown id :=
  h.rules.any_eq

theorem exists_verdict (h : ctx.Alike ctx') {v : Verdict} (hv : v ∈ ctx.arena.verdicts) :
    ∃ w ∈ ctx'.arena.verdicts, w.ruleId = v.ruleId ∧ w.resourceId = v.resourceId := by
  obtain ⟨w, hw, he⟩ := List.mem_map.mp (h.judgements.mem_iff.mp (List.mem_map_of_mem hv))
  exact ⟨w, hw, congrArg (·.1) he, congrArg (·.2.1) he⟩

theorem filter_perm (h : ctx.Alike ctx') (p : String × Option String × Status → Bool) :
    ((ctx.arena.verdicts.filter fun v => p v.judgement).map Verdict.judgement).Perm
      ((ctx'.arena.verdicts.filter fun v => p v.judgement).map Verdict.judgement) := by
  have hf := h.judgements.filter p
  rwa [List.filter_map, List.filter_map] at hf

theorem cell_perm (h : ctx.Alike ctx') (id : String) (group : Option String) :
    ((ctx.arena.cell id group).map Verdict.judgement).Perm
      ((ctx'.arena.cell id group).map Verdict.judgement) :=
  h.filter_perm fun j => j.1 == id && j.2.1 == group

theorem relevant_perm (h : ctx.Alike ctx') (id : String) (group : Option String) :
    ((ctx.relevant id group).map Verdict.judgement).Perm
      ((ctx'.relevant id group).map Verdict.judgement) := by
  have ho := h.cell_perm id group
  have he := ho.isEmpty_eq
  rw [List.isEmpty_map, List.isEmpty_map] at he
  rw [relevant, relevant]
  cases group with
  | none => exact h.cell_perm id none
  | some resource =>
    simp only [Option.isSome_some, if_true, he]
    split
    · exact h.cell_perm id none
    · exact ho

theorem status_eq (h : ctx.Alike ctx') (id : String) (group : Option String) :
    ctx.status id group = ctx'.status id group := by
  have hs := (h.relevant_perm id group).map (·.2.2)
  rw [List.map_map, List.map_map] at hs
  exact Status.allOf_perm hs

theorem mem_groups (h : ctx.Alike ctx') (hg : group ∈ ctx.groups ids) :
    group ∈ ctx'.groups ids := by
  obtain ⟨⟨v, hv, hid, hr⟩, hno⟩ := CompositeContext.mem_groups.mp hg
  rw [CompositeContext.mem_groups]
  constructor
  · obtain ⟨w, hw, hwid, hwr⟩ := h.exists_verdict hv
    exact ⟨w, hw, hwid ▸ hid, hwr.trans hr⟩
  · intro hn w hw hwid
    obtain ⟨v, hv, hvid, hvr⟩ := h.symm.exists_verdict hw
    exact hvr.symm.trans (hno hn v hv (hvid ▸ hwid))

theorem groups_perm (h : ctx.Alike ctx') (ids : List String) :
    (ctx.groups ids).Perm (ctx'.groups ids) :=
  (List.perm_ext_iff_of_nodup (groups_nodup ctx ids) (groups_nodup ctx' ids)).mpr
    fun _ => ⟨h.mem_groups, h.symm.mem_groups⟩

theorem junction_perm (h : ctx.Alike ctx') (j : Junction) :
    ((ctx.junction rule ids j).map Verdict.judgement).Perm
      ((ctx'.junction rule ids j).map Verdict.judgement) := by
  have hk : ctx.isKnown = ctx'.isKnown := funext h.isKnown
  have hv (group : Option String) : (ctx.junctionVerdict rule ids j group).judgement =
      (ctx'.junctionVerdict rule ids j group).judgement := by
    change (rule.id, group, j.combine _) = (rule.id, group, j.combine _)
    rw [funext (h.status_eq · group)]
  rw [junction, junction, hk]
  split
  · exact .rfl
  dsimp only
  split
  · exact .rfl
  refine perm_cases (h.groups_perm ids) .rfl fun _ _ _ _ hg => ?_
  rw [List.map_map, List.map_map]
  exact (hg.map _).trans (.of_eq (List.map_congr_left fun group _ => hv group))

theorem negation_perm (h : ctx.Alike ctx') :
    ((ctx.negation rule ids).map Verdict.judgement).Perm
      ((ctx'.negation rule ids).map Verdict.judgement) := by
  cases ids with
  | nil => exact .rfl
  | cons target _ =>
    have hf : ((ctx.arena.ofRule target).map Verdict.judgement).Perm
        ((ctx'.arena.ofRule target).map Verdict.judgement) :=
      h.filter_perm (·.1 == target)
    rw [negation, negation, h.isKnown]
    split
    · exact .rfl
    match ctx.arena.ofRule target, ctx'.arena.ofRule target, hf with
    | [], [], _ => exact .rfl
    | [], _ :: _, hf => exact absurd hf.nil_eq nofun
    | _ :: _, [], hf => exact absurd hf.symm.nil_eq nofun
    | _ :: _, _ :: _, hf =>
      have hj := hf.map fun j => (rule.id, j.2.1, j.2.2.negate)
      rw [List.map_map, List.map_map] at hj ⊢
      exact hj

theorem conditional_perm (h : ctx.Alike ctx') (ifId thenId : Option String) :
    ((ctx.conditional rule ifId thenId).map Verdict.judgement).Perm
      ((ctx'.conditional rule ifId thenId).map Verdict.judgement) := by
  have hv (ifId thenId : String) (group : Option String) :
      (ctx.conditionalVerdict rule ifId thenId group).judgement =
        (ctx'.conditionalVerdict rule ifId thenId group).judgement := by
    rw [conditionalVerdict, conditionalVerdict, h.status_eq, h.status_eq]
    split
    · rfl
    · split <;> rfl
  simp only [conditional, h.isKnown]
  split
  · exact .rfl
  refine perm_cases (h.groups_perm [ifId.getD "", thenId.getD ""]) .rfl fun _ _ _ _ hg => ?_
  rw [List.map_map, List.map_map]
  exact (hg.map _).trans (.of_eq (List.map_congr_left fun group _ => hv _ _ group))

theorem resolveRule_perm (h : ctx.Alike ctx') (rule : Rule) :
    ((ctx.resolveRule rule).map Verdict.judgement).Perm
      ((ctx'.resolveRule rule).map Verdict.judgement) := by
  rw [resolveRule, resolveRule]
  split
  · exact .rfl
  · split
    · exact h.conditional_perm _ _
    · exact h.negation_perm
    · exact h.junction_perm .and
    · exact h.junction_perm .or
    · exact .rfl

theorem resolve_perm (h : ctx.Alike ctx') {composites composites' : List Rule}
    (hc : composites.Perm composites') :
    ((ctx.resolve composites).map Verdict.judgement).Perm
      ((ctx'.resolve composites').map Verdict.judgement) := by
  rw [resolve, resolve, List.map_flatMap, List.map_flatMap]
  exact hc.flatMap fun rule _ => h.resolveRule_perm rule

end Alike

end CompositeContext

namespace Run

variable {limits : LiveLimits} {provider : Option (Provider σ)}
  {answers : Option (LiveCall → Except ProviderFault Json)} {inv : Inventory}
  {rules rules' : List Rule} {resources : List Resource} {ruleIds : Option (List String)}
  {ids i : IdSupply} {state state' : σ} {report : Report}

theorem verdicts_settles (limits : LiveLimits)
    (h : Option.Rel Provider.Replies provider answers) (inv : Inventory) (rules : List Rule) :
    FirstPass.Settles (verdicts limits provider inv rules)
      (((rules.filter (!·.isComposite)).mapM (FirstPass.checked limits answers inv)).map
        fun lists => lists.flatten ++
          CompositeContext.resolve ⟨rules, ⟨lists.flatten⟩⟩ (rules.filter (·.isComposite))) := by
  have hv := (FirstPass.run_settles limits h inv rules).map fun base =>
    base ++ CompositeContext.resolve ⟨rules, ⟨base⟩⟩ (rules.filter (·.isComposite))
  cases hl : (rules.filter (!·.isComposite)).mapM (FirstPass.checked limits answers inv) with
  | error f =>
    rw [hl] at hv
    exact hv
  | ok lists =>
    rw [hl] at hv
    exact hv

theorem report_judgements (inv : Inventory) (rules : List Rule) (found : List Verdict)
    (ids : IdSupply) : (Run.report inv rules found ids).1.findings.map (·.verdict.judgement) =
      found.map Verdict.judgement :=
  IdSupply.map_label (f := Finding.ofVerdict inv.accountId inv.now)
    (g := fun f => f.verdict.judgement) (fun _ _ => rfl) ids.advance found

/-- What a run reports, where all questions are replied to in time: the verdicts of the rules that
are no composites, and those of the composites. -/
theorem run_judgements (h : Option.Rel Provider.Replies provider answers)
    (hr : (run limits provider inv rules ruleIds ids state).1 = .ok (report, i)) :
    ∃ lists, ((select rules ruleIds).filter (!·.isComposite)).mapM
        (FirstPass.checked limits answers inv) = .ok lists ∧
      report.findings.map (·.verdict.judgement) =
        (lists.flatten ++ CompositeContext.resolve ⟨select rules ruleIds, ⟨lists.flatten⟩⟩
          ((select rules ruleIds).filter (·.isComposite))).map Verdict.judgement := by
  obtain ⟨found, pool, hf, -, he⟩ := run_ok (Prod.ext hr rfl)
  obtain ⟨state', hs⟩ := verdicts_settles limits h inv (select rules ruleIds) state
  obtain ⟨lists, hl, rfl⟩ := Result.map_eq_ok.mp (congrArg Prod.fst (hs.symm.trans hf))
  refine ⟨lists, hl, ?_⟩
  have hrep : report = (Run.report inv (select rules ruleIds) _ ids).1 := congrArg Prod.fst he
  rw [hrep, report_judgements]

/-- Two runs that differ in the order of their rules and of their resources report the same
judgements, each as often, if both of them come to a report. The provider is the same, with any
states before the runs; it replies in time, and its replies depend on the call only. -/
theorem run_perm (hp : Option.Rel Provider.Replies provider answers) (hn : inv.NumbersApart)
    (hrules : rules.Perm rules') (hres : inv.resources.Perm resources)
    {report report' : Report} {ids ids' i i' : IdSupply} {state state' : σ}
    (h : (run limits provider inv rules ruleIds ids state).1 = .ok (report, i))
    (h' : (run limits provider { inv with resources } rules' ruleIds ids' state').1 =
      .ok (report', i')) :
    (report.findings.map (·.verdict.judgement)).Perm
      (report'.findings.map (·.verdict.judgement)) := by
  obtain ⟨lists, hl, he⟩ := run_judgements hp h
  obtain ⟨lists', hl', he'⟩ := run_judgements hp h'
  have hs : (select rules ruleIds).Perm (select rules' ruleIds) := hrules.filter _
  have hbase := FirstPass.mapM_checked_perm (hs.filter _) hn hres hl hl'
  have hctx : CompositeContext.Alike ⟨select rules ruleIds, ⟨lists.flatten⟩⟩
      ⟨select rules' ruleIds, ⟨lists'.flatten⟩⟩ := ⟨hs, hbase⟩
  rw [he, he', List.map_append, List.map_append]
  exact hbase.append (hctx.resolve_perm (hs.filter _))

/-- Two machines of which one has a firewall, a live check, and a rule that negates another. -/
theorem run_perm_reversed :
    let rule (id kind : String) (types : List String) (config : Fields) : Rule :=
      ⟨id, id, "", types, kind, config, .warning, true, none, false⟩
    let rules : List Rule := [rule "f" "firewall_attached" ["linode"] [],
      rule "t" "tfa_users" [] [],
      rule "n" "composite" [] [("operator", .str "NOT"), ("rule_ids", .arr [.str "f"])]]
    let machine (id number : String) : Resource :=
      { id, providerId := number, type := "linode" }
    let firewall (id number : String) (targets : List Json) : Resource :=
      { id, providerId := number, type := "firewall", specs := [("entities", .arr targets)] }
    let inv : Inventory := {
      accountId := "a"
      resources := [machine "i" "1", firewall "v" "7" [.obj [("id", .int 1)]],
        machine "j" "2", firewall "w" "8" []]
      now := ⟨2026, 3, 1, 9, 0, 0, 0, some 0⟩ }
    let provider : Provider Nat := ⟨fun _ n => (.answer (.arr []), n + 1)⟩
    let forth := (run {} (some provider) inv rules none {} 0).1
    let back := (run {} (some provider) { inv with resources := inv.resources.reverse }
      rules.reverse none {} 5).1
    forth.toOption.map (·.1.findings.map (·.ruleId)) = some ["f", "f", "t", "n", "n"] ∧
      back.toOption.map (·.1.findings.map (·.ruleId)) = some ["t", "f", "f", "n", "n"] ∧
      ∃ report i report' i', forth = .ok (report, i) ∧ back = .ok (report', i') ∧
        (report.findings.map (·.verdict.judgement)).Perm
          (report'.findings.map (·.verdict.judgement)) := by
  intro rule rules machine firewall inv provider forth back
  obtain ⟨⟨report, i⟩, h⟩ := Result.of_isOk (x := forth) (by decide +kernel)
  obtain ⟨⟨report', i'⟩, h'⟩ := Result.of_isOk (x := back) (by decide +kernel)
  have hp : Option.Rel Provider.Replies (some provider) (some fun _ => .ok (.arr [])) :=
    .some fun _ _ => rfl
  have hn : inv.NumbersApart := by
    rw [Inventory.NumbersApart]
    decide +kernel
  exact ⟨by decide +kernel, by decide +kernel, report, i, report', i', h, h',
    run_perm hp hn rules.reverse_perm.symm inv.resources.reverse_perm.symm h h'⟩

end Run

end CloudAudit
