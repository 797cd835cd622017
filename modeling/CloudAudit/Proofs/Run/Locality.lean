import CloudAudit.Proofs.Run.Mention
import CloudAudit.Proofs.Run.Order

namespace CloudAudit

variable {σ : Type}

namespace FirstPass

variable {limits : LiveLimits} {answers : Option (LiveCall → Except ProviderFault Json)}
  {inv : Inventory} {rule : Rule} {v : Verdict}

theorem ruleId_of_mem_verdicts {resource : Option Resource} {outcomes : List Outcome}
    (h : v ∈ verdicts rule resource outcomes) : v.ruleId = rule.id := by
  obtain ⟨o, -, rfl⟩ := List.mem_map.mp h
  rfl

theorem ruleId_of_mem_checked {found : List Verdict}
    (h : checked limits answers inv rule = .ok found) (hv : v ∈ found) : v.ruleId = rule.id := by
  rw [checked] at h
  cases hk : rule.check? with
  | none =>
    rw [hk] at h
    cases h
    obtain ⟨resource, -, hv⟩ := List.mem_flatMap.mp hv
    exact ruleId_of_mem_verdicts hv
  | some check =>
    rw [hk] at h
    cases check with
    | resource check =>
      obtain ⟨lists, hl, rfl⟩ := Result.map_eq_ok.mp h
      obtain ⟨found, hf, hv⟩ := List.mem_flatten.mp hv
      obtain ⟨resource, -, hc⟩ := Result.of_mem_of_mapM hl hf
      obtain ⟨outcomes, -, rfl⟩ := Result.map_eq_ok.mp hc
      exact ruleId_of_mem_verdicts hv
    | liveAccount check =>
      cases h
      exact ruleId_of_mem_verdicts hv
    | liveResource check =>
      cases h
      obtain ⟨resource, -, hv⟩ := List.mem_flatMap.mp hv
      exact ruleId_of_mem_verdicts hv

theorem mapM_checked_filter (p : String → Bool) {rules : List Rule} {lists : List (List Verdict)}
    (h : rules.mapM (checked limits answers inv) = .ok lists) :
    ∃ lists', (rules.filter (p ·.id)).mapM (checked limits answers inv) = .ok lists' ∧
      lists'.flatten = lists.flatten.filter (p ·.ruleId) := by
  obtain ⟨lists', h'⟩ := Result.mapM_filter_ok (p ·.id) h
  refine ⟨lists', h', ?_⟩
  rw [← List.flatMap_id (L := lists'), ← List.flatMap_id (L := lists), Result.flatMap_of_mapM id h,
    Result.flatMap_of_mapM id h', Verdict.filter_flatMap]
  intro rule hrule v hv
  obtain ⟨found, hf⟩ := Result.of_mem_mapM h hrule
  rw [hf] at hv
  exact ruleId_of_mem_checked hf hv

end FirstPass

def Finding.unnamed (f : Finding) : Finding := { f with id := "" }

/-- What a report says of the rules with chosen identifiers: their findings in order, without the
identifiers of the findings. -/
def Report.on (report : Report) (chosen : String → Bool) : List Finding :=
  (report.findings.filter (chosen ·.ruleId)).map Finding.unnamed

namespace Run

variable {limits : LiveLimits} {provider : Option (Provider σ)}
  {answers : Option (LiveCall → Except ProviderFault Json)} {inv : Inventory}
  {rules : List Rule} {ruleIds : Option (List String)} {ids i : IdSupply} {state : σ}
  {report : Report}

theorem select_some (rules : List Rule) (chosen : List String) :
    select rules (some chosen) = rules.filter (chosen.contains ·.id) := rfl

theorem select_none (rules : List Rule) : select rules none = rules :=
  List.filter_eq_self.mpr fun _ _ => rfl

theorem report_on (inv : Inventory) (rules : List Rule) (found : List Verdict) (ids : IdSupply)
    (chosen : String → Bool) : (Run.report inv rules found ids).1.on chosen =
      (found.filter (chosen ·.ruleId)).map (Finding.ofVerdict inv.accountId inv.now "") := by
  have h : (Run.report inv rules found ids).1.findings.map Finding.unnamed =
      found.map (Finding.ofVerdict inv.accountId inv.now "") :=
    IdSupply.map_label (f := Finding.ofVerdict inv.accountId inv.now) (fun _ _ => rfl) ids.advance
      found
  have hf := congrArg (List.filter (chosen ·.ruleId)) h
  rwa [List.filter_map, List.filter_map] at hf

theorem verdicts_restrict {chosen : List String} (hc : Rule.MentionsWithin rules chosen)
    {lists : List (List Verdict)}
    (h : (rules.filter (!·.isComposite)).mapM (FirstPass.checked limits answers inv) = .ok lists) :
    ∃ lists', ((rules.filter (chosen.contains ·.id)).filter (!·.isComposite)).mapM
        (FirstPass.checked limits answers inv) = .ok lists' ∧
      lists'.flatten ++ CompositeContext.resolve
          ⟨rules.filter (chosen.contains ·.id), ⟨lists'.flatten⟩⟩
          ((rules.filter (chosen.contains ·.id)).filter (·.isComposite)) =
        (lists.flatten ++ CompositeContext.resolve ⟨rules, ⟨lists.flatten⟩⟩
          (rules.filter (·.isComposite))).filter (chosen.contains ·.ruleId) := by
  obtain ⟨lists', h', he⟩ := FirstPass.mapM_checked_filter chosen.contains h
  refine ⟨lists', by rwa [List.filter_comm], ?_⟩
  rw [List.filter_comm fun r : Rule => r.isComposite, List.filter_append, ← he]
  refine congrArg (lists'.flatten ++ ·) ?_
  let ctx : CompositeContext := ⟨rules, ⟨lists.flatten⟩⟩
  have hs : ⟨rules.filter (chosen.contains ·.id), ⟨lists'.flatten⟩⟩ = ctx.restrict chosen := by
    rw [he]
    rfl
  rw [hs]
  refine CompositeContext.resolve_restrict fun c hcm hcid id hid => ?_
  obtain ⟨hcr, hcc⟩ := List.mem_filter.mp hcm
  obtain hin | hout := hc c hcr hcc hcid id hid
  · exact CompositeContext.sameAt_restrict hin
  · refine CompositeContext.sameAt_restrict_of_absent chosen hout fun v hv => ?_
    obtain ⟨found, hf, hv⟩ := List.mem_flatten.mp hv
    obtain ⟨r, hr, hcheck⟩ := Result.of_mem_of_mapM h hf
    exact ⟨r, (List.mem_filter.mp hr).1, (FirstPass.ruleId_of_mem_checked hcheck hv).symm⟩

/-- With other rules left out, a run comes to a report too, and says the same of those that stay. -/
theorem run_restrict (hp : Option.Rel Provider.Replies provider answers) {chosen : List String}
    (hc : Rule.MentionsWithin rules chosen)
    (h : (run limits provider inv rules none ids state).1 = .ok (report, i)) (ids' : IdSupply)
    (state' : σ) : ∃ report' i',
      (run limits provider inv rules (some chosen) ids' state').1 = .ok (report', i') ∧
        report'.findings.map Finding.unnamed = report.on chosen.contains := by
  obtain ⟨found, pool, hf, -, he⟩ := run_ok (Prod.ext h rfl)
  rw [select_none] at hf he
  obtain ⟨pool', hs⟩ := verdicts_settles limits hp inv rules state
  obtain ⟨lists, hl, rfl⟩ := Result.map_eq_ok.mp (congrArg Prod.fst (hs.symm.trans hf))
  obtain ⟨lists', hl', he'⟩ := verdicts_restrict hc hl
  obtain ⟨pool'', hs'⟩ := verdicts_settles limits hp inv (select rules (some chosen)) state'
  rw [run, hs', select_some, hl']
  refine ⟨_, _, rfl, ?_⟩
  have hrep : report = _ := congrArg Prod.fst he
  rw [hrep, report_on, ← he']
  exact IdSupply.map_label (f := Finding.ofVerdict inv.accountId inv.now) (fun _ _ => rfl)
    ids'.advance _

variable {id : String} {config : Fields}

theorem select_reconfigure : select (rules.map (Rule.reconfigure id config)) ruleIds =
    (select rules ruleIds).map (Rule.reconfigure id config) :=
  Rule.filter_map_reconfigure (by simp)

theorem firstPass_reconfigure (limits : LiveLimits) (provider : Option (Provider σ))
    (inv : Inventory) : FirstPass.run limits provider inv (rules.map (Rule.reconfigure id config)) =
      FirstPass.run limits provider inv rules := by
  rw [FirstPass.run, FirstPass.run, Rule.filter_map_reconfigure (by simp)]
  refine congrArg (fun rules => List.mapM (FirstPass.checkRule limits provider inv) rules >>= _) ?_
  refine (List.map_congr_left fun r hr => ?_).trans (List.map_id _)
  exact Rule.reconfigure_of_not_composite (by simpa using (List.mem_filter.mp hr).2)

/-- Another configuration for one composite changes the verdicts of that one at most, whatever the
provider does. -/
theorem verdicts_reconfigure (limits : LiveLimits) (provider : Option (Provider σ))
    (inv : Inventory) (pool : LivePool σ) :
    ((verdicts limits provider inv (rules.map (Rule.reconfigure id config))).run pool).1.map
        (List.filter (·.ruleId != id)) =
      ((verdicts limits provider inv rules).run pool).1.map (List.filter (·.ruleId != id)) := by
  rw [verdicts, verdicts, Result.run_bind, Result.run_bind, firstPass_reconfigure]
  cases (FirstPass.run limits provider inv rules).run pool with
  | mk result pool =>
    cases result with
    | error f => rfl
    | ok base =>
      refine congrArg Except.ok ?_
      rw [Rule.filter_map_reconfigure (by simp), List.filter_append, List.filter_append,
        CompositeContext.resolve_reconfigure]

theorem run_on (limits : LiveLimits) (provider : Option (Provider σ)) (inv : Inventory)
    (rules : List Rule) (ruleIds : Option (List String)) (ids : IdSupply) (state : σ)
    (chosen : String → Bool) :
    (run limits provider inv rules ruleIds ids state).1.map (·.1.on chosen) =
      (((verdicts limits provider inv (select rules ruleIds)).run ⟨state, 0⟩).1.map
        (List.filter (chosen ·.ruleId))).map
          (List.map (Finding.ofVerdict inv.accountId inv.now "")) := by
  rw [run]
  cases (verdicts limits provider inv (select rules ruleIds)).run ⟨state, 0⟩ with
  | mk result pool =>
    cases result with
    | error f => rfl
    | ok found => exact congrArg Except.ok (report_on inv (select rules ruleIds) found ids chosen)

/-- A run over some of the rules, among them all that its composites mention and that are there,
comes to a report if the run over all rules does, and reports of these rules what that one reports
of them. The provider replies in time, and its replies depend on the call only. With another
configuration for one composite a run reports the same of all other rules, those that mention the
composite included. -/
theorem run_local (limits : LiveLimits) (provider : Option (Provider σ)) (inv : Inventory)
    (rules : List Rule) :
    (∀ answers, Option.Rel Provider.Replies provider answers →
      ∀ chosen, Rule.MentionsWithin rules chosen → ∀ ids i state report,
        (run limits provider inv rules none ids state).1 = .ok (report, i) →
      ∀ ids' state', ∃ report' i',
        (run limits provider inv rules (some chosen) ids' state').1 = .ok (report', i') ∧
          report'.findings.map Finding.unnamed = report.on chosen.contains) ∧
    ∀ id config ruleIds ids ids' state,
      (run limits provider inv (rules.map (Rule.reconfigure id config)) ruleIds ids' state).1.map
          (·.1.on (· != id)) =
        (run limits provider inv rules ruleIds ids state).1.map (·.1.on (· != id)) := by
  constructor
  · intro answers hp chosen hc ids i state report h ids' state'
    exact run_restrict hp hc h ids' state'
  · intro id config ruleIds ids ids' state
    rw [run_on, run_on _ _ _ rules, select_reconfigure]
    exact congrArg _ (verdicts_reconfigure limits provider inv ⟨state, 0⟩)

/-- A composite that mentions a composite, and one that mentions a rule that is not there. -/
theorem run_local_nested :
    let rule (id kind : String) (config : Fields) : Rule :=
      ⟨id, id, "", ["linode"], kind, config, .warning, true, none, false⟩
    let composite (id operator : String) (ids : List String) : Rule :=
      rule id "composite" [("operator", .str operator), ("rule_ids", .arr (ids.map .str))]
    let rules : List Rule := [composite "m" "OR" ["n", "t"], rule "t" "has_tags" [],
      rule "u" "tfa_users" [], composite "n" "NOT" ["u"], composite "g" "AND" ["t", "gone"]]
    let inv : Inventory := {
      accountId := "a"
      resources := [{ id := "i", type := "linode", specs := [("tags", .arr [.str "x"])] },
        { id := "j", type := "linode" }]
      now := ⟨2026, 3, 1, 9, 0, 0, 0, some 0⟩ }
    let provider : Provider Nat := ⟨fun _ n => (.answer (.arr []), n + 1)⟩
    let other : Fields := [("operator", .str "OR"), ("rule_ids", .arr [.str "m", .str "t"])]
    let whole := (run {} (some provider) inv rules none {} 0).1
    let part := (run {} (some provider) inv rules (some ["g", "t"]) {} 3).1
    let changed := (run {} (some provider) inv (rules.map (Rule.reconfigure "n" other)) none {} 0).1
    whole.toOption.map (·.1.findings.map (·.ruleId)) = some ["t", "t", "u", "m", "m", "n", "g"] ∧
      changed.toOption.map (·.1.findings.map (·.ruleId)) =
        some ["t", "t", "u", "m", "m", "n", "n", "g"] ∧
      (∃ report i report' i', whole = .ok (report, i) ∧ part = .ok (report', i') ∧
        report'.findings.map Finding.unnamed = report.on ["g", "t"].contains) ∧
      changed.map (·.1.on (· != "n")) = whole.map (·.1.on (· != "n")) := by
  intro rule composite rules inv provider other whole part changed
  obtain ⟨⟨report, i⟩, h⟩ := Result.of_isOk (x := whole) (by decide +kernel)
  have hp : Option.Rel Provider.Replies (some provider) (some fun _ => .ok (.arr [])) :=
    .some fun _ _ => rfl
  have hc : Rule.MentionsWithin rules ["g", "t"] := by
    rw [Rule.MentionsWithin]
    decide +kernel
  obtain ⟨hpart, hchanged⟩ := run_local {} (some provider) inv rules
  obtain ⟨report', i', h', he⟩ := hpart _ hp _ hc {} i 0 report h {} 3
  exact ⟨by decide +kernel, by decide +kernel, ⟨report, i, report', i', h, h', he⟩,
    hchanged "n" other none {} {} 0⟩

end Run

end CloudAudit
