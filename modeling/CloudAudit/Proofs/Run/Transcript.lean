import CloudAudit.Proofs.Run.Slots

namespace CloudAudit.Run

open FirstPass (Entry)

variable {σ : Type} {limits : LiveLimits} {provider : Option (Provider σ)} {inv : Inventory}
  {rules : List Rule} {ruleIds : Option (List String)} {ids i : IdSupply} {state : σ}
  {report : Report}

/-- A report with the entries of the first pass, slot by slot: its findings are what they say, and
after that what the composites say. -/
structure Transcribed (limits : LiveLimits) (provider : Option (Provider σ)) (inv : Inventory)
    (selected : List Rule) (state : σ) (report : Report) (entries : List Entry) : Prop where
  transcript : ∃ pool, (FirstPass.transcript limits provider inv selected).run ⟨state, 0⟩ =
    (.ok entries, pool)
  firstPass : ∃ pool, (FirstPass.run limits provider inv selected).run ⟨state, 0⟩ =
    (.ok (entries.flatMap Entry.found), pool)
  slots : entries.map Entry.slot = FirstPass.slots inv selected
  findings : report.findings.map Finding.unnamed =
    (entries.flatMap Entry.found ++
      CompositeContext.resolve ⟨selected, ⟨entries.flatMap Entry.found⟩⟩
        (selected.filter (·.isComposite))).map (Finding.ofVerdict inv.accountId inv.now "")

theorem unnamed_findings_report (inv : Inventory) (rules : List Rule) (found : List Verdict)
    (ids : IdSupply) : (Run.report inv rules found ids).1.findings.map Finding.unnamed =
      found.map (Finding.ofVerdict inv.accountId inv.now "") :=
  IdSupply.map_label (f := Finding.ofVerdict inv.accountId inv.now) (fun _ _ => rfl) ids.advance
    found

theorem verdicts_ok {found : List Verdict} {pool pool' : LivePool σ}
    (h : (verdicts limits provider inv rules).run pool = (.ok found, pool')) :
    ∃ base, (FirstPass.run limits provider inv rules).run pool = (.ok base, pool') ∧
      found = base ++ CompositeContext.resolve ⟨rules, ⟨base⟩⟩ (rules.filter (·.isComposite)) := by
  rw [verdicts, Result.run_bind] at h
  cases hb : (FirstPass.run limits provider inv rules).run pool with
  | mk result pool'' =>
    rw [hb] at h
    cases result with
    | error f => cases h
    | ok base =>
      cases h
      exact ⟨base, rfl, rfl⟩

theorem run_report (h : (run limits provider inv rules ruleIds ids state).1 = .ok (report, i)) :
    report.IsOf inv.accountId inv.now ∧ report.rules = select rules ruleIds ∧ report.Tallied := by
  obtain ⟨found, -, -, -, he⟩ := run_ok (Prod.ext h rfl)
  have hrep : report = (Run.report inv (select rules ruleIds) found ids).1 := congrArg Prod.fst he
  rw [hrep]
  exact ⟨report_isOf inv _ found ids, rfl, report_tallied inv _ found ids⟩

theorem run_transcribed (h : (run limits provider inv rules ruleIds ids state).1 = .ok (report, i)) :
    ∃ entries, Transcribed limits provider inv (select rules ruleIds) state report entries ∧
      ∀ e ∈ entries, e.Sound provider inv := by
  obtain ⟨found, pool, hf, -, he⟩ := run_ok (Prod.ext h rfl)
  have hrep : report = (Run.report inv (select rules ruleIds) found ids).1 := congrArg Prod.fst he
  obtain ⟨base, hb, rfl⟩ := verdicts_ok hf
  obtain ⟨entries, ht, rfl, hslots, hsound⟩ := FirstPass.run_ok hb
  refine ⟨entries, ⟨⟨pool, ht⟩, ⟨pool, hb⟩, hslots, ?_⟩, hsound⟩
  rw [hrep]
  exact unnamed_findings_report _ _ _ _

end CloudAudit.Run
