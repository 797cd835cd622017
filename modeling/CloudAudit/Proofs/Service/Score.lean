import CloudAudit.Proofs.Model.History
import CloudAudit.Proofs.Run.Coverage
import CloudAudit.Proofs.Service.Activation

namespace CloudAudit

open Time (Moment)

variable {σ : Type}

namespace Service

variable {s s₁ : Service σ} {p : Pipeline σ} {a : String} {now : Moment} {summary : Summary}
  {report : Report}

theorem gather_rules_nodup {run : RunInputs σ} (h : s.store.Keyed)
    (hg : gather p a s = (.ok run, s₁)) : (run.rules.map Rule.id).Nodup := by
  obtain ⟨inputs, ids, -, hreg, -, hrules⟩ := gather_ok hg
  have hn := Store.registerRules_ids_nodup h.rules a inputs.extraRules
  rw [hreg] at hn
  have hsub : (s₁.store.effectiveRules a).Sublist s₁.store.rules :=
    List.filter_sublist.trans List.filter_sublist
  rw [hrules]
  exact (hsub.map Rule.id).nodup hn

theorem gather_scores {result : Except InputFault (RunInputs σ)} (h : gather p a s = (result, s₁)) :
    s₁.store.scores = s.store.scores := by
  have hu := (gather_unrecorded p a s).store
  rw [h] at hu
  rw [hu]

theorem record_own (s : Service σ)
    (h : ∀ f ∈ report.findings, ∃ r ∈ report.rules, f.ruleId = r.id) :
    ∀ f ∈ (record report s).1, ∃ r ∈ report.rules, f.ruleId = r.id := by
  intro f hf
  obtain ⟨g, hg, rfl⟩ := Ledger.mem_restamp hf
  exact h g hg

theorem record_balanced (s : Service σ) (hn : (report.rules.map Rule.id).Nodup)
    (h : ∀ f ∈ report.findings, ∃ r ∈ report.rules, f.ruleId = r.id) :
    (record report s).2.1.Balanced (record report s).1 report.rules :=
  ScoreEntry.ofFindings_balanced hn (record_own s h)

theorem record_lastRun? (report : Report) (s : Service σ) :
    (record report s).2.2.store.lastRun? report.accountId = some report.evaluatedAt := by
  change (Table.upsert Prod.fst (report.accountId, report.evaluatedAt) s.store.lastRuns).lookup
    report.accountId = _
  rw [Table.lookup_upsert, if_pos rfl]

/-- What a run of an account leaves behind: one new entry in the history, which is right about the
stored findings and the active rules and which the summary agrees with. -/
structure Scored (s s' : Service σ) (a : String) (now : Moment) (summary : Summary)
    (e : ScoreEntry) : Prop where
  history : s'.store.scores = s.store.scores ++ [e]
  account : e.accountId = a
  time : e.evaluatedAt = now
  balanced : e.Balanced (s'.store.findingsOf a) (s'.store.effectiveRules a)
  lastRun : s'.store.lastRun? a = some now
  evaluated : summary.evaluated = (s'.store.findingsOf a).length
  partition : summary.evaluated = summary.compliant + summary.nonCompliant +
    summary.notApplicable + summary.acknowledged
  compliant : summary.compliant = e.compliantCount
  nonCompliant : summary.nonCompliant = e.nonCompliantCount
  notApplicable : summary.notApplicable = e.notApplicableCount
  acknowledged : summary.acknowledged = e.acknowledgedCount
  score : summary.score = e.score

/-- A run that succeeds records a report on the rules that are active; each of its findings is on
one of them. -/
theorem evaluate_recorded (hs : s.store.Keyed) (h : (s.evaluate p a now).1 = .ok summary) :
    ∃ (report : Report) (s₂ : Service σ), report.IsOf a now ∧
      s₂.store.scores = s.store.scores ∧
      (s.evaluate p a now).2.store = (record report s₂).2.2.store ∧
      summary = .ofRun (record report s₂).1 (record report s₂).2.1 ∧
      (s.evaluate p a now).2.store.findingsOf a = (record report s₂).1 ∧
      (s.evaluate p a now).2.store.effectiveRules a = report.rules ∧
      (report.rules.map Rule.id).Nodup ∧
      ∀ f ∈ report.findings, ∃ r ∈ report.rules, f.ruleId = r.id := by
  obtain ⟨run, s₁, report, ids, outside, hg, hrun, hstore, rfl⟩ := evaluate_ok h
  have hresult := congrArg Prod.fst hrun
  obtain ⟨(hof : report.IsOf a now), hrules, -⟩ := Run.run_report hresult
  rw [Run.select_none] at hrules
  have heff : (s.evaluate p a now).2.store.effectiveRules a = report.rules := by
    obtain ⟨-, -, -, -, -, hactive⟩ := gather_ok hg
    rw [hstore, hrules, hactive]
    rfl
  have hfindings : (s.evaluate p a now).2.store.findingsOf a =
      (record report { s₁ with ids, outside }).1 := by
    rw [hstore, ← record_findingsOf, hof.account]
  have hscores : s₁.store.scores = s.store.scores := gather_scores hg
  exact ⟨report, { s₁ with ids, outside }, hof, hscores, hstore, rfl, hfindings, heff,
    hrules ▸ gather_rules_nodup hs hg, Run.findings_own hresult⟩

theorem evaluate_own (hs : s.store.Keyed) (h : (s.evaluate p a now).1 = .ok summary) :
    (((s.evaluate p a now).2.store.effectiveRules a).map Rule.id).Nodup ∧
    ∀ f ∈ (s.evaluate p a now).2.store.findingsOf a,
      ∃ r ∈ (s.evaluate p a now).2.store.effectiveRules a, f.ruleId = r.id := by
  obtain ⟨report, s₂, -, -, -, -, hfindings, heff, hn, hown⟩ := evaluate_recorded hs h
  rw [hfindings, heff]
  exact ⟨hn, record_own s₂ hown⟩

theorem evaluate_scored (hs : s.store.Keyed) (h : (s.evaluate p a now).1 = .ok summary) :
    ∃ e, Scored s (s.evaluate p a now).2 a now summary e := by
  obtain ⟨report, s₂, hof, hscores, hstore, rfl, hfindings, heff, hn, hown⟩ :=
    evaluate_recorded hs h
  have hbal := record_balanced s₂ hn hown
  refine ⟨(record report s₂).2.1, ?_⟩
  constructor
  case history =>
    rw [hstore, ← hscores]
    rfl
  case account => exact hof.account
  case time => exact hof.time
  case balanced => rwa [hfindings, heff]
  case lastRun =>
    rw [hstore, ← hof.account, ← hof.time]
    exact record_lastRun? report _
  case evaluated =>
    rw [hfindings]
    rfl
  case partition => exact hbal.partition.symm
  all_goals rfl

/-- After any actions, a run of an account that succeeds is scored. -/
theorem performAll_evaluate_scored {rules : List Rule} {profiles : List Profile}
    (hs : s.store = .ofCatalogue rules profiles) (acts : List (Action σ))
    (h : ((s.performAll acts).evaluate p a now).1 = .ok summary) :
    ∃ e, Scored (s.performAll acts) ((s.performAll acts).evaluate p a now).2 a now summary e :=
  evaluate_scored (performAll_keyed (hs ▸ Store.ofCatalogue_keyed rules profiles) acts) h

/-- Of the findings of a first run the violation on one resource is acknowledged; the composite is
violated there, too, and says nothing on the other resource. One rule is not active. -/
theorem performAll_evaluate_scored_acknowledged :
    let rule (id kind : String) (config : Fields) (isActive : Bool) : Rule :=
      ⟨id, id, "", ["linode"], kind, config, .warning, isActive, none, false⟩
    let rules : List Rule := [rule "t" "has_tags" [] true, rule "o" "has_tags" [] false,
      rule "c" "composite" [("rule_ids", .arr [.str "t", .str "u"])] true,
      rule "u" "tfa_users" [] true]
    let now : Moment := ⟨2026, 3, 1, 9, 0, 0, 0, some 0⟩
    let p : Pipeline Unit := {
      inventory := InventoryTable.source ⟨[("a", [
        { id := "i", type := "linode", specs := [("tags", .arr [.str "x"])] },
        { id := "j", type := "linode" }])], [], []⟩
      factory := fun _ outside => (.ok none, outside) }
    let first : Service Unit := { store := .ofCatalogue rules [], outside := () }
    let acts : List (Action Unit) := [.evaluate p "a" now,
      .acknowledge "00000000-0000-0000-0000-000000000002" none none now]
    let outcome := (first.performAll acts).evaluate p "a" now
    outcome.1.toOption.map (fun s =>
        [s.evaluated, s.compliant, s.nonCompliant, s.notApplicable, s.acknowledged]) =
      some [5, 1, 1, 2, 1] ∧
    outcome.2.store.scores.getLast?.map (fun e => e.breakdown.map fun b =>
        (b.ruleId, b.compliant, b.nonCompliant, b.notApplicable)) =
      some [("t", 1, 0, 0), ("c", 0, 1, 1), ("u", 0, 0, 1)] ∧
    ∃ summary e, outcome.1 = .ok summary ∧
      Scored (first.performAll acts) outcome.2 "a" now summary e := by
  intro rule rules now p first acts outcome
  obtain ⟨summary, h⟩ := Result.of_isOk (x := outcome.1) (by decide +kernel)
  obtain ⟨e, he⟩ := performAll_evaluate_scored (s := first) rfl acts h
  exact ⟨by decide +kernel, by decide +kernel, summary, e, h, he⟩

end Service

end CloudAudit
