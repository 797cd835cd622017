import CloudAudit.Proofs.Run.Report
import CloudAudit.Proofs.Store.Registration
import CloudAudit.Service.Evaluation

namespace CloudAudit

variable {σ : Type}

namespace Service

variable {p : Pipeline σ} {a : String} {now : Time.Moment} {s s' : Service σ}

/-- What may differ after a call that has recorded nothing: the rules, which identifiers are left,
and what is outside. -/
structure Unrecorded (s s' : Service σ) : Prop where
  store : s'.store = { s.store with rules := s'.store.rules }
  held : s'.held = s.held
  snapshots : s'.snapshots = s.snapshots

theorem providerFor_unrecorded (p : Pipeline σ) (token : Json) (s : Service σ) :
    Unrecorded s (providerFor p token s).2 := by
  rw [providerFor]
  split <;> exact ⟨rfl, rfl, rfl⟩

theorem gather_unrecorded (p : Pipeline σ) (a : String) (s : Service σ) :
    Unrecorded s (gather p a s).2 := by
  rw [gather]
  cases (p.inventory a).run s.ids with
  | mk inputs ids =>
    cases inputs with
    | error f => exact ⟨rfl, rfl, rfl⟩
    | ok inputs =>
      have hr := s.store.fileRules_frame p.bounds.copying a inputs.extraRules
      dsimp only
      cases hreg : s.store.fileRules p.bounds.copying a inputs.extraRules with
      | mk result store =>
        rw [hreg] at hr
        cases result with
        | error f => exact ⟨hr, rfl, rfl⟩
        | ok u =>
          obtain ⟨hs, hh, hp⟩ := providerFor_unrecorded p inputs.token { s with ids, store }
          refine ⟨?_, hh, hp⟩
          dsimp only at hr hs ⊢
          rw [hs, hr]

theorem providerFor_store (p : Pipeline σ) (token : Json) (s : Service σ) :
    (providerFor p token s).2.store = s.store := by
  rw [providerFor]
  split <;> rfl

theorem gather_store (p : Pipeline σ) (a : String) (s : Service σ) :
    ∃ rules, (gather p a s).2.store = (s.store.registerRules a rules).2 := by
  rw [gather]
  cases (p.inventory a).run s.ids with
  | mk inputs ids =>
    cases inputs with
    | error f => exact ⟨[], rfl⟩
    | ok inputs =>
      refine ⟨inputs.extraRules.takeWhile (s.store.canCopy p.bounds.copying), ?_⟩
      rw [← Store.fileRules_store]
      dsimp only
      cases s.store.fileRules p.bounds.copying a inputs.extraRules with
      | mk result store =>
        cases result with
        | error f => rfl
        | ok u => exact providerFor_store p inputs.token { s with ids, store }

/-- What a run works with: the resources of the inventory, and the rules that are active once the
rules of the inventory are registered. -/
theorem gather_ok {run : RunInputs σ} {s₁ : Service σ} (h : gather p a s = (.ok run, s₁)) :
    ∃ inputs ids, (p.inventory a).run s.ids = (.ok inputs, ids) ∧
      s.store.registerRules a inputs.extraRules = (.ok (), s₁.store) ∧
      run.resources = inputs.resources ∧ run.rules = s₁.store.effectiveRules a := by
  rw [gather] at h
  cases hi : (p.inventory a).run s.ids with
  | mk inputs ids =>
    rw [hi] at h
    cases inputs with
    | error f => cases h
    | ok inputs =>
      refine ⟨inputs, ids, rfl, ?_⟩
      dsimp only at h
      cases hfile : s.store.fileRules p.bounds.copying a inputs.extraRules with
      | mk result store =>
        rw [hfile] at h
        cases result with
        | error f => cases h
        | ok u =>
          have hreg := (Store.fileRules_eq_ok.mp hfile).1
          have hstore := providerFor_store p inputs.token { s with ids, store }
          dsimp only at h
          cases hp : providerFor p inputs.token { s with ids, store } with
          | mk provider s₂ =>
            rw [hp] at h hstore
            obtain ⟨hrun, rfl⟩ := Prod.mk.inj h
            obtain ⟨provider, -, rfl⟩ := Result.map_eq_ok.mp hrun
            exact ⟨by rw [hstore, hreg], rfl, by rw [hstore]⟩

theorem providerFor_held (p : Pipeline σ) (token : Json) (s : Service σ) (held : List String) :
    providerFor p token { s with held } =
      ((providerFor p token s).1, { (providerFor p token s).2 with held }) := by
  rw [providerFor, providerFor]
  split <;> rfl

theorem gather_held (p : Pipeline σ) (a : String) (s : Service σ) (held : List String) :
    gather p a { s with held } = ((gather p a s).1, { (gather p a s).2 with held }) := by
  rw [gather, gather]
  dsimp only
  cases (p.inventory a).run s.ids with
  | mk inputs ids =>
    cases inputs with
    | error f => rfl
    | ok inputs =>
      dsimp only
      cases s.store.fileRules p.bounds.copying a inputs.extraRules with
      | mk result store =>
        cases result with
        | error f => rfl
        | ok u =>
          have h := providerFor_held p inputs.token { s with ids, store } held
          dsimp only at h ⊢
          rw [h]

theorem keep_held (p : Pipeline σ) (report : Report) (s : Service σ) (held : List String) :
    keep p report { s with held } =
      ((keep p report s).1, { (keep p report s).2 with held }) := by
  rw [keep, keep]
  split
  · rfl
  · split <;> rfl

theorem evaluateHeld_of_inputFault {f : InputFault} {s₁ : Service σ}
    (h : gather p a s = (.error f, s₁)) : evaluateHeld p a now s =
      (.error (if f.isReported then .inputs a f else .unreported f), s₁) := by
  rw [evaluateHeld, h]

theorem evaluateHeld_of_checkFault {run : RunInputs σ} {f : CheckFault} {s₁ : Service σ}
    {outside : σ} (h : gather p a s = (.ok run, s₁))
    (hr : Run.run p.limits run.provider ⟨a, run.resources, now⟩ run.rules none s₁.ids s₁.outside =
      (.error f, outside)) :
    evaluateHeld p a now s = (.error (.check f), { s₁ with outside }) := by
  rw [evaluateHeld, h]
  dsimp only
  rw [hr]

theorem evaluateHeld_of_report {run : RunInputs σ} {report : Report} {ids : IdSupply}
    {s₁ : Service σ} {outside : σ} (h : gather p a s = (.ok run, s₁))
    (hr : Run.run p.limits run.provider ⟨a, run.resources, now⟩ run.rules none s₁.ids s₁.outside =
      (.ok (report, ids), outside)) :
    evaluateHeld p a now s =
      let done := record report { s₁ with ids, outside }
      let kept := keep p { report with findings := done.1 } done.2.2
      (kept.1.map fun _ => .ofRun done.1 done.2.1, kept.2) := by
  rw [evaluateHeld, h]
  dsimp only
  rw [hr]
  dsimp only
  cases keep p { report with findings := (record report { s₁ with ids, outside }).1 }
      (record report { s₁ with ids, outside }).2.2 with
  | mk kept s₃ => cases kept <;> rfl

theorem evaluateHeld_held (p : Pipeline σ) (a : String) (now : Time.Moment) (s : Service σ)
    (held : List String) :
    evaluateHeld p a now { s with held } =
      ((evaluateHeld p a now s).1, { (evaluateHeld p a now s).2 with held }) := by
  have hg := gather_held p a s held
  cases h : gather p a s with
  | mk run s₁ =>
    rw [h] at hg
    cases run with
    | error f => rw [evaluateHeld_of_inputFault h, evaluateHeld_of_inputFault hg]
    | ok run =>
      cases hr : Run.run p.limits run.provider ⟨a, run.resources, now⟩ run.rules none s₁.ids
          s₁.outside with
      | mk result outside =>
        cases result with
        | error f => rw [evaluateHeld_of_checkFault h hr, evaluateHeld_of_checkFault hg hr]
        | ok r =>
          obtain ⟨report, ids⟩ := r
          rw [evaluateHeld_of_report h hr, evaluateHeld_of_report hg hr]
          generalize hd : record report { s₁ with ids, outside } = done
          have hd' : record report { s₁ with held, ids, outside } =
              (done.1, done.2.1, { done.2.2 with held }) := hd ▸ rfl
          dsimp only
          rw [hd', keep_held]

theorem keep_store (p : Pipeline σ) (report : Report) (s : Service σ) :
    (keep p report s).2.store = s.store := by
  rw [keep]
  split
  · rfl
  · split <;> rfl

theorem keep_result (p : Pipeline σ) (report : Report) (s : Service σ) :
    (keep p report s).1 = .ok () ∨ (keep p report s).1 = .error .snapshotTime := by
  rw [keep]
  split
  · exact .inl rfl
  · split
    · exact .inr rfl
    · exact .inl rfl

theorem evaluateHeld_rules (p : Pipeline σ) (a : String) (now : Time.Moment) (s : Service σ) :
    (evaluateHeld p a now s).2.store.rules = (gather p a s).2.store.rules := by
  cases h : gather p a s with
  | mk run s₁ =>
    cases run with
    | error f => rw [evaluateHeld_of_inputFault h]
    | ok run =>
      cases hr : Run.run p.limits run.provider ⟨a, run.resources, now⟩ run.rules none s₁.ids
          s₁.outside with
      | mk result outside =>
        cases result with
        | error f => rw [evaluateHeld_of_checkFault h hr]
        | ok r =>
          rw [evaluateHeld_of_report h hr]
          exact congrArg (·.rules) (keep_store _ _ _)

/-- Either the call fails with nothing recorded, or the run has come to its end and is recorded; it
then fails only where its report cannot be filed under its time. -/
theorem evaluateHeld_cases (p : Pipeline σ) (a : String) (now : Time.Moment) (s : Service σ) :
    (∃ f, (evaluateHeld p a now s).1 = .error f ∧ f ≠ .snapshotTime ∧
      (∀ b, f ≠ .alreadyRunning b) ∧ Unrecorded s (evaluateHeld p a now s).2) ∨
    ∃ report s₁, report.IsOf a now ∧ Unrecorded s s₁ ∧
      (evaluateHeld p a now s).2.store = (record report s₁).2.2.store ∧
      ((evaluateHeld p a now s).1 =
          .ok (.ofRun (record report s₁).1 (record report s₁).2.1) ∨
        (evaluateHeld p a now s).1 = .error .snapshotTime) := by
  have hu := gather_unrecorded p a s
  cases hg : gather p a s with
  | mk run s₁ =>
    rw [hg] at hu
    obtain ⟨hstore, hheld, hsnap⟩ := hu
    cases run with
    | error f =>
      rw [evaluateHeld_of_inputFault hg]
      refine .inl ⟨_, rfl, ?_, ?_, hstore, hheld, hsnap⟩
      · split <;> exact RunFault.noConfusion
      · intro b
        split <;> exact RunFault.noConfusion
    | ok run =>
      cases hr : Run.run p.limits run.provider ⟨a, run.resources, now⟩ run.rules none s₁.ids
          s₁.outside with
      | mk result outside =>
        cases result with
        | error f =>
          rw [evaluateHeld_of_checkFault hg hr]
          exact .inl ⟨_, rfl, nofun, nofun, hstore, hheld, hsnap⟩
        | ok r =>
          obtain ⟨report, ids⟩ := r
          obtain ⟨found, -, -, -, he⟩ := Run.run_ok hr
          have hof : report.IsOf a now := by
            have h := Run.report_isOf ⟨a, run.resources, now⟩ (Run.select run.rules none) found
              s₁.ids
            rwa [← he] at h
          rw [evaluateHeld_of_report hg hr]
          refine .inr ⟨report, { s₁ with ids, outside }, hof, ⟨hstore, hheld, hsnap⟩,
            keep_store _ _ _, ?_⟩
          obtain hk | hk := keep_result p
            { report with findings := (record report { s₁ with ids, outside }).1 }
            (record report { s₁ with ids, outside }).2.2
          · exact .inl (by dsimp only; rw [hk]; rfl)
          · exact .inr (by dsimp only; rw [hk]; rfl)

theorem evaluate_of_held (p : Pipeline σ) (now : Time.Moment) (h : s.isHeld a = true) :
    s.evaluate p a now = (.error (.alreadyRunning a), s) := by
  rw [evaluate, if_pos h]

theorem evaluate_of_not_held (p : Pipeline σ) (now : Time.Moment) (h : s.isHeld a = false) :
    s.evaluate p a now = evaluateHeld p a now s := by
  have hs : (evaluateHeld p a now s).2.held = s.held :=
    congrArg (·.2.held) (evaluateHeld_held p a now s s.held)
  rw [evaluate, if_neg (by simp [h]), hold, evaluateHeld_held]
  dsimp only [release]
  rw [List.erase_cons_head, ← hs]

theorem evaluate_keeps_marks (p : Pipeline σ) (a : String) (now : Time.Moment) (s : Service σ) :
    (s.evaluate p a now).2.held = s.held := by
  cases h : s.isHeld a with
  | true => rw [evaluate_of_held p now h]
  | false =>
    rw [evaluate_of_not_held p now h]
    exact congrArg (·.2.held) (evaluateHeld_held p a now s s.held)

theorem Unrecorded.of_failure {f : RunFault} (h : (s.evaluate p a now).1 = .error f)
    (hf : f ≠ .snapshotTime) : Unrecorded s (s.evaluate p a now).2 := by
  cases hs : s.isHeld a with
  | true =>
    rw [evaluate_of_held p now hs]
    exact ⟨rfl, rfl, rfl⟩
  | false =>
    rw [evaluate_of_not_held p now hs] at h ⊢
    obtain ⟨-, -, -, -, hu⟩ | ⟨report, s₁, -, -, -, hr | hr⟩ := evaluateHeld_cases p a now s
    · exact hu
    · cases hr.symm.trans h
    · cases hr.symm.trans h
      exact absurd rfl hf

theorem record_findingsOf (report : Report) (s : Service σ) :
    (record report s).2.2.store.findingsOf report.accountId = (record report s).1 := by
  change (s.store.replaceFindings report.accountId _).findingsOf report.accountId = _
  rw [Store.findingsOf_replaceFindings, if_pos rfl]
  rfl

theorem record_verdicts (report : Report) (s : Service σ) :
    (record report s).1.map Finding.verdict = report.findings.map Finding.verdict := by
  change (Ledger.restamp _ report.findings).map Finding.verdict = _
  rw [Ledger.restamp, List.map_map]
  rfl

/-- A call that succeeds has loaded its inputs, run the rules, recorded the report and kept it. -/
theorem evaluate_ok {summary : Summary} (h : (s.evaluate p a now).1 = .ok summary) :
    ∃ run s₁ report ids outside, gather p a s = (.ok run, s₁) ∧
      Run.run p.limits run.provider ⟨a, run.resources, now⟩ run.rules none s₁.ids s₁.outside =
        (.ok (report, ids), outside) ∧
      (s.evaluate p a now).2.store = (record report { s₁ with ids, outside }).2.2.store ∧
      summary = .ofRun (record report { s₁ with ids, outside }).1
        (record report { s₁ with ids, outside }).2.1 := by
  cases hs : s.isHeld a with
  | true =>
    rw [evaluate_of_held p now hs] at h
    cases h
  | false =>
    rw [evaluate_of_not_held p now hs] at h ⊢
    cases hg : gather p a s with
    | mk run s₁ =>
      cases run with
      | error f =>
        rw [evaluateHeld_of_inputFault hg] at h
        cases h
      | ok run =>
        cases hr : Run.run p.limits run.provider ⟨a, run.resources, now⟩ run.rules none s₁.ids
            s₁.outside with
        | mk result outside =>
          cases result with
          | error f =>
            rw [evaluateHeld_of_checkFault hg hr] at h
            cases h
          | ok r =>
            obtain ⟨report, ids⟩ := r
            rw [evaluateHeld_of_report hg hr] at h ⊢
            obtain ⟨-, -, rfl⟩ := Result.map_eq_ok.mp h
            exact ⟨run, s₁, report, ids, outside, rfl, hr, keep_store _ _ _, rfl⟩

theorem evaluate_alreadyRunning_iff :
    (∃ b, (s.evaluate p a now).1 = .error (.alreadyRunning b)) ↔ a ∈ s.held := by
  rw [← List.contains_iff_mem]
  change _ ↔ s.isHeld a = true
  cases hs : s.isHeld a with
  | true =>
    rw [evaluate_of_held p now hs]
    exact iff_of_true ⟨a, rfl⟩ rfl
  | false =>
    rw [evaluate_of_not_held p now hs]
    refine iff_of_false ?_ Bool.false_ne_true
    rintro ⟨b, hb⟩
    obtain ⟨f, hf, -, hno, -⟩ | ⟨report, s₁, -, -, -, hr | hr⟩ := evaluateHeld_cases p a now s
    · cases hf.symm.trans hb
      exact hno b rfl
    · cases hr.symm.trans hb
    · cases hr.symm.trans hb

/-- A call that fails on the way to its verdicts leaves the records of every account alone. It is
turned down as already running just when the account is marked, whatever the inventory holds, and
then nothing at all changes. In every case the same accounts are marked afterwards. -/
theorem evaluate_failure_keeps_records (p : Pipeline σ) (a : String) (now : Time.Moment)
    (s : Service σ) :
    (∀ f, (s.evaluate p a now).1 = .error f → f ≠ .snapshotTime →
      (s.evaluate p a now).2.store.findings = s.store.findings ∧
      (s.evaluate p a now).2.store.overrides = s.store.overrides ∧
      (s.evaluate p a now).2.store.scores = s.store.scores ∧
      (s.evaluate p a now).2.store.resourceEntries = s.store.resourceEntries ∧
      (s.evaluate p a now).2.store.notes = s.store.notes ∧
      (s.evaluate p a now).2.store.lastRuns = s.store.lastRuns) ∧
    ((∃ b, (s.evaluate p a now).1 = .error (.alreadyRunning b)) ↔ a ∈ s.held) ∧
    (a ∈ s.held → ∀ q : Pipeline σ, s.evaluate q a now = (.error (.alreadyRunning a), s)) ∧
    ∀ b, b ∈ (s.evaluate p a now).2.held ↔ b ∈ s.held := by
  refine ⟨?_, evaluate_alreadyRunning_iff, ?_, ?_⟩
  · intro f h hf
    rw [(Unrecorded.of_failure h hf).store]
    exact ⟨rfl, rfl, rfl, rfl, rfl, rfl⟩
  · intro h q
    exact evaluate_of_held q now (List.contains_iff_mem.mpr h)
  · intro b
    rw [evaluate_keeps_marks]

/-- The inventory ships a rule of the account and then one of nobody: the first is registered, the
call fails, and the finding on file stays. -/
theorem evaluate_failure_keeps_records_foreign_rule :
    let own : Rule := ⟨"x", "X", "", [], "has_tags", [], .warning, true, some "a", false⟩
    let p : Pipeline Unit := {
      inventory := InventoryTable.source
        ⟨[("a", [])], [], [("a", [own, { own with accountId := none }])]⟩
      factory := fun _ outside => (.ok none, outside) }
    let now : Time.Moment := ⟨2026, 3, 1, 9, 0, 0, 0, some 0⟩
    let s : Service Unit := {
      store := { findings := [("a", [⟨"f", "x", none, "a", .compliant, "", now, true, some now,
        none, none⟩])] }
      held := ["b"], outside := () }
    (s.evaluate p "a" now).1 =
        .error (.inputs "a" (.store (.foreignRule "x" none "a"))) ∧
      (s.evaluate p "a" now).2.store.rules = [own] ∧
      (s.evaluate p "a" now).2.store.findings = s.store.findings := by
  intro own p now s
  have h : (s.evaluate p "a" now).1 = .error (.inputs "a" (.store (.foreignRule "x" none "a"))) :=
    rfl
  exact ⟨h, rfl, ((evaluate_failure_keeps_records p "a" now s).1 _ h nofun).1⟩

end Service

end CloudAudit
