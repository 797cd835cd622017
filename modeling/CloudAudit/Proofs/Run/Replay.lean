import CloudAudit.Proofs.Result
import CloudAudit.Proofs.Run.Transcript

namespace CloudAudit

variable {σ τ : Type}

def Reply.isEmptyList : Reply → Bool
  | .answer v => v.shape == .arr && !v.truthy
  | .fault _ => false
  | .pending => false

theorem Reply.eq_of_isEmptyList {reply : Reply} (h : reply.isEmptyList = true) :
    reply = .answer (.arr []) := by
  cases reply with
  | answer v => cases v <;> simp_all [isEmptyList, Json.shape, Json.truthy]
  | fault f => cases h
  | pending => cases h

namespace Provider

def noting (p : Provider σ) : Provider (σ × List Reply) where
  call c s :=
    let (reply, state) := p.call c s.1
    (reply, (state, s.2 ++ [reply]))

/-- A provider that plays replies back, whatever it is asked; after the last one none comes any
more. -/
def tape : Provider (List Reply) where
  call
    | _, [] => (.pending, [])
    | _, reply :: replies => (reply, replies)

end Provider

/-- The replies that a run gets, if there is a provider. -/
def Run.replies (limits : LiveLimits) (provider : Option (Provider σ)) (inv : Inventory)
    (rules : List Rule) (state : σ) : Option (List Reply) :=
  provider.map fun p =>
    ((verdicts limits (some p.noting) inv rules).run ⟨(state, []), 0⟩).2.state.2

namespace FirstPass

variable {α β : Type}

/-- A computation, once as it is, once with the replies noted down and once from a tape: all three
come to one result, and what is noted down is what the tape has to hold. -/
def PlaysBack (m : ExceptT CheckFault (StateM (LivePool σ)) α)
    (noting : ExceptT CheckFault (StateM (LivePool (σ × List Reply))) α)
    (tape : ExceptT CheckFault (StateM (LivePool (List Reply))) α) : Prop :=
  ∀ state noted stuck, ∃ x state' heard stuck',
    m.run ⟨state, stuck⟩ = (x, ⟨state', stuck'⟩) ∧
    noting.run ⟨(state, noted), stuck⟩ = (x, ⟨(state', noted ++ heard), stuck'⟩) ∧
    ∀ rest, tape.run ⟨heard ++ rest, stuck⟩ = (x, ⟨rest, stuck'⟩)

namespace PlaysBack

variable {m : ExceptT CheckFault (StateM (LivePool σ)) α}
  {noting : ExceptT CheckFault (StateM (LivePool (σ × List Reply))) α}
  {tape : ExceptT CheckFault (StateM (LivePool (List Reply))) α}

theorem of_except (x : Except CheckFault α) :
    PlaysBack (σ := σ) (ExceptT.mk (pure x)) (ExceptT.mk (pure x)) (ExceptT.mk (pure x)) := by
  intro state noted stuck
  refine ⟨x, state, [], stuck, rfl, ?_, fun rest => rfl⟩
  rw [List.append_nil]
  rfl

theorem bind {f : α → ExceptT CheckFault (StateM (LivePool σ)) β}
    {f' : α → ExceptT CheckFault (StateM (LivePool (σ × List Reply))) β}
    {f'' : α → ExceptT CheckFault (StateM (LivePool (List Reply))) β}
    (h : PlaysBack m noting tape) (hf : ∀ a, PlaysBack (f a) (f' a) (f'' a)) :
    PlaysBack (m >>= f) (noting >>= f') (tape >>= f'') := by
  intro state noted stuck
  obtain ⟨x, state₁, heard, stuck₁, hm, hn, ht⟩ := h state noted stuck
  rw [Result.run_bind, Result.run_bind, hm, hn]
  cases x with
  | error e =>
    refine ⟨.error e, state₁, heard, stuck₁, rfl, rfl, ?_⟩
    intro rest
    rw [Result.run_bind, ht]
  | ok a =>
    obtain ⟨y, state₂, heard', stuck₂, hm', hn', ht'⟩ := hf a state₁ (noted ++ heard) stuck₁
    refine ⟨y, state₂, heard ++ heard', stuck₂, hm', ?_, ?_⟩
    · rw [← List.append_assoc]
      exact hn'
    · intro rest
      rw [Result.run_bind, List.append_assoc, ht]
      exact ht' rest

theorem map (h : PlaysBack m noting tape) (f : α → β) :
    PlaysBack (m >>= fun a => pure (f a)) (noting >>= fun a => pure (f a))
      (tape >>= fun a => pure (f a)) :=
  h.bind fun a => of_except (.ok (f a))

theorem mapM {f : α → ExceptT CheckFault (StateM (LivePool σ)) β}
    {f' : α → ExceptT CheckFault (StateM (LivePool (σ × List Reply))) β}
    {f'' : α → ExceptT CheckFault (StateM (LivePool (List Reply))) β}
    (h : ∀ a, PlaysBack (f a) (f' a) (f'' a)) (as : List α) :
    PlaysBack (as.mapM f) (as.mapM f') (as.mapM f'') := by
  induction as with
  | nil => exact of_except (.ok [])
  | cons a as ih =>
    rw [List.mapM_cons, List.mapM_cons, List.mapM_cons]
    exact (h a).bind fun b => ih.map _

end PlaysBack

theorem runLive_playsBack (limits : LiveLimits) (provider : Option (Provider σ))
    (check : LiveCheck) (rule : Rule) (resource : Option Resource) :
    PlaysBack (ExceptT.lift (runLive limits provider check rule resource))
      (ExceptT.lift (runLive limits (provider.map .noting) check rule resource))
      (ExceptT.lift (runLive limits (provider.map fun _ => .tape) check rule resource)) := by
  cases provider with
  | none => exact .of_except (.ok _)
  | some p =>
    intro state noted stuck
    change ∃ x state' heard stuck',
      (match runLive limits (some p) check rule resource ⟨state, stuck⟩ with
        | (found, pool) => (Except.ok found, pool)) = (x, _) ∧
      (match runLive limits (some p.noting) check rule resource ⟨(state, noted), stuck⟩ with
        | (found, pool) => (Except.ok found, pool)) = (x, _) ∧
      ∀ rest, (match runLive limits (some .tape) check rule resource ⟨heard ++ rest, stuck⟩ with
        | (found, pool) => (Except.ok found, pool)) = (x, _)
    simp only [runLive]
    by_cases hw : limits.workers ≤ stuck
    · simp only [if_pos hw]
      exact ⟨_, state, [], stuck, rfl, by rw [List.append_nil], fun rest => rfl⟩
    · simp only [if_neg hw]
      cases check.question rule resource with
      | error f => exact ⟨_, state, [], stuck, rfl, by rw [List.append_nil], fun rest => rfl⟩
      | ok call =>
        have hnoting : p.noting.call call (state, noted) =
            ((p.call call state).1, ((p.call call state).2, noted ++ [(p.call call state).1])) :=
          rfl
        dsimp only
        rcases hcall : p.call call state with ⟨reply, state'⟩
        rw [hcall] at hnoting
        rw [hnoting]
        cases reply <;> exact ⟨_, state', [_], _, rfl, rfl, fun rest => rfl⟩

theorem checkRule_playsBack (limits : LiveLimits) (provider : Option (Provider σ))
    (inv : Inventory) (rule : Rule) :
    PlaysBack (checkRule limits provider inv rule)
      (checkRule limits (provider.map .noting) inv rule)
      (checkRule limits (provider.map fun _ => .tape) inv rule) := by
  rw [checkRule, checkRule, checkRule]
  cases rule.check? with
  | none => exact .of_except (.ok _)
  | some check =>
    cases check with
    | resource check => exact (PlaysBack.of_except _).map List.flatten
    | liveAccount check =>
      exact (runLive_playsBack limits provider check rule none).map (verdicts rule none)
    | liveResource check =>
      exact (PlaysBack.mapM (fun resource => (runLive_playsBack limits provider check rule
        (some resource)).map (verdicts rule (some resource))) _).map List.flatten

end FirstPass

namespace Run

variable {limits : LiveLimits} {inv : Inventory} {rules : List Rule}
  {p : Option (Provider σ)} {q : Option (Provider τ)}

theorem verdicts_playsBack (limits : LiveLimits) (p : Option (Provider σ)) (inv : Inventory)
    (rules : List Rule) :
    FirstPass.PlaysBack (verdicts limits p inv rules) (verdicts limits (p.map .noting) inv rules)
      (verdicts limits (p.map fun _ => .tape) inv rules) :=
  ((FirstPass.PlaysBack.mapM (FirstPass.checkRule_playsBack limits p inv) _).map
    List.flatten).map _

theorem verdicts_tape (limits : LiveLimits) (p : Provider σ) (inv : Inventory) (rules : List Rule)
    (s : σ) : ∃ heard, replies limits (some p) inv rules s = some heard ∧
      ((verdicts limits (some p) inv rules).run ⟨s, 0⟩).1 =
        ((verdicts limits (some .tape) inv rules).run ⟨heard, 0⟩).1 := by
  obtain ⟨x, s', heard, stuck, hm, hn, ht⟩ := verdicts_playsBack limits (some p) inv rules s [] 0
  have hrest := ht []
  rw [Option.map_some] at hn hrest
  rw [List.append_nil] at hrest
  refine ⟨heard, ?_, ?_⟩
  · rw [replies, Option.map_some, hn]
    rfl
  · rw [hm, hrest]

theorem verdicts_of_replies {s : σ} {t : τ}
    (h : replies limits q inv rules t = replies limits p inv rules s) :
    ((verdicts limits q inv rules).run ⟨t, 0⟩).1 =
      ((verdicts limits p inv rules).run ⟨s, 0⟩).1 := by
  cases p with
  | none =>
    cases q with
    | none =>
      -- Nothing is asked, so what is outside does not matter.
      obtain ⟨_, hs⟩ := verdicts_settles limits .none inv rules s
      obtain ⟨_, ht⟩ := verdicts_settles limits .none inv rules t
      exact (congrArg Prod.fst ht).trans (congrArg Prod.fst hs).symm
    | some q => cases h
  | some p =>
    cases q with
    | none => cases h
    | some q =>
      obtain ⟨heard, hp, he⟩ := verdicts_tape limits p inv rules s
      obtain ⟨heard', hq, he'⟩ := verdicts_tape limits q inv rules t
      rw [hp, hq] at h
      cases h
      rw [he, he']

/-- Runs that get the same replies and end give the same findings, but for the identifiers. -/
theorem run_replay {ruleIds : Option (List String)} {ids i ids' i' : IdSupply} {s s' : σ}
    {t t' : τ} {report report' : Report}
    (hr : replies limits q inv (select rules ruleIds) t =
      replies limits p inv (select rules ruleIds) s)
    (h : run limits p inv rules ruleIds ids s = (.ok (report, i), s'))
    (h' : run limits q inv rules ruleIds ids' t = (.ok (report', i'), t')) :
    report'.findings.map Finding.unnamed = report.findings.map Finding.unnamed := by
  obtain ⟨found, pool, hf, -, he⟩ := run_ok h
  obtain ⟨found', pool', hf', -, he'⟩ := run_ok h'
  have hv := verdicts_of_replies hr
  rw [hf, hf'] at hv
  cases hv
  have hreport : report = _ := congrArg Prod.fst he
  have hreport' : report' = _ := congrArg Prod.fst he'
  rw [hreport, hreport', unnamed_findings_report, unnamed_findings_report]

end Run

end CloudAudit
