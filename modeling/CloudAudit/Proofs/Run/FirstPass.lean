import CloudAudit.Proofs.Check.Order
import CloudAudit.Run.FirstPass

namespace CloudAudit

variable {σ : Type}

/-- What a verdict says, but for the sentence. -/
def Verdict.judgement (v : Verdict) : String × Option String × Status :=
  (v.ruleId, v.resourceId, v.status)

/-- A provider gives the same reply to a call whenever it is made. -/
def Provider.Replies (p : Provider σ) (answer : LiveCall → Except ProviderFault Json) : Prop :=
  ∀ call state, (p.call call state).1 = .ofResult (answer call)

namespace FirstPass

variable {α β : Type}

/-- A computation comes to one result whatever the state of the provider, and no worker is stuck
afterwards. -/
def Settles (m : ExceptT CheckFault (StateM (LivePool σ)) α) (x : Except CheckFault α) : Prop :=
  ∀ state, ∃ state', m.run ⟨state, 0⟩ = (x, ⟨state', 0⟩)

namespace Settles

variable {m : ExceptT CheckFault (StateM (LivePool σ)) α} {x : Except CheckFault α}

theorem of_except (x : Except CheckFault α) : Settles (σ := σ) (ExceptT.mk (pure x)) x :=
  fun state => ⟨state, rfl⟩

theorem bind {f : α → ExceptT CheckFault (StateM (LivePool σ)) β} {g : α → Except CheckFault β}
    (h : Settles m x) (hf : ∀ a, Settles (f a) (g a)) : Settles (m >>= f) (x >>= g) := by
  intro state
  obtain ⟨state', hm⟩ := h state
  rw [Result.run_bind, hm]
  cases x with
  | error e => exact ⟨state', rfl⟩
  | ok a => exact hf a state'

theorem map (h : Settles m x) (f : α → β) :
    Settles (m >>= fun a => pure (f a)) (x.map f) := by
  have hb := h.bind fun a => of_except (σ := σ) (.ok (f a))
  cases x with
  | error e => exact hb
  | ok a => exact hb

theorem mapM {f : α → ExceptT CheckFault (StateM (LivePool σ)) β} {g : α → Except CheckFault β}
    (h : ∀ a, Settles (f a) (g a)) (as : List α) : Settles (as.mapM f) (as.mapM g) := by
  induction as with
  | nil => exact of_except (.ok [])
  | cons a as ih =>
    rw [List.mapM_cons, List.mapM_cons]
    exact (h a).bind fun b => ih.bind fun bs => of_except (.ok (b :: bs))

end Settles

variable {limits : LiveLimits} {provider : Option (Provider σ)}
  {answers : Option (LiveCall → Except ProviderFault Json)} {inv : Inventory} {rule : Rule}
  {resources : List Resource}

/-- The outcomes of a live check whose question is replied to in time. -/
def answered (limits : LiveLimits) (answers : Option (LiveCall → Except ProviderFault Json))
    (check : LiveCheck) (rule : Rule) (resource : Option Resource) : List Outcome :=
  match answers with
  | none => [.notApplicable ("No API token available to " ++ check.purpose ++ ".")]
  | some answer =>
    if limits.workers ≤ 0 then [timedOut limits]
    else
      match check.question rule resource with
      | .error f => containLive (.error f)
      | .ok call => containLive (check.judge rule (answer call))

/-- The verdicts of one rule where all questions are replied to in time. -/
def checked (limits : LiveLimits) (answers : Option (LiveCall → Except ProviderFault Json))
    (inv : Inventory) (rule : Rule) : Except CheckFault (List Verdict) :=
  let targets := rule.applicable inv.resources
  match rule.check? with
  | none => .ok (targets.flatMap fun resource =>
      verdicts rule (some resource) [.notApplicable "Rule condition not recognized."])
  | some (.resource check) => (targets.mapM (checkResource check rule inv)).map List.flatten
  | some (.liveAccount check) => .ok (verdicts rule none (answered limits answers check rule none))
  | some (.liveResource check) => .ok (targets.flatMap fun resource =>
      verdicts rule (some resource) (answered limits answers check rule (some resource)))

theorem runLive_settles (limits : LiveLimits) (h : Option.Rel Provider.Replies provider answers)
    (check : LiveCheck) (rule : Rule) (resource : Option Resource) :
    Settles (ExceptT.lift (runLive limits provider check rule resource))
      (.ok (answered limits answers check rule resource)) := by
  intro state
  change ∃ state', (match runLive limits provider check rule resource ⟨state, 0⟩ with
    | (found, pool) => (Except.ok found, pool)) = _
  cases h with
  | none => exact ⟨state, rfl⟩
  | @some p answer hp =>
    rw [runLive, answered]
    dsimp only
    by_cases hw : limits.workers ≤ 0
    · rw [if_pos hw, if_pos hw]
      exact ⟨state, rfl⟩
    · rw [if_neg hw, if_neg hw]
      cases check.question rule resource with
      | error f => exact ⟨state, rfl⟩
      | ok call =>
        have hc := hp call state
        dsimp only
        cases hcall : p.call call state with
        | mk reply state' =>
          rw [hcall] at hc
          subst hc
          refine ⟨state', ?_⟩
          cases answer call <;> rfl

theorem checkRule_settles (limits : LiveLimits) (h : Option.Rel Provider.Replies provider answers)
    (inv : Inventory) (rule : Rule) :
    Settles (checkRule limits provider inv rule) (checked limits answers inv rule) := by
  rw [checkRule, checked]
  cases rule.check? with
  | none => exact .of_except (.ok _)
  | some check =>
    cases check with
    | resource check => exact (Settles.of_except _).map List.flatten
    | liveAccount check =>
      exact (runLive_settles limits h check rule none).map (verdicts rule none)
    | liveResource check =>
      have hm := (Settles.mapM (fun resource => (runLive_settles limits h check rule
        (some resource)).map (verdicts rule (some resource)))
        (rule.applicable inv.resources)).map List.flatten
      -- Live checks never fail, so the loop over the resources is a plain map.
      have he := List.mapM_pure (m := Except CheckFault) (l := rule.applicable inv.resources)
        (f := fun resource => verdicts rule (some resource)
          (answered limits answers check rule (some resource)))
      rw [List.flatMap_def]
      refine (congrArg (Settles _) ?_).mp hm
      exact congrArg (Except.map List.flatten) he

/-- With replies in time the first pass comes to the verdicts rule by rule. -/
theorem run_settles (limits : LiveLimits) (h : Option.Rel Provider.Replies provider answers)
    (inv : Inventory) (rules : List Rule) :
    Settles (run limits provider inv rules)
      (((rules.filter (!·.isComposite)).mapM (checked limits answers inv)).map List.flatten) :=
  (Settles.mapM (checkRule_settles limits h inv) _).map List.flatten

theorem contain_alike {x y : Except CheckFault Outcome} (h : StatusAlike x y)
    {found found' : List Outcome} (hx : contain (x.map ([·])) = .ok found)
    (hy : contain (y.map ([·])) = .ok found') : found.map (·.status) = found'.map (·.status) := by
  cases h with
  | ok hs =>
    cases hx
    cases hy
    exact congrArg (fun s => [s]) hs
  | error f f' =>
    change (if f.isContained then Except.ok [_] else .error f) = _ at hx
    change (if f'.isContained then Except.ok [_] else .error f') = _ at hy
    split at hx
    · cases hx
      split at hy
      · cases hy
        rfl
      · cases hy
    · cases hx

theorem judgement_verdicts (rule : Rule) (resource : Option Resource) (outcomes : List Outcome) :
    (verdicts rule resource outcomes).map Verdict.judgement =
      (outcomes.map (·.status)).map (rule.id, resource.map Resource.id, ·) := by
  rw [verdicts, List.map_map, List.map_map]
  rfl

theorem checkResource_perm {check : ResourceCheck} (hk : rule.check? = some (.resource check))
    (hn : inv.NumbersApart) (h : inv.resources.Perm resources) {resource : Resource}
    {found found' : List Verdict} (hx : checkResource check rule inv resource = .ok found)
    (hy : checkResource check rule { inv with resources } resource = .ok found') :
    found.map Verdict.judgement = found'.map Verdict.judgement := by
  obtain ⟨kind, -, hkind⟩ := Option.bind_eq_some_iff.mp hk
  obtain ⟨outcomes, ho, rfl⟩ := Result.map_eq_ok.mp hx
  obtain ⟨outcomes', ho', rfl⟩ := Result.map_eq_ok.mp hy
  rw [judgement_verdicts, judgement_verdicts,
    contain_alike (ConditionKind.check_perm hkind hn h) ho ho']

theorem checked_perm (hn : inv.NumbersApart) (h : inv.resources.Perm resources)
    {found found' : List Verdict} (hx : checked limits answers inv rule = .ok found)
    (hy : checked limits answers { inv with resources } rule = .ok found') :
    (found.map Verdict.judgement).Perm (found'.map Verdict.judgement) := by
  have ht : (rule.applicable inv.resources).Perm (rule.applicable resources) := h.filter _
  rw [checked] at hx hy
  cases hk : rule.check? with
  | none =>
    rw [hk] at hx hy
    cases hx
    cases hy
    exact (ht.flatMap_right _).map _
  | some check =>
    rw [hk] at hx hy
    cases check with
    | resource check =>
      obtain ⟨lists, hl, rfl⟩ := Result.map_eq_ok.mp hx
      obtain ⟨lists', hl', rfl⟩ := Result.map_eq_ok.mp hy
      rw [List.map_flatten, List.map_flatten, ← List.flatMap_def, ← List.flatMap_def]
      exact Result.perm_of_mapM _ ht hl hl' fun resource _ _ _ hc hc' =>
        .of_eq (checkResource_perm hk hn h hc hc')
    | liveAccount check =>
      cases hx
      cases hy
      exact .rfl
    | liveResource check =>
      cases hx
      cases hy
      exact (ht.flatMap_right _).map _

theorem mapM_checked_perm {rules rules' : List Rule} (hr : rules.Perm rules')
    (hn : inv.NumbersApart) (h : inv.resources.Perm resources) {lists lists' : List (List Verdict)}
    (hx : rules.mapM (checked limits answers inv) = .ok lists)
    (hy : rules'.mapM (checked limits answers { inv with resources }) = .ok lists') :
    (lists.flatten.map Verdict.judgement).Perm (lists'.flatten.map Verdict.judgement) := by
  rw [List.map_flatten, List.map_flatten, ← List.flatMap_def, ← List.flatMap_def]
  exact Result.perm_of_mapM _ hr hx hy fun _ _ _ _ hx hy => checked_perm hn h hx hy

end FirstPass

end CloudAudit
