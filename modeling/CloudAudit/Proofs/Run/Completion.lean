import CloudAudit.Proofs.Check.Containment
import CloudAudit.Proofs.Run.FirstPass
import CloudAudit.Proofs.Run.Report

namespace CloudAudit

variable {σ : Type}

/-- A check of the rule takes an infinite number for a whole one. -/
def Rule.Overflows (rule : Rule) (inv : Inventory) : Prop :=
  ∃ check, rule.check? = some (.resource check) ∧
    ∃ r ∈ rule.applicable inv.resources, check rule r inv = .error (.data .infiniteNumber)

theorem Rule.isComposite_of_check? {rule : Rule} {check : Check} (h : rule.check? = some check) :
    rule.isComposite = false := by
  by_contra hc
  rw [Bool.not_eq_false, isComposite, beq_iff_eq] at hc
  rw [check?, hc] at h
  cases h

namespace FirstPass

variable {α β : Type} {Q : CheckFault → Prop} {R : α → Prop} {S : β → Prop}
  {m : ExceptT CheckFault (StateM (LivePool σ)) α}

/-- The verdict of a rule on a resource: what the check says, or that it says nothing because of a
fault. -/
def verdictOf (check : ResourceCheck) (rule : Rule) (inv : Inventory) (r : Resource) : Verdict :=
  match check rule r inv with
  | .ok o => ⟨rule.id, some r.id, o.status, o.detail⟩
  | .error f =>
    ⟨rule.id, some r.id, .notApplicable, "Could not evaluate this rule: " ++ f.message⟩

/-- However the provider is and whatever it does, a computation fails with faults of one sort only,
and its results are of one sort. -/
def Ends (Q : CheckFault → Prop) (R : α → Prop)
    (m : ExceptT CheckFault (StateM (LivePool σ)) α) : Prop :=
  ∀ pool, (∀ f, (m.run pool).1 = .error f → Q f) ∧ ∀ a, (m.run pool).1 = .ok a → R a

namespace Ends

theorem of_except {x : Except CheckFault α} (hQ : ∀ f, x = .error f → Q f)
    (hR : ∀ a, x = .ok a → R a) : Ends (σ := σ) Q R (ExceptT.mk (pure x)) :=
  fun _ => ⟨hQ, hR⟩

theorem pure {a : α} (h : R a) : Ends (σ := σ) Q R (Pure.pure a) :=
  fun _ => ⟨nofun, fun _ he => Except.ok.inj he ▸ h⟩

theorem of_lift {x : StateM (LivePool σ) α} (hR : ∀ a, R a) : Ends Q R (ExceptT.lift x) :=
  fun _ => ⟨nofun, fun a _ => hR a⟩

theorem mono {Q' : CheckFault → Prop} {R' : α → Prop} (h : Ends Q R m) (hQ : ∀ f, Q f → Q' f)
    (hR : ∀ a, R a → R' a) : Ends Q' R' m :=
  fun pool => ⟨fun f hf => hQ f ((h pool).1 f hf), fun a ha => hR a ((h pool).2 a ha)⟩

theorem bind {f : α → ExceptT CheckFault (StateM (LivePool σ)) β} (h : Ends Q R m)
    (hf : ∀ a, R a → Ends Q S (f a)) : Ends Q S (m >>= f) := by
  intro pool
  obtain ⟨hQ, hR⟩ := h pool
  rw [Result.run_bind]
  cases hm : m.run pool with
  | mk result pool' =>
    rw [hm] at hQ hR
    cases result with
    | error e =>
      constructor
      · rintro _ ⟨⟩
        exact hQ e rfl
      · exact nofun
    | ok a => exact hf a (hR a rfl) pool'

theorem mapM {R : α → β → Prop} {f : α → ExceptT CheckFault (StateM (LivePool σ)) β} {as : List α}
    (h : ∀ a ∈ as, Ends Q (R a) (f a)) : Ends Q (List.Forall₂ R as) (as.mapM f) := by
  induction as with
  | nil =>
    rw [List.mapM_nil]
    exact pure .nil
  | cons a as ih =>
    have ih := ih fun a ha => h a (List.mem_cons_of_mem _ ha)
    rw [List.mapM_cons]
    exact (h a List.mem_cons_self).bind fun b hb => ih.bind fun bs hbs => pure (.cons hb hbs)

end Ends

variable {limits : LiveLimits} {provider : Option (Provider σ)} {inv : Inventory} {rule : Rule}
  {check : ResourceCheck} {r : Resource}

theorem checkResource_cases (hk : rule.check? = some (.resource check)) (hr : r ∈ inv.resources) :
    check rule r inv = .error (.data .infiniteNumber) ∧
        checkResource check rule inv r = .error (.data .infiniteNumber) ∨
      check rule r inv ≠ .error (.data .infiniteNumber) ∧
        checkResource check rule inv r = .ok [verdictOf check rule inv r] := by
  obtain ⟨kind, -, hkind⟩ := Option.bind_eq_some_iff.mp hk
  have he : Result.FailsOnly (CheckFault.Expected inv) (check rule r inv) :=
    Check.check_expected hkind hr
  rw [checkResource, verdictOf]
  cases hc : check rule r inv with
  | ok o => exact .inr ⟨nofun, rfl⟩
  | error f =>
    obtain hf | ⟨rfl, -⟩ := he f hc
    · right
      constructor
      · rintro ⟨⟩
        cases hf
      · change (contain (.error f)).map _ = _
        rw [contain, if_pos hf]
        rfl
    · exact .inl ⟨rfl, rfl⟩

/-- The verdicts of a rule that takes no infinite number for a whole one: where it is checked on
resources, one on each that it applies to. -/
structure Judged (inv : Inventory) (rule : Rule) (found : List Verdict) : Prop where
  not_overflows : ¬ rule.Overflows inv
  verdicts : ∀ check, rule.check? = some (.resource check) →
    found = (rule.applicable inv.resources).map (verdictOf check rule inv)

theorem Judged.of_other (h : ∀ check, rule.check? ≠ some (.resource check)) (found : List Verdict) :
    Judged inv rule found := by
  constructor
  · rintro ⟨check, hk, -⟩
    exact h check hk
  · intro check hk
    exact (h check hk).elim

theorem mapM_checkResource_ends (hk : rule.check? = some (.resource check)) :
    Ends (σ := σ) (fun f => f = .data .infiniteNumber ∧ rule.Overflows inv)
      (fun lists => Judged inv rule lists.flatten)
      (ExceptT.mk <| pure <| (rule.applicable inv.resources).mapM <|
        checkResource check rule inv) := by
  have hcases {r : Resource} (hr : r ∈ rule.applicable inv.resources) :=
    checkResource_cases hk (List.mem_filter.mp hr).1
  apply Ends.of_except
  · refine Result.failsOnly_mapM fun r hr f hf => ?_
    obtain ⟨hc, he⟩ | ⟨-, he⟩ := hcases hr
    · rw [he] at hf
      cases hf
      exact ⟨rfl, check, hk, r, hr, hc⟩
    · rw [he] at hf
      cases hf
  · intro lists hl
    constructor
    · rintro ⟨check', hk', r, hr, hc⟩
      cases hk.symm.trans hk'
      obtain ⟨-, he⟩ | ⟨hn, -⟩ := hcases hr
      · obtain ⟨found, hf⟩ := Result.of_mem_mapM hl hr
        cases he.symm.trans hf
      · exact hn hc
    · intro check' hk'
      cases hk.symm.trans hk'
      rw [List.map_eq_flatMap, List.flatMap_def]
      refine congrArg List.flatten (Result.eq_map_of_mapM hl fun r hr found hf => ?_)
      obtain ⟨-, he⟩ | ⟨-, he⟩ := hcases hr
      · cases he.symm.trans hf
      · exact Except.ok.inj (hf.symm.trans he)

theorem checkRule_ends (limits : LiveLimits) (provider : Option (Provider σ)) (inv : Inventory)
    (rule : Rule) : Ends (fun f => f = .data .infiniteNumber ∧ rule.Overflows inv)
      (Judged inv rule) (checkRule limits provider inv rule) := by
  rw [checkRule]
  cases hk : rule.check? with
  | none =>
    exact .pure (.of_other (by simp [hk]) _)
  | some check =>
    cases check with
    | resource check => exact (mapM_checkResource_ends hk).bind fun lists hl => .pure hl
    | liveAccount check =>
      refine (Ends.of_lift (R := fun _ => True) fun _ => trivial).bind fun outcomes _ => .pure ?_
      exact .of_other (by simp [hk]) _
    | liveResource check =>
      refine (Ends.mapM (R := fun _ _ => True) fun r _ => ?_).bind fun lists _ => .pure ?_
      · exact (Ends.of_lift (R := fun _ => True) fun _ => trivial).bind fun _ _ => .pure trivial
      · exact .of_other (by simp [hk]) _

/-- The first pass gives the verdicts of all its rules, or a rule takes an infinite number for a
whole one. -/
theorem run_ends (limits : LiveLimits) (provider : Option (Provider σ)) (inv : Inventory)
    (rules : List Rule) :
    Ends (fun f => f = .data .infiniteNumber ∧ ∃ rule ∈ rules, rule.Overflows inv)
      (fun base => ∃ lists, base = lists.flatten ∧
        List.Forall₂ (Judged inv) (rules.filter (!·.isComposite)) lists)
      (run limits provider inv rules) := by
  rw [run]
  refine (Ends.mapM fun rule hrule => ?_).bind fun lists hl => .pure ⟨lists, rfl, hl⟩
  refine (checkRule_ends limits provider inv rule).mono (fun f hf => ?_) fun _ => id
  exact ⟨hf.1, rule, (List.mem_filter.mp hrule).1, hf.2⟩

end FirstPass

namespace Run

variable {limits : LiveLimits} {provider : Option (Provider σ)} {inv : Inventory}
  {rules : List Rule} {ruleIds : Option (List String)} {ids i : IdSupply} {state : σ}

/-- The verdicts of a rule that is checked on resources stand together, one for each resource. -/
def Listed (inv : Inventory) (rule : Rule) (found : List Verdict) : Prop :=
  ∀ check, rule.check? = some (.resource check) → ∃ before after, found = before ++
    (rule.applicable inv.resources).map (FirstPass.verdictOf check rule inv) ++ after

theorem verdicts_ends (limits : LiveLimits) (provider : Option (Provider σ)) (inv : Inventory)
    (rules : List Rule) :
    FirstPass.Ends (fun f => f = .data .infiniteNumber ∧ ∃ rule ∈ rules, rule.Overflows inv)
      (fun found => ∀ rule ∈ rules, ¬ rule.Overflows inv ∧ Listed inv rule found)
      (verdicts limits provider inv rules) := by
  refine (FirstPass.run_ends limits provider inv rules).bind ?_
  rintro _ ⟨lists, rfl, hl⟩
  refine .pure fun rule hrule => ?_
  have hj {check : ResourceCheck} (hk : rule.check? = some (.resource check)) :
      ∃ before found after, lists = before ++ found :: after ∧
        FirstPass.Judged inv rule found := by
    refine Result.of_mem_forall₂ hl (List.mem_filter.mpr ⟨hrule, ?_⟩)
    rw [Rule.isComposite_of_check? hk]
    rfl
  constructor
  · rintro ⟨check, hk, hr⟩
    obtain ⟨before, found, after, -, h⟩ := hj hk
    exact h.not_overflows ⟨check, hk, hr⟩
  · intro check hk
    obtain ⟨before, found, after, rfl, h⟩ := hj hk
    simp only [List.flatten_append, List.flatten_cons, h.verdicts check hk, List.append_assoc]
    exact ⟨before.flatten, _, rfl⟩

theorem run_eq (limits : LiveLimits) (provider : Option (Provider σ)) (inv : Inventory)
    (rules : List Rule) (ruleIds : Option (List String)) (ids : IdSupply) (state : σ) :
    (run limits provider inv rules ruleIds ids state).1 =
      ((verdicts limits provider inv (select rules ruleIds)).run ⟨state, 0⟩).1.map
        (Run.report inv (select rules ruleIds) · ids) := rfl

theorem run_eq_error_iff (limits : LiveLimits) (provider : Option (Provider σ)) (inv : Inventory)
    (rules : List Rule) (ruleIds : Option (List String)) (ids : IdSupply) (state : σ)
    (f : CheckFault) : (run limits provider inv rules ruleIds ids state).1 = .error f ↔
      f = .data .infiniteNumber ∧ ∃ rule ∈ select rules ruleIds, rule.Overflows inv := by
  obtain ⟨hfault, hfound⟩ := verdicts_ends limits provider inv (select rules ruleIds) ⟨state, 0⟩
  rw [run_eq]
  cases hv : ((verdicts limits provider inv (select rules ruleIds)).run ⟨state, 0⟩).1 with
  | error f' =>
    obtain ⟨rfl, hover⟩ := hfault f' hv
    constructor
    · rintro ⟨⟩
      exact ⟨rfl, hover⟩
    · rintro ⟨rfl, -⟩
      rfl
  | ok found =>
    refine ⟨nofun, ?_⟩
    rintro ⟨-, rule, hrule, ho⟩
    exact absurd ho (hfound found hv rule hrule).1

end Run

end CloudAudit
