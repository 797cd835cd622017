import CloudAudit.Proofs.Check.Live
import CloudAudit.Proofs.Run.Completion
import CloudAudit.Proofs.Run.Locality

namespace CloudAudit

variable {σ : Type}

/-- A place of the first pass: a rule, and the resource that it is checked on or the account. -/
structure Slot where
  rule : Rule
  target : Option Resource

namespace Rule

/-- The rule is checked on the account as a whole. -/
def isAccountWide (r : Rule) : Bool :=
  match r.check? with
  | some (.liveAccount _) => true
  | _ => false

def isLive (r : Rule) : Bool :=
  match r.check? with
  | some (.liveAccount _) | some (.liveResource _) => true
  | _ => false

/-- The slots of a rule: one for the account, or one for each resource that it applies to. -/
def slots (inv : Inventory) (r : Rule) : List Slot :=
  if r.isAccountWide then [⟨r, none⟩] else (r.applicable inv.resources).map fun x => ⟨r, some x⟩

variable {r : Rule} {inv : Inventory} {slot : Slot}

theorem slots_of_accountWide (h : r.isAccountWide = true) : r.slots inv = [⟨r, none⟩] := if_pos h

theorem slots_of_not_accountWide (h : r.isAccountWide = false) :
    r.slots inv = (r.applicable inv.resources).map fun x => ⟨r, some x⟩ := by
  rw [slots, h]
  rfl

theorem rule_of_mem_slots (h : slot ∈ r.slots inv) : slot.rule = r := by
  cases ha : r.isAccountWide with
  | true =>
    rw [slots_of_accountWide ha, List.mem_singleton] at h
    rw [h]
  | false =>
    rw [slots_of_not_accountWide ha] at h
    obtain ⟨x, -, rfl⟩ := List.mem_map.mp h
    rfl

end Rule

namespace FirstPass

/-- What became of a slot: the reply of the provider, where the provider was asked, and the
verdicts. -/
structure Entry where
  slot : Slot
  reply : Option Reply
  found : List Verdict

/-- The slots of the rules that are no composites. -/
def slots (inv : Inventory) (rules : List Rule) : List Slot :=
  (rules.filter (!·.isComposite)).flatMap (Rule.slots inv)

/-- The reply to a live check, if it gets to ask the provider. -/
def replyTo (limits : LiveLimits) (provider : Option (Provider σ)) (check : LiveCheck)
    (slot : Slot) (pool : LivePool σ) : Option Reply :=
  match provider with
  | none => none
  | some provider =>
    if limits.workers ≤ pool.stuck then none
    else
      match check.question slot.rule slot.target with
      | .error _ => none
      | .ok call => some (provider.call call pool.state).1

def fill (limits : LiveLimits) (provider : Option (Provider σ)) (inv : Inventory) (slot : Slot) :
    ExceptT CheckFault (StateM (LivePool σ)) Entry :=
  match slot.rule.check? with
  | none => pure ⟨slot, none, verdicts slot.rule slot.target
      [.notApplicable "Rule condition not recognized."]⟩
  | some (.resource check) => do
    let found ← ExceptT.mk (pure (slot.target.elim (.ok []) (checkResource check slot.rule inv)))
    return ⟨slot, none, found⟩
  | some (.liveAccount check) | some (.liveResource check) => do
    let pool ← get
    return ⟨slot, replyTo limits provider check slot pool,
      verdicts slot.rule slot.target (← runLive limits provider check slot.rule slot.target)⟩

def transcript (limits : LiveLimits) (provider : Option (Provider σ)) (inv : Inventory)
    (rules : List Rule) : ExceptT CheckFault (StateM (LivePool σ)) (List Entry) :=
  (slots inv rules).mapM (fill limits provider inv)

section Loop

variable {m : Type → Type} [Monad m] [LawfulMonad m] {α β γ δ : Type}

theorem mapM_flatMap (f : α → List β) (g : β → m γ) (as : List α) :
    (as.flatMap f).mapM g = List.flatten <$> as.mapM fun a => (f a).mapM g := by
  induction as with
  | nil => simp
  | cons a as ih =>
    rw [List.flatMap_cons, List.mapM_append, ih]
    simp

theorem map_mapM (f : α → m β) (g : β → γ) (as : List α) :
    (as.mapM fun a => g <$> f a) = List.map g <$> as.mapM f := by
  induction as with
  | nil => simp
  | cons a as ih => simp [ih]

end Loop

theorem mapM_mk (f : α → Except CheckFault β) (as : List α) :
    ExceptT.mk (pure (as.mapM f)) = as.mapM fun a =>
      (ExceptT.mk (pure (f a)) : ExceptT CheckFault (StateM (LivePool σ)) β) := by
  induction as with
  | nil => rfl
  | cons a as ih =>
    rw [List.mapM_cons, List.mapM_cons, ← ih]
    cases f a with
    | error e => rfl
    | ok b =>
      cases as.mapM f <;> rfl

variable {limits : LiveLimits} {provider : Option (Provider σ)} {inv : Inventory} {rule : Rule}
  {slot : Slot} {entry : Entry} {entries : List Entry}

theorem found_fill_of_none (hk : rule.check? = none) (target : Option Resource) :
    Entry.found <$> fill limits provider inv ⟨rule, target⟩ =
      pure (verdicts rule target [.notApplicable "Rule condition not recognized."]) := by
  simp only [fill, hk, map_pure]

theorem found_fill_of_resource {check : ResourceCheck}
    (hk : rule.check? = some (.resource check)) (r : Resource) :
    Entry.found <$> fill limits provider inv ⟨rule, some r⟩ =
      ExceptT.mk (pure (checkResource check rule inv r)) := by
  simp only [fill, hk, bind_pure_comp, Functor.map_map, Option.elim_some, id_map']

theorem found_fill_of_live {check : LiveCheck} (hk : rule.check? = some (.liveAccount check) ∨
    rule.check? = some (.liveResource check)) (target : Option Resource) :
    Entry.found <$> fill limits provider inv ⟨rule, target⟩ =
      verdicts rule target <$> ExceptT.lift (runLive limits provider check rule target) := by
  obtain hk | hk := hk
  · simp only [fill, hk]
    rfl
  · simp only [fill, hk]
    rfl

theorem checkRule_eq (limits : LiveLimits) (provider : Option (Provider σ)) (inv : Inventory)
    (rule : Rule) : checkRule limits provider inv rule =
      (List.flatMap Entry.found ·) <$> (rule.slots inv).mapM (fill limits provider inv) := by
  have hm : (List.flatMap Entry.found ·) <$> (rule.slots inv).mapM (fill limits provider inv) =
      List.flatten <$> (rule.slots inv).mapM fun slot =>
        Entry.found <$> fill limits provider inv slot := by
    simp only [map_mapM, Functor.map_map, List.flatMap_def]
  rw [hm, checkRule, Rule.slots, Rule.isAccountWide]
  cases hk : rule.check? with
  | none => simp [Function.comp_def, found_fill_of_none hk, List.flatMap_def]
  | some check =>
    cases check with
    | resource check => simp [Function.comp_def, found_fill_of_resource hk, mapM_mk]
    | liveAccount check =>
      simp [found_fill_of_live (.inl hk)]
      rfl
    | liveResource check =>
      simp [Function.comp_def, found_fill_of_live (.inr hk)]
      rfl

theorem run_eq_transcript (limits : LiveLimits) (provider : Option (Provider σ)) (inv : Inventory)
    (rules : List Rule) : run limits provider inv rules =
      (List.flatMap Entry.found ·) <$> transcript limits provider inv rules := by
  have hrule : checkRule limits provider inv = fun rule =>
      (List.flatMap Entry.found ·) <$> (rule.slots inv).mapM (fill limits provider inv) :=
    funext (checkRule_eq limits provider inv)
  rw [run, transcript, slots, mapM_flatMap, hrule, map_mapM]
  simp [Functor.map_map, List.flatMap_def, Function.comp_def, List.flatten_flatten]

section Live

variable {check : LiveCheck} (limits : LiveLimits) (provider : Option (Provider σ)) (rule : Rule)
  (target : Option Resource) (pool : LivePool σ)

theorem runLive_cases (h : check.Speaks) :
    Outcome.IsOpen (runLive limits provider check rule target pool).1 ∨
      ∃ v, replyTo limits provider check ⟨rule, target⟩ pool = some (.answer v) ∧
        (runLive limits provider check rule target pool).1 =
          containLive (check.judge rule (.ok v)) := by
  cases provider with
  | none => exact .inl ⟨_, rfl⟩
  | some p =>
    rw [runLive, replyTo]
    dsimp only
    split
    · exact .inl ⟨_, rfl⟩
    · cases check.question rule target with
      | error f => exact .inl (containLive_error f)
      | ok call =>
        dsimp only
        cases p.call call pool.state with
        | mk reply state =>
          cases reply with
          | answer v => exact .inr ⟨v, rfl, rfl⟩
          | fault f => exact .inl (h.unanswered rule f)
          | pending => exact .inl ⟨_, rfl⟩

theorem runLive_ne_nil (h : check.Speaks) :
    (runLive limits provider check rule target pool).1 ≠ [] := by
  obtain ⟨detail, he⟩ | ⟨v, -, he⟩ := runLive_cases limits provider rule target pool h
  · rw [he]
    exact List.cons_ne_nil _ _
  · rw [he]
    cases hj : check.judge rule (.ok v) with
    | error f =>
      obtain ⟨detail, he⟩ := containLive_error f
      rw [he]
      exact List.cons_ne_nil _ _
    | ok outcomes => exact h.answered rule v outcomes hj

theorem runLive_controlPlaneAcl : ∃ o,
    (runLive limits provider Check.controlPlaneAcl rule target pool).1 = [o] := by
  obtain ⟨detail, he⟩ | ⟨v, -, he⟩ := runLive_cases limits provider rule target pool
    Check.controlPlaneAcl_speaks
  · exact ⟨_, he⟩
  · rw [he]
    cases hj : Check.controlPlaneAcl.judge rule (.ok v) with
    | error f =>
      obtain ⟨detail, he⟩ := containLive_error f
      exact ⟨_, he⟩
    | ok outcomes => exact Check.controlPlaneAcl_judge hj

end Live

/-- What a slot gives when the provider has no part in it. -/
def plainVerdicts (inv : Inventory) (slot : Slot) : List Verdict :=
  match slot.rule.check?, slot.target with
  | some (.resource check), some r => [verdictOf check slot.rule inv r]
  | _, _ => verdicts slot.rule slot.target [.notApplicable "Rule condition not recognized."]

/-- An entry says what its slot asks for: at least one thing, and just one unless it is on the whole
account. Only live checks go by the provider, and they are left open without an answer. -/
structure Entry.Sound (provider : Option (Provider σ)) (inv : Inventory) (e : Entry) : Prop where
  own : ∀ v ∈ e.found,
    v.ruleId = e.slot.rule.id ∧ v.resourceId = e.slot.target.map Resource.id
  nonempty : e.found ≠ []
  single : e.slot.rule.isAccountWide = false → ∃ v, e.found = [v]
  plain : e.slot.rule.isLive = false → e.found = plainVerdicts inv e.slot
  unanswered : e.slot.rule.isLive = true → (provider = none ∨ ∀ v, e.reply ≠ some (.answer v)) →
    ∃ detail, e.found =
      [⟨e.slot.rule.id, e.slot.target.map Resource.id, .notApplicable, detail⟩]

theorem Entry.Sound.of_live {check : LiveCheck} {pool : LivePool σ} (h : check.Speaks)
    (hk : slot.rule.check? = some (.liveAccount check) ∨
      slot.rule.check? = some (.liveResource check) ∧ check = Check.controlPlaneAcl) :
    Entry.Sound provider inv ⟨slot, replyTo limits provider check slot pool,
      verdicts slot.rule slot.target (runLive limits provider check slot.rule slot.target pool).1⟩
    where
  own := by
    intro v hv
    obtain ⟨o, -, rfl⟩ := List.mem_map.mp hv
    exact ⟨rfl, rfl⟩
  nonempty := by
    have hne := runLive_ne_nil limits provider slot.rule slot.target pool h
    exact fun he => hne (List.map_eq_nil_iff.mp he)
  single := by
    intro ha
    obtain hk | ⟨hk, rfl⟩ := hk
    · simp [Rule.isAccountWide, hk] at ha
    · obtain ⟨o, ho⟩ := runLive_controlPlaneAcl limits provider slot.rule slot.target pool
      exact ⟨_, congrArg (verdicts slot.rule slot.target) ho⟩
  plain := by
    intro hl
    obtain hk | ⟨hk, -⟩ := hk <;> simp [Rule.isLive, hk] at hl
  unanswered := by
    intro _ hr
    obtain ⟨detail, ho⟩ | ⟨v, hv, -⟩ := runLive_cases limits provider slot.rule slot.target pool h
    · exact ⟨detail, congrArg (verdicts slot.rule slot.target) ho⟩
    · obtain rfl | hr := hr
      · cases hv
      · exact absurd hv (hr v)

theorem Entry.Sound.of_plain (hl : slot.rule.isLive = false) :
    Entry.Sound provider inv ⟨slot, none, plainVerdicts inv slot⟩ := by
  have hv : ∃ s detail, plainVerdicts inv slot =
      [⟨slot.rule.id, slot.target.map Resource.id, s, detail⟩] := by
    rw [plainVerdicts]
    split
    case h_1 check r hk hr =>
      rw [hr, verdictOf]
      cases check slot.rule r inv with
      | ok o => exact ⟨_, _, rfl⟩
      | error f => exact ⟨_, _, rfl⟩
    case h_2 => exact ⟨_, _, rfl⟩
  obtain ⟨s, detail, hv⟩ := hv
  constructor
  · intro v hm
    rw [hv, List.mem_singleton] at hm
    subst hm
    exact ⟨rfl, rfl⟩
  · rw [hv]
    exact List.cons_ne_nil _ _
  · exact fun _ => ⟨_, hv⟩
  · exact fun _ => rfl
  · intro h
    cases hl.symm.trans h

theorem mem_slots {rules : List Rule} : slot ∈ slots inv rules ↔
    ∃ r ∈ rules, r.isComposite = false ∧ slot ∈ r.slots inv := by
  simp only [slots, List.mem_flatMap, List.mem_filter, Bool.not_eq_true', and_assoc]

theorem fill_live {check : LiveCheck} (hk : slot.rule.check? = some (.liveAccount check) ∨
    slot.rule.check? = some (.liveResource check)) (pool : LivePool σ) :
    ((fill limits provider inv slot).run pool).1 = .ok ⟨slot, replyTo limits provider check slot pool,
      verdicts slot.rule slot.target
        (runLive limits provider check slot.rule slot.target pool).1⟩ := by
  obtain hk | hk := hk
  · simp only [fill, hk]
    rfl
  · simp only [fill, hk]
    rfl

theorem fill_ends (h : slot ∈ rule.slots inv) :
    Ends (fun _ => True) (fun e => e.slot = slot ∧ e.Sound provider inv)
      (fill limits provider inv slot) := by
  obtain ⟨rule, target⟩ := slot
  obtain rfl := Rule.rule_of_mem_slots h
  cases hk : rule.check? with
  | none =>
    have hv : plainVerdicts inv ⟨rule, target⟩ =
        verdicts rule target [.notApplicable "Rule condition not recognized."] := by
      simp only [plainVerdicts, hk]
    simp only [fill, hk]
    rw [← hv]
    exact .pure ⟨rfl, .of_plain (by simp [Rule.isLive, hk])⟩
  | some check =>
    obtain ⟨kind, -, hkind⟩ := Option.bind_eq_some_iff.mp hk
    cases check with
    | resource check =>
      rw [Rule.slots_of_not_accountWide (by simp [Rule.isAccountWide, hk])] at h
      obtain ⟨r, hr, he⟩ := List.mem_map.mp h
      cases he
      have hv : plainVerdicts inv ⟨rule, some r⟩ = [verdictOf check rule inv r] := by
        simp only [plainVerdicts, hk]
      -- A fault that is not contained ends the run and leaves no entry.
      have hc : ∀ found, checkResource check rule inv r = .ok found →
          found = plainVerdicts inv ⟨rule, some r⟩ := by
        intro found hf
        obtain ⟨-, he⟩ | ⟨-, he⟩ := checkResource_cases hk (List.mem_filter.mp hr).1
        · cases he.symm.trans hf
        · exact (Except.ok.inj (he.symm.trans hf)).symm.trans hv.symm
      simp only [fill, hk]
      refine (Ends.of_except (fun _ _ => trivial) hc).bind fun found hf => .pure ?_
      rw [hf]
      exact ⟨rfl, .of_plain (by simp [Rule.isLive, hk])⟩
    -- A live check has an entry in every state of the pool, stuck workers or not.
    | liveAccount check =>
      intro pool
      rw [fill_live (.inl hk)]
      refine ⟨nofun, ?_⟩
      rintro _ ⟨⟩
      exact ⟨rfl, .of_live (Check.liveAccount_speaks hkind) (.inl hk)⟩
    | liveResource check =>
      have hc := Check.liveResource_eq hkind
      intro pool
      rw [fill_live (.inr hk)]
      refine ⟨nofun, ?_⟩
      rintro _ ⟨⟩
      exact ⟨rfl, .of_live (hc ▸ Check.controlPlaneAcl_speaks) (.inr ⟨hk, hc⟩)⟩

/-- The first pass has one sound entry for each of its slots, in order. -/
theorem transcript_ends (limits : LiveLimits) (provider : Option (Provider σ)) (inv : Inventory)
    (rules : List Rule) : Ends (fun _ => True)
      (fun entries => entries.map Entry.slot = slots inv rules ∧
        ∀ e ∈ entries, e.Sound provider inv)
      (transcript limits provider inv rules) := by
  have hfill : ∀ slot ∈ slots inv rules, Ends (fun _ => True)
      (fun e => e.slot = slot ∧ e.Sound provider inv) (fill limits provider inv slot) := by
    intro slot hslot
    obtain ⟨rule, -, -, hm⟩ := mem_slots.mp hslot
    exact fill_ends hm
  have hall {slots : List Slot} {entries : List Entry}
      (h : List.Forall₂ (fun slot e => e.slot = slot ∧ e.Sound provider inv) slots entries) :
      entries.map Entry.slot = slots ∧ ∀ e ∈ entries, e.Sound provider inv := by
    induction h with
    | nil => exact ⟨rfl, List.forall_mem_nil _⟩
    | cons h _ ih =>
      obtain ⟨hs, hsound⟩ := ih
      rw [List.map_cons, h.1, hs]
      exact ⟨rfl, List.forall_mem_cons.mpr ⟨h.2, hsound⟩⟩
  exact (Ends.mapM hfill).mono (fun _ => id) fun _ => hall

theorem run_ok {rules : List Rule} {base : List Verdict} {pool pool' : LivePool σ}
    (h : (run limits provider inv rules).run pool = (.ok base, pool')) :
    ∃ entries, (transcript limits provider inv rules).run pool = (.ok entries, pool') ∧
      base = entries.flatMap Entry.found ∧ entries.map Entry.slot = slots inv rules ∧
      ∀ e ∈ entries, e.Sound provider inv := by
  have hends := (transcript_ends limits provider inv rules pool).2
  rw [run_eq_transcript, ← bind_pure_comp, Result.run_bind] at h
  cases ht : (transcript limits provider inv rules).run pool with
  | mk result pool'' =>
    rw [ht] at h hends
    cases result with
    | error f => cases h
    | ok entries =>
      change (Except.ok (entries.flatMap Entry.found), pool'') = (.ok base, pool') at h
      obtain ⟨hb, rfl⟩ := Prod.mk.inj h
      have hs := hends entries rfl
      exact ⟨entries, rfl, (Except.ok.inj hb).symm, hs⟩

end FirstPass

end CloudAudit
