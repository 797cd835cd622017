import CloudAudit.Proofs.Run.Transcript
import CloudAudit.Proofs.Service.Action
import CloudAudit.Proofs.Store.Activation

namespace CloudAudit

open Time (Moment)

variable {σ : Type}

namespace Store

variable {s s' : Store} {a id : String}

/-- Two stores have the same rules and overrides. -/
structure SameActivation (s s' : Store) : Prop where
  rules : s'.rules = s.rules
  overrides : s'.overrides = s.overrides

theorem SameActivation.keyed (h : SameActivation s s') (hs : s.Keyed) : s'.Keyed := by
  constructor
  · rw [h.rules]
    exact hs.rules
  · rw [h.overrides]
    exact hs.overrides
  · rw [h.rules, h.overrides]
    exact hs.known

theorem SameActivation.override? (h : SameActivation s s') :
    s'.override? a id = s.override? a id :=
  override?_congr (by rw [overridesOf, overridesOf, h.overrides])

theorem registerRules_overrides (s : Store) (a : String) (rules : List Rule) :
    (s.registerRules a rules).2.overrides = s.overrides := by
  rw [registerRules_store]

theorem updateFinding_activation {f : Finding} (h : s.updateFinding f = .ok s') :
    SameActivation s s' := by
  rw [updateFinding_ok h]
  exact ⟨rfl, rfl⟩

theorem addNote_activation {text noteId : String} {author : Option String} {now : Moment}
    {r : Note × Store} (h : s.addNote id text author noteId now = .ok r) :
    SameActivation s r.2 := by
  obtain ⟨f, n, -, -, rfl⟩ := addNote_ok h
  exact ⟨rfl, rfl⟩

theorem deleteNote_activation (h : s.deleteNote id = .ok s') : SameActivation s s' := by
  rw [deleteNote_ok h]
  exact ⟨rfl, rfl⟩

/-- All rules under an identifier are rules that the account sees. -/
def Sees (s : Store) (a id : String) : Prop := ∀ r ∈ s.rules, r.id = id → r.visibleTo a = true

end Store

namespace Service

/-- The setting that an action makes for a rule of an account, if it makes one: a switch that is not
refused, or a profile for a rule that is in the store. -/
def setting? (a id : String) (s : Service σ) : Action σ → Option Bool
  | .toggleRule b ruleId isActive now =>
    if b = a ∧ ruleId = id ∧ (s.store.toggleRule b ruleId isActive now).isOk then some isActive
    else none
  | .applyProfile b profileId _ =>
    if b = a then
      (Table.find? Profile.id s.store.profiles profileId).bind fun p =>
        (Table.find? Rule.id s.store.rules id).map fun r => p.conditionTypes.contains r.conditionType
    else none
  | _ => none

/-- The settings that some actions make for a rule of an account, the first one first. -/
def settings (a id : String) : Service σ → List (Action σ) → List Bool
  | _, [] => []
  | s, act :: acts => (setting? a id s act).toList ++ settings a id (s.perform act) acts

/-- What an action does to activation: rules are registered, or a rule is switched, or a profile is
applied. -/
inductive ActivationChange (s : Service σ) (act : Action σ) : Prop
  | registration (b : String) (rules : List Rule) : (∀ a id, setting? a id s act = none) →
    Store.SameActivation (s.store.registerRules b rules).2 (s.perform act).store →
    ActivationChange s act
  | switch (b : String) (r : Rule) (isActive : Bool) (now : Moment) : r ∈ s.store.rules →
    (∀ a id, setting? a id s act = if b = a ∧ r.id = id then some isActive else none) →
    (s.perform act).store = s.store.putOverride ⟨b, r.id, isActive, none, now⟩ →
    ActivationChange s act
  | profile (b : String) (p : Profile) (now : Moment) :
    (∀ a id, setting? a id s act = if b = a then
      (Table.find? Rule.id s.store.rules id).map fun r => p.conditionTypes.contains r.conditionType
      else none) →
    (s.perform act).store =
      s.store.replaceOverrides b (p.apply s.store.rules b now).overrides → ActivationChange s act

variable {s : Service σ} {a id : String} {act : Action σ} {acts : List (Action σ)}

theorem adopt_activation {α : Type} {result : Except StoreFault (α × Store)}
    (h : ∀ {r}, result = .ok r → Store.SameActivation s.store r.2) :
    Store.SameActivation s.store (s.adopt result).store := by
  exact adopt_cases (P := Store.SameActivation s.store) ⟨rfl, rfl⟩ h

theorem revision_activation (ack : Finding → Option Acknowledgement) (id : String) :
    Store.SameActivation s.store (s.adopt (do
      let f ← s.store.finding id
      let f := f.withAcknowledgement (ack f)
      return (f, ← s.store.updateFinding f))).store := by
  refine adopt_activation fun h => ?_
  obtain ⟨f, -, h⟩ := Result.bind_eq_ok.mp h
  obtain ⟨store, hu, h⟩ := Result.bind_eq_ok.mp h
  cases h
  exact Store.updateFinding_activation hu

theorem evaluate_activation (p : Pipeline σ) (a : String) (now : Moment) (s : Service σ) :
    ∃ rules, Store.SameActivation (s.store.registerRules a rules).2
      (s.evaluate p a now).2.store := by
  cases hs : s.isHeld a with
  | true =>
    rw [evaluate_of_held p now hs]
    exact ⟨[], rfl, rfl⟩
  | false =>
    obtain ⟨rules, hg⟩ := gather_store p a s
    rw [evaluate_of_not_held p now hs]
    refine ⟨rules, by rw [evaluateHeld_rules, hg], ?_⟩
    rw [Store.registerRules_overrides]
    obtain ⟨-, -, -, -, hu⟩ | ⟨report, s₁, -, hu, hstore, -⟩ := evaluateHeld_cases p a now s
    · rw [hu.store]
    · rw [hstore]
      change s₁.store.overrides = s.store.overrides
      rw [hu.store]

theorem toggleRule_activation (b ruleId : String) (isActive : Bool) (now : Moment) :
    ActivationChange s (.toggleRule b ruleId isActive now) := by
  cases h : s.store.toggleRule b ruleId isActive now with
  | error f =>
    refine .registration b [] (fun a id => ?_) ?_
    · rw [setting?, h]
      exact if_neg fun hc => Bool.false_ne_true hc.2.2
    · rw [perform, h]
      exact ⟨rfl, rfl⟩
  | ok r =>
    obtain ⟨view, store⟩ := r
    obtain ⟨r, hr, rfl, -, -, rfl⟩ := Store.toggleRule_ok h
    refine .switch b r isActive now hr (fun a id => ?_) ?_
    · rw [setting?, h]
      simp only [Except.isOk, Except.toBool, and_true]
    · rw [perform, h]
      rfl

theorem applyProfile_activation (b profileId : String) (now : Moment) :
    ActivationChange s (.applyProfile b profileId now) := by
  cases h : Table.find? Profile.id s.store.profiles profileId with
  | none =>
    refine .registration b [] (fun a id => ?_) ?_
    · rw [setting?, h]
      exact ite_self _
    · rw [perform, Store.applyProfile, Store.profile, h]
      exact ⟨rfl, rfl⟩
  | some p =>
    refine .profile b p now (fun a id => ?_) ?_
    · rw [setting?, h]
      rfl
    · rw [perform, Store.applyProfile, Store.profile, h]
      rfl

theorem perform_activation (s : Service σ) (act : Action σ) : ActivationChange s act := by
  cases act with
  | evaluate p b now =>
    obtain ⟨rules, h⟩ := evaluate_activation p b now s
    exact .registration b rules (fun _ _ => rfl) h
  | acknowledge id note author now =>
    exact .registration "" [] (fun _ _ => rfl) (revision_activation _ id)
  | unacknowledge id =>
    exact .registration "" [] (fun _ _ => rfl) (revision_activation (fun _ => none) id)
  | addNote id text author now =>
    exact .registration "" [] (fun _ _ => rfl)
      (adopt_activation (s := { s with ids := s.ids.advance }) Store.addNote_activation)
  | deleteNote id =>
    refine .registration "" [] (fun _ _ => rfl) (adopt_activation fun h => ?_)
    obtain ⟨store, hs, rfl⟩ := Result.map_eq_ok.mp h
    exact Store.deleteNote_activation hs
  | toggleRule b ruleId isActive now => exact toggleRule_activation b ruleId isActive now
  | applyProfile b profileId now => exact applyProfile_activation b profileId now
  | registerRules b rules => exact .registration b rules (fun _ _ => rfl) ⟨rfl, rfl⟩

theorem perform_keyed (h : s.store.Keyed) (act : Action σ) : (s.perform act).store.Keyed := by
  cases perform_activation s act with
  | registration b rules _ he => exact he.keyed (Store.registerRules_keyed h b rules)
  | switch b r isActive now hr _ he =>
    rw [he]
    exact Store.putOverride_keyed h ⟨r, hr, rfl⟩
  | profile b p now _ he =>
    rw [he]
    exact Store.applied_keyed h p b now

theorem performAll_keyed (h : s.store.Keyed) (acts : List (Action σ)) :
    (s.performAll acts).store.Keyed := by
  induction acts generalizing s with
  | nil => exact h
  | cons act acts ih => exact ih (perform_keyed h act)

theorem perform_keeps {x : Rule} (hx : x ∈ s.store.rules) (act : Action σ) :
    ∃ y ∈ (s.perform act).store.rules, y.id = x.id ∧ y.accountId = x.accountId := by
  cases perform_activation s act with
  | registration b rules _ he =>
    rw [he.rules]
    exact Store.registerRules_keeps b rules hx
  | switch b r isActive now _ _ he =>
    rw [he]
    exact ⟨x, hx, rfl, rfl⟩
  | profile b p now _ he =>
    rw [he]
    exact ⟨x, hx, rfl, rfl⟩

theorem sees_of_performAll (h : (s.performAll acts).store.Sees a id) : s.store.Sees a id := by
  induction acts generalizing s with
  | nil => exact h
  | cons act acts ih =>
    intro x hx hid
    obtain ⟨y, hy, hid', hown⟩ := perform_keeps hx act
    have hv := ih h y hy (hid'.trans hid)
    rwa [Rule.visibleTo, hown] at hv

theorem perform_override? (h : s.store.Keyed) (hv : s.store.Sees a id) (act : Action σ) :
    ((s.perform act).store.override? a id).map Override.isActive =
      (setting? a id s act).or ((s.store.override? a id).map Override.isActive) := by
  cases perform_activation s act with
  | registration b rules hset he =>
    have ho : (s.store.registerRules b rules).2.override? a id = s.store.override? a id :=
      Store.override?_congr (by
        rw [Store.overridesOf, Store.overridesOf, Store.registerRules_overrides])
    rw [he.override?, ho, hset]
    rfl
  | switch b r isActive now hr hset he =>
    rw [he, Store.override?_putOverride h ⟨r, hr, rfl⟩, hset]
    by_cases hk : b = a ∧ r.id = id
    · obtain ⟨rfl, rfl⟩ := hk
      have hkey : (b, r.id) = Override.key ⟨b, r.id, isActive, none, now⟩ := rfl
      rw [if_pos hkey, if_pos ⟨rfl, rfl⟩]
      rfl
    · have hkey : (a, id) ≠ Override.key ⟨b, r.id, isActive, none, now⟩ := by
        intro he
        obtain ⟨rfl, rfl⟩ := Prod.mk.inj he
        exact hk ⟨rfl, rfl⟩
      rw [if_neg hkey, if_neg hk]
      rfl
  | profile b p now hset he =>
    rw [he, hset]
    by_cases hb : b = a
    · subst hb
      rw [if_pos rfl, Store.override?_applied h hv]
      cases hf : Table.find? Rule.id s.store.rules id with
      | some r => rfl
      | none =>
        -- A rule that is not in the store has no override to keep.
        rw [Table.find?_eq_none] at hf
        rw [Store.override?_eq_none h hf]
        rfl
    · have hsame := (Store.replaceOverrides_sameBut s.store b
        (p.apply s.store.rules b now).overrides).overridesOf (Ne.symm hb)
      rw [if_neg hb, Store.override?_congr hsame]
      rfl

theorem performAll_override? (h : s.store.Keyed) (hv : (s.performAll acts).store.Sees a id) :
    ((s.performAll acts).store.override? a id).map Override.isActive =
      (settings a id s acts).getLast?.or ((s.store.override? a id).map Override.isActive) := by
  induction acts generalizing s with
  | nil => rfl
  | cons act acts ih =>
    have hs : s.store.Sees a id := sees_of_performAll hv
    have hstep := perform_override? h hs act
    have hrest := ih (perform_keyed h act) hv
    change ((s.performAll (act :: acts)).store.override? a id).map Override.isActive = _ at hrest
    rw [hrest, hstep, settings, List.getLast?_append, ← Option.or_assoc]
    cases setting? a id s act <;> rfl

theorem gather_rules {p : Pipeline σ} {inputs : Inputs} {ids : IdSupply} {run : RunInputs σ}
    {s₁ : Service σ} (hi : (p.inventory a).run s.ids = (.ok inputs, ids))
    (he : inputs.extraRules = []) (h : gather p a s = (.ok run, s₁)) :
    run.rules = ((s.store.accountRules a).filter (·.isActive)).map AccountRule.rule := by
  obtain ⟨inputs', ids', hi', hreg, -, hrules⟩ := gather_ok h
  cases hi.symm.trans hi'
  rw [he] at hreg
  rw [hrules, ← (Prod.mk.inj hreg).2, Store.effectiveRules_eq]

/-- A call that succeeds has run the rules that are listed as active, and stored what they say. -/
theorem evaluate_active {p : Pipeline σ} {now : Moment} {inputs : Inputs} {ids : IdSupply}
    {summary : Summary} (hi : (p.inventory a).run s.ids = (.ok inputs, ids))
    (he : inputs.extraRules = []) (h : (s.evaluate p a now).1 = .ok summary) :
    let active := ((s.store.accountRules a).filter (·.isActive)).map AccountRule.rule
    ∃ run s₁ report ids' outside, gather p a s = (.ok run, s₁) ∧
      Run.run p.limits run.provider ⟨a, inputs.resources, now⟩ active none s₁.ids s₁.outside =
        (.ok (report, ids'), outside) ∧
      ((s.evaluate p a now).2.store.findingsOf a).map Finding.verdict =
        report.findings.map Finding.verdict ∧
      report.rules = active ∧ summary.rulesEvaluated = active.length := by
  intro active
  obtain ⟨run, s₁, report, ids', outside, hg, hrun, hstore, rfl⟩ := evaluate_ok h
  obtain ⟨inputs', _, hi', -, hres, -⟩ := gather_ok hg
  cases hi.symm.trans hi'
  rw [gather_rules hi he hg, hres] at hrun
  obtain ⟨hof, hselected, -⟩ := Run.run_report (congrArg Prod.fst hrun)
  have hactive : report.rules = active := hselected.trans (Run.select_none active)
  refine ⟨run, s₁, report, ids', outside, hg, hrun, ?_, hactive, ?_⟩
  · rw [hstore, ← record_verdicts report, ← record_findingsOf, hof.account]
  · rw [← hactive]
    rfl

theorem accountRules_settings (h : s.store.Keyed) (hno : s.store.overrides = [])
    (acts : List (Action σ)) (a : String) :
    (((s.performAll acts).store.accountRules a).map fun v => (v.rule, v.isActive)) =
      (Rule.visible (s.performAll acts).store.rules a).map fun r =>
        (r, (settings a r.id s acts).getLast?.getD r.isActive) := by
  rw [Store.accountRules_eq, List.map_map]
  refine List.map_congr_left fun r hr => ?_
  obtain ⟨hmem, hv⟩ := List.mem_filter.mp hr
  -- The rule is the only one with its identifier, so the account sees all that have it.
  have hsees : (s.performAll acts).store.Sees a r.id := by
    intro x hx hid
    rwa [List.inj_on_of_nodup_map (performAll_keyed h acts).rules hx hmem hid]
  have hnone : s.store.override? a r.id = none := by
    rw [Store.override?, Store.overridesOf, hno]
    rfl
  have hlast := performAll_override? h hsees
  rw [hnone, Option.map_none, Option.or_none] at hlast
  change (r, r.activeUnder ((s.performAll acts).store.override? a r.id)) = _
  rw [Rule.activeUnder, ← hlast]
  cases (s.performAll acts).store.override? a r.id <;> rfl

/-- After any actions the rules of an account are listed with the last setting that was made for
each, or as the rule itself says where none was. A switch shows what is then listed, a profile
decides on all the rules that the account sees, and a run works with the rules listed as active. -/
theorem performAll_activation {rules : List Rule} {profiles : List Profile}
    (hs : s.store = .ofCatalogue rules profiles) (acts : List (Action σ)) (a : String) :
    let s' := s.performAll acts
    let active := ((s'.store.accountRules a).filter (·.isActive)).map AccountRule.rule
    ((s'.store.accountRules a).map fun v => (v.rule, v.isActive)) =
      (Rule.visible s'.store.rules a).map (fun r =>
        (r, (settings a r.id s acts).getLast?.getD r.isActive)) ∧
    (∀ id isActive now view store, s'.store.toggleRule a id isActive now = .ok (view, store) →
      (store.accountRules a).filter (·.rule.id == id) = [view]) ∧
    (∀ profileId now done, s'.store.applyProfile a profileId now = .ok done →
      done.1.enabled + done.1.disabled = (Rule.visible s'.store.rules a).length) ∧
    ∀ p now inputs ids, (p.inventory a).run s'.ids = (.ok inputs, ids) → inputs.extraRules = [] →
      (∀ run s₁, gather p a s' = (.ok run, s₁) → run.rules = active) ∧
      ∀ summary, (s'.evaluate p a now).1 = .ok summary → ∃ run s₁ report ids' outside,
        gather p a s' = (.ok run, s₁) ∧
        Run.run p.limits run.provider ⟨a, inputs.resources, now⟩ active none s₁.ids s₁.outside =
          (.ok (report, ids'), outside) ∧
        ((s'.evaluate p a now).2.store.findingsOf a).map Finding.verdict =
          report.findings.map Finding.verdict ∧
        report.rules = active ∧ summary.rulesEvaluated = active.length := by
  intro s' active
  have hkeyed : s.store.Keyed := hs ▸ Store.ofCatalogue_keyed rules profiles
  have hno : s.store.overrides = [] := hs ▸ rfl
  refine ⟨accountRules_settings hkeyed hno acts a, ?_, ?_, ?_⟩
  · intro id isActive now view store h
    exact Store.toggleRule_listed (performAll_keyed hkeyed acts) h
  · intro profileId now done h
    obtain ⟨p, -, hdone, -⟩ := Store.applyProfile_ok h
    rw [hdone]
    exact Store.enabled_add_disabled p s'.store a now
  · intro p now inputs ids hi he
    exact ⟨fun run s₁ => gather_rules hi he, fun summary => evaluate_active hi he⟩

/-- One account switches a rule off, applies a profile and switches the other rule on; a run then
registers a rule of its own. Another account switches a rule in between. -/
theorem performAll_activation_interleaved :
    let rule (id kind : String) (isActive : Bool) (owner : Option String) : Rule :=
      ⟨id, id, "", ["linode"], kind, [], .warning, isActive, owner, false⟩
    let now : Moment := ⟨2026, 3, 1, 9, 0, 0, 0, some 0⟩
    let source (extra : List Rule) : InventorySource :=
      InventoryTable.source ⟨[("a", [{ id := "i", type := "linode" }])], [], [("a", extra)]⟩
    let pipeline (extra : List Rule) : Pipeline Unit := {
      inventory := source extra
      factory := fun _ outside => (.ok none, outside) }
    let s : Service Unit := {
      store := .ofCatalogue [rule "g" "has_tags" true none, rule "h" "linode_not_offline" true none]
        [⟨"p", "P", "", "", "", ["has_tags"], false⟩]
      outside := () }
    let acts : List (Action Unit) := [.toggleRule "a" "g" false now, .toggleRule "a" "z" false now,
      .applyProfile "a" "p" now, .toggleRule "b" "g" false now, .toggleRule "a" "h" true now,
      .evaluate (pipeline [rule "z" "has_tags" true (some "a")]) "a" now]
    (["g", "h", "z"].map fun id => settings "a" id s acts) = [[false, true], [false, true], []] ∧
      (((s.performAll acts).store.accountRules "a").map fun v => (v.rule.id, v.isActive)) =
        [("g", true), ("h", true), ("z", true)] ∧
      (((s.performAll acts).store.accountRules "a").map fun v => (v.rule, v.isActive)) =
        (Rule.visible (s.performAll acts).store.rules "a").map (fun r =>
          (r, (settings "a" r.id s acts).getLast?.getD r.isActive)) ∧
      (∃ view store, (s.performAll acts).store.toggleRule "a" "z" false now = .ok (view, store) ∧
        (store.accountRules "a").filter (·.rule.id == "z") = [view]) ∧
      (∃ done, (s.performAll acts).store.applyProfile "a" "p" now = .ok done ∧
        done.1.enabled + done.1.disabled =
          (Rule.visible (s.performAll acts).store.rules "a").length) ∧
      ∃ summary, ((s.performAll acts).evaluate (pipeline []) "a" now).1 = .ok summary ∧
        summary.rulesEvaluated = ((((s.performAll acts).store.accountRules "a").filter
          (·.isActive)).map AccountRule.rule).length := by
  intro rule now source pipeline s acts
  obtain ⟨hlist, htoggle, hprofile, hrun⟩ := performAll_activation (s := s) rfl acts "a"
  obtain ⟨⟨view, store⟩, ht⟩ := Result.of_isOk
    (x := (s.performAll acts).store.toggleRule "a" "z" false now) (by decide +kernel)
  obtain ⟨done, hp⟩ := Result.of_isOk
    (x := (s.performAll acts).store.applyProfile "a" "p" now) (by decide +kernel)
  obtain ⟨summary, h⟩ := Result.of_isOk
    (x := ((s.performAll acts).evaluate (pipeline []) "a" now).1) (by decide +kernel)
  obtain ⟨-, hsummary⟩ := hrun (pipeline []) now ⟨"a", [{ id := "i", type := "linode" }], .null, []⟩
    (s.performAll acts).ids rfl rfl
  obtain ⟨-, -, -, -, -, -, -, -, -, hcount⟩ := hsummary summary h
  exact ⟨by decide +kernel, by decide +kernel, hlist,
    ⟨view, store, ht, htoggle "z" false now view store ht⟩,
    ⟨done, hp, hprofile "p" now done hp⟩, summary, h, hcount⟩

end Service

end CloudAudit
