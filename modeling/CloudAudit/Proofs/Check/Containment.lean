import CloudAudit.Check.Registry
import CloudAudit.Proofs.Result

namespace CloudAudit

open Result

/-- Some number in a value is infinite. -/
inductive Json.HasInfinite : Json → Prop
  | number {x : Float} {negative : Bool} :
    Number.Binary.ofFloat x = .infinite negative → HasInfinite (.float x)
  | item {v : Json} {items : List Json} : v ∈ items → HasInfinite v → HasInfinite (.arr items)
  | field {name : String} {v : Json} {fields : Fields} :
    (name, v) ∈ fields → HasInfinite v → HasInfinite (.obj fields)

/-- Some number in the details of a resource is infinite. -/
def Resource.HasInfinite (r : Resource) : Prop := (Json.obj r.specs).HasInfinite

namespace Json

variable {v w : Json} {fields : Fields} {name : String} {items : List Json}

theorem HasInfinite.of_getD (h : (Fields.getD fields name).HasInfinite) :
    (obj fields).HasInfinite := by
  rw [Fields.getD, Fields.get?] at h
  cases hl : fields.lookup name with
  | none =>
    rw [hl] at h
    cases h
  | some v =>
    rw [hl] at h
    obtain ⟨l₁, l₂, rfl, -⟩ := List.lookup_eq_some_iff.mp hl
    exact .field (List.mem_append_right l₁ List.mem_cons_self) h

theorem HasInfinite.of_orElse (h : (v.orElse w).HasInfinite) : v.HasInfinite ∨ w.HasInfinite := by
  rw [orElse] at h
  split at h
  · exact .inl h
  · exact .inr h

theorem HasInfinite.of_itemsOrNone (h : v.itemsOrNone = .ok items) (hw : w ∈ items)
    (hi : w.HasInfinite) : v.HasInfinite := by
  rw [itemsOrNone] at h
  split at h
  case isFalse =>
    cases h
    cases hw
  case isTrue =>
    cases v with
    | arr vs =>
      cases h
      exact .item hw hi
    | obj fields =>
      cases h
      obtain ⟨field, -, rfl⟩ := List.mem_map.mp hw
      cases hi
    | str s =>
      cases h
      obtain ⟨c, -, rfl⟩ := List.mem_map.mp hw
      cases hi
    | null | bool | int | float => cases h

theorem infinite_of_toInt (h : v.toInt = .error .infiniteNumber) :
    ∃ x negative, v = .float x ∧ Number.Binary.ofFloat x = .infinite negative := by
  cases v with
  | float x =>
    rw [toInt] at h
    split at h
    case h_1 negative hx => exact ⟨x, negative, rfl, hx⟩
    case h_2 => cases h
    case h_3 => cases h
  | str s =>
    rw [toInt] at h
    split at h <;> cases h
  | null | bool | int | arr | obj => cases h

theorem HasInfinite.of_toInt (h : v.toInt = .error .infiniteNumber) : v.HasInfinite := by
  obtain ⟨x, negative, rfl, hx⟩ := infinite_of_toInt h
  exact .number hx

end Json

namespace CheckFault

/-- A fault that a check may have: one that is contained, or that of an infinite number if there is
one in the inventory. -/
def Expected (inv : Inventory) (f : CheckFault) : Prop :=
  f.isContained = true ∨ f = .data .infiniteNumber ∧ ∃ r ∈ inv.resources, r.HasInfinite

variable {inv : Inventory}

theorem expected_data {f : DataFault} (hi : f ≠ .infiniteNumber) (hn : ∀ s, f ≠ .notIndexable s) :
    Expected inv (.data f) := by
  left
  cases f with
  | infiniteNumber => exact absurd rfl hi
  | notIndexable s => exact absurd rfl (hn s)
  | _ => rfl

@[simp]
theorem expected_config (r : Rejection) : Expected inv (.config r) := .inl rfl

end CheckFault

open CheckFault

variable {α : Type} {Q : CheckFault → Prop} {inv : Inventory} {v : Json}

theorem lift_data_eq_ok {x : Except DataFault α} {a : α} :
    (liftM x : Except CheckFault α) = .ok a ↔ x = .ok a :=
  mapError_eq_ok

theorem lift_config_eq_ok {x : Except Rejection α} {a : α} :
    (liftM x : Except CheckFault α) = .ok a ↔ x = .ok a :=
  mapError_eq_ok

@[simp]
theorem failsOnly_lift_data {x : Except DataFault α} :
    FailsOnly Q (liftM x : Except CheckFault α) ↔ FailsOnly (fun f => Q (.data f)) x := by
  cases x with
  | error f =>
    change FailsOnly Q (.error (.data f)) ↔ _
    rw [failsOnly_error, failsOnly_error]
  | ok a => exact iff_of_true failsOnly_ok failsOnly_ok

@[simp]
theorem failsOnly_lift_config {x : Except Rejection α} :
    FailsOnly Q (liftM x : Except CheckFault α) ↔ FailsOnly (fun r => Q (.config r)) x := by
  cases x with
  | error f =>
    change FailsOnly Q (.error (.config f)) ↔ _
    rw [failsOnly_error, failsOnly_error]
  | ok a => exact iff_of_true failsOnly_ok failsOnly_ok

@[simp]
theorem failsOnly_itemsOrNone : FailsOnly (fun f => Expected inv (.data f)) v.itemsOrNone := by
  rw [Json.itemsOrNone, failsOnly_ite]
  constructor
  · intro _
    split
    · exact failsOnly_ok
    · rw [failsOnly_error]
      exact expected_data nofun nofun
  · intro _
    exact failsOnly_ok

theorem failsOnly_toInt (h : v.HasInfinite → ∃ r ∈ inv.resources, r.HasInfinite) :
    FailsOnly (fun f => Expected inv (.data f)) v.toInt := by
  intro f hf
  by_cases hi : f = .infiniteNumber
  · subst hi
    exact .inr ⟨rfl, h (.of_toInt hf)⟩
  · refine expected_data hi fun s hs => ?_
    subst hs
    cases v with
    | float x =>
      rw [Json.toInt] at hf
      split at hf <;> cases hf
    | str t =>
      rw [Json.toInt] at hf
      split at hf <;> cases hf
    | null | bool | int | arr | obj => cases hf

theorem failsOnly_toInt? (h : v.HasInfinite → ∃ r ∈ inv.resources, r.HasInfinite) :
    FailsOnly (fun f => Expected inv (.data f)) v.toInt? := by
  intro f hf
  rw [Json.toInt?] at hf
  split at hf
  case h_1 => cases hf
  case h_2 ht =>
    cases hf
    exact .inr ⟨rfl, h (.of_toInt ht)⟩
  case h_3 => cases hf

namespace Protector

theorem failsOnly_addAttached {item : Json}
    (h : item.HasInfinite → ∃ r ∈ inv.resources, r.HasInfinite) (found : List Protector) :
    FailsOnly (fun f => Expected inv (.data f)) (addAttached found item) := by
  cases item with
  | obj fields =>
    rw [addAttached, failsOnly_bind]
    refine ⟨failsOnly_toInt? fun hi => h hi.of_getD, fun n _ => ?_⟩
    cases n with
    | none => exact failsOnly_ok
    | some n => simp
  | _ => exact failsOnly_ok

theorem failsOnly_isTarget {items : List Json}
    (h : ∀ v ∈ items, v.HasInfinite → ∃ r ∈ inv.resources, r.HasInfinite) (number : Int) :
    FailsOnly (fun f => Expected inv (.data f)) (isTarget number items) := by
  induction items with
  | nil => exact failsOnly_ok
  | cons item items ih =>
    have ih := ih fun v hv => h v (List.mem_cons_of_mem _ hv)
    cases item with
    | obj fields =>
      rw [isTarget, failsOnly_bind]
      refine ⟨failsOnly_toInt? fun hi => h _ List.mem_cons_self hi.of_getD, fun n _ => ?_⟩
      rw [failsOnly_ite]
      exact ⟨fun _ => failsOnly_ok, fun _ => ih⟩
    | _ => exact ih

theorem failsOnly_addTargeting {fw : Resource} (h : fw ∈ inv.resources) (target : Int)
    (found : List Protector) :
    FailsOnly (fun f => Expected inv (.data f)) (addTargeting target found fw) := by
  rw [addTargeting]
  cases fw.numericId? with
  | none => exact failsOnly_ok
  | some n =>
    dsimp only
    split
    · exact failsOnly_ok
    · rw [failsOnly_bind]
      refine ⟨failsOnly_itemsOrNone, fun entities he => ?_⟩
      rw [failsOnly_bind]
      refine ⟨failsOnly_isTarget ?_ target, fun b _ => ?_⟩
      · intro v hv hi
        exact ⟨fw, h, .of_getD (.of_itemsOrNone he hv hi)⟩
      · simp

end Protector

theorem failsOnly_protectors {r : Resource} (hr : r ∈ inv.resources) :
    FailsOnly (fun f => Expected inv (.data f)) (inv.protectors r) := by
  rw [Inventory.protectors, failsOnly_bind]
  refine ⟨failsOnly_itemsOrNone, fun items hitems => ?_⟩
  rw [failsOnly_bind]
  constructor
  · refine failsOnly_foldlM fun found item hitem => ?_
    apply Protector.failsOnly_addAttached
    intro hi
    exact ⟨r, hr, .of_getD (.of_itemsOrNone hitems hitem hi)⟩
  · intro attached _
    cases r.numericId? with
    | none => exact failsOnly_ok
    | some target =>
      refine failsOnly_foldlM fun found fw hfw => ?_
      exact Protector.failsOnly_addTargeting (List.mem_filter.mp hfw).1 target found

namespace Check

variable {rule : Rule} {r : Resource} {kind : ConditionKind} {check : ResourceCheck}

@[simp]
theorem failsOnly_readRules : FailsOnly (Expected inv) (readRules v) := by
  simp [readRules, failsOnly_mapM]

@[simp]
theorem failsOnly_ofResource :
    FailsOnly (fun f => Expected inv (.data f)) (Tags.ofResource r) := by
  simp [Tags.ofResource]

@[simp]
theorem failsOnly_portConfigs :
    FailsOnly (fun f => Expected inv (.data f)) (portConfigs r) := by
  simp [portConfigs]

theorem hasInfinite_of_portConfigs {ports : List Fields} {port : Fields}
    (h : portConfigs r = .ok ports) (hp : port ∈ ports) (hi : (Json.obj port).HasInfinite) :
    r.HasInfinite := by
  obtain ⟨items, hitems, he⟩ := bind_eq_ok.mp h
  cases he
  obtain ⟨item, hitem, he⟩ := List.mem_filterMap.mp hp
  cases item with
  | obj fields =>
    cases he
    exact .of_getD (.of_itemsOrNone hitems hitem hi)
  | _ => cases he

theorem firewallAttached_expected (hr : r ∈ inv.resources) :
    FailsOnly (Expected inv) (firewallAttached rule r inv) := by
  simp [firewallAttached, failsOnly_protectors hr]

theorem firewallRulesCheck_expected (hr : r ∈ inv.resources) :
    FailsOnly (Expected inv) (firewallRulesCheck rule r inv) := by
  have hp (cfg : FirewallPolicyConfig) (fw : Resource) :
      FailsOnly (Expected inv) (policyViolations cfg fw) := by
    simp [policyViolations]
  simp [firewallRulesCheck, failsOnly_protectors hr, failsOnly_mapM, hp]

theorem firewallHasTargets_expected (hr : r ∈ inv.resources) :
    FailsOnly (Expected inv) (firewallHasTargets rule r inv) := by
  have hs : FailsOnly (fun f => Expected inv (.data f)) (sizeOfValue (r.spec "entities")) := by
    rw [sizeOfValue, failsOnly_ite]
    constructor
    · intro _
      split
      · exact failsOnly_ok
      · rw [failsOnly_error]
        exact expected_data nofun nofun
    · intro _
      exact failsOnly_ok
  rw [firewallHasTargets, failsOnly_ite]
  constructor
  · intro _
    rw [failsOnly_bind]
    refine ⟨by simp [hs], fun count hcount => ?_⟩
    -- The number of targets is counted here, so it is finite.
    obtain ⟨n, -, rfl⟩ := map_eq_ok.mp hcount
    simp [Json.toInt]
  · intro _
    have ht : FailsOnly (fun f => Expected inv (.data f)) (r.spec "entity_count").toInt :=
      failsOnly_toInt fun hi => ⟨r, hr, hi.of_getD⟩
    simp [ht]

theorem minNodeCount_expected (hr : r ∈ inv.resources) :
    FailsOnly (Expected inv) (minNodeCount rule r inv) := by
  have ht : FailsOnly (fun f => Expected inv (.data f)) (r.spec "node_count").toInt :=
    failsOnly_toInt fun hi => ⟨r, hr, hi.of_getD⟩
  rw [minNodeCount, failsOnly_bind]
  refine ⟨by simp, fun cfg _ => ?_⟩
  dsimp only
  rw [failsOnly_ite]
  constructor
  · intro _
    split <;> simp
  · intro _
    simp [ht]

theorem balancerPorts_expected (hr : r ∈ inv.resources) :
    FailsOnly (Expected inv) (balancerPorts rule r inv) := by
  rw [balancerPorts, failsOnly_bind]
  refine ⟨by simp, fun ports hports => ?_⟩
  have hn : ∀ port ∈ ports, FailsOnly (fun f => Expected inv (.data f))
      ((port.getD "port").orElse (.int 0)).toInt := by
    intro port hport
    apply failsOnly_toInt
    intro hi
    obtain hi | hi := hi.of_orElse
    · exact ⟨r, hr, hasInfinite_of_portConfigs (lift_data_eq_ok.mp hports) hport hi.of_getD⟩
    · cases hi
  rw [failsOnly_ite]
  refine ⟨fun _ => failsOnly_pure, fun _ => ?_⟩
  rw [failsOnly_bind]
  refine ⟨by simp, fun cfg _ => ?_⟩
  rw [failsOnly_ite]
  refine ⟨fun _ => failsOnly_pure, fun _ => ?_⟩
  rw [failsOnly_bind]
  refine ⟨failsOnly_mapM fun port hport => failsOnly_lift_data.mpr (hn port hport), ?_⟩
  intro numbers _
  simp

theorem databaseAllowlist_expected : FailsOnly (Expected inv) (databaseAllowlist rule r inv) := by
  rw [databaseAllowlist, failsOnly_ite]
  refine ⟨fun _ => failsOnly_pure, fun _ => ?_⟩
  rw [failsOnly_bind]
  refine ⟨by simp, fun cfg _ => ?_⟩
  split
  · simp
  · rw [failsOnly_throw]
    exact expected_data nofun nofun

theorem backupRecency_expected : FailsOnly (Expected inv) (backupRecency rule r inv) := by
  rw [backupRecency, failsOnly_bind]
  refine ⟨by simp, fun cfg _ => ?_⟩
  dsimp only
  split
  · exact failsOnly_pure
  · exact failsOnly_pure
  split
  · exact failsOnly_pure
  rw [failsOnly_ite]
  refine ⟨fun _ => failsOnly_pure, fun _ => ?_⟩
  split
  · exact failsOnly_pure
  rw [failsOnly_ite]
  refine ⟨fun _ => failsOnly_pure, fun _ => ?_⟩
  rw [failsOnly_throw]
  exact expected_data nofun nofun

/-- A check of a resource of the inventory has expected faults only. -/
theorem check_expected (hk : kind.check? = some (.resource check)) (hr : r ∈ inv.resources) :
    FailsOnly (Expected inv) (check rule r inv) := by
  cases kind <;> cases hk
  case firewallAttached => exact firewallAttached_expected hr
  case firewallHasTargets => exact firewallHasTargets_expected hr
  case firewallRulesCheck => exact firewallRulesCheck_expected hr
  case backupRecency => exact backupRecency_expected
  case databaseAllowlist => exact databaseAllowlist_expected
  case balancerPorts => exact balancerPorts_expected hr
  case minNodeCount => exact minNodeCount_expected hr
  case volumeAttached => simp [volumeAttached]
  case noOpenInbound => simp [noOpenInbound]
  case firewallLateral => simp [firewallLateral]
  case firewallAllPorts => simp [firewallAllPorts]
  case firewallNoDuplicates => simp [firewallNoDuplicates]
  case firewallDescriptions => simp [firewallDescriptions]
  case hasTags => simp [hasTags]
  case backupsEnabled =>
    rw [backupsEnabled]
    split <;> exact failsOnly_ok
  case diskEncryption => simp [diskEncryption]
  case volumeEncryption => simp [volumeEncryption]
  case lockConfigured => simp [lockConfigured]
  case notOffline => simp [notOffline]
  case databasePublicAccess => simp [databasePublicAccess]
  case bucketAcl => simp [bucketAcl]
  case bucketCors => simp [bucketCors]
  case balancerProtocol => simp [balancerProtocol]
  case controlPlaneHa =>
    rw [controlPlaneHa]
    split <;> exact failsOnly_ok
  case auditLogs =>
    rw [auditLogs]
    split
    · exact failsOnly_ok
    · split <;> exact failsOnly_ok
  case approvedRegions => simp [approvedRegions]
  case planTierByTag => simp [planTierByTag]

end Check

end CloudAudit
