import CloudAudit.Builtin.Profiles
import CloudAudit.Builtin.Rules
import CloudAudit.Check.Registry
import CloudAudit.Proofs.Store.Activation

namespace CloudAudit

open Time (Moment)

namespace ConditionKind

variable {k : ConditionKind} {name : String}

theorem ofId?_eq_some : ofId? name = some k ↔ k.id = name := by
  constructor
  · intro h
    have hid := List.find?_some h
    exact eq_of_beq hid
  · rintro rfl
    cases k <;> rfl

theorem mem_byName : k ∈ byName ↔ k.check?.isSome := by
  rw [byName, List.mem_mergeSort]
  cases k <;> decide

end ConditionKind

namespace Rule

variable {r : Rule}

theorem contains_byName (r : Rule) :
    (ConditionKind.byName.map ConditionKind.id).contains r.conditionType = r.check?.isSome := by
  rw [Bool.eq_iff_iff, List.contains_iff_mem, List.mem_map, check?]
  constructor
  · rintro ⟨k, hk, hid⟩
    rw [ConditionKind.ofId?_eq_some.mpr hid]
    exact ConditionKind.mem_byName.mp hk
  · intro h
    cases hk : ConditionKind.ofId? r.conditionType with
    | none =>
      rw [hk] at h
      cases h
    | some k =>
      rw [hk] at h
      exact ⟨k, ConditionKind.mem_byName.mpr h, ConditionKind.ofId?_eq_some.mp hk⟩

theorem check?_isSome (h : (ConditionKind.ofId? r.conditionType).isSome) :
    r.check?.isSome ↔ r.isComposite = false := by
  obtain ⟨k, hk⟩ := Option.isSome_iff_exists.mp h
  rw [check?, hk, isComposite, ← ConditionKind.ofId?_eq_some.mp hk]
  cases k <;> decide

end Rule

theorem Builtin.exists_allRules : ∃ p ∈ profiles, p.id = profileId "all-rules" ∧
    ∀ r : Rule, p.conditionTypes.contains r.conditionType = r.check?.isSome :=
  ⟨profiles[5], List.getElem_mem _, rfl, Rule.contains_byName⟩

theorem Builtin.ruleIds_nodup : (rules.map Rule.id).Nodup := by
  decide +kernel

theorem Builtin.profileIds_nodup : (profiles.map Profile.id).Nodup := by
  decide +kernel

namespace Store

variable {s : Store} {a id : String} {p : Profile} {r : Rule}

section Catalogue

variable {rules : List Rule} {profiles : List Profile}

theorem ofCatalogue_append (h : (rules.map Rule.id).Nodup) (hr : ∀ x ∈ rules, x.id ≠ r.id) :
    (ofCatalogue (rules ++ [r]) profiles).rules = rules ++ [r] := by
  have hnew : Table.find? Rule.id rules r.id = none := Table.find?_eq_none.mpr hr
  calc
    Table.ofList Rule.id (rules ++ [r]) = Table.upsert Rule.id r (Table.ofList Rule.id rules) :=
      Table.ofList_append_singleton rules r
    _ = rules ++ [r] := by rw [Table.ofList_of_nodup h, Table.upsert_of_find?_eq_none hnew]

theorem ofCatalogue_profile (h : (profiles.map Profile.id).Nodup) (hp : p ∈ profiles) :
    (ofCatalogue rules profiles).profile p.id = .ok p := by
  rw [profile, Table.lookup_eq_ok, ofCatalogue, Table.ofList_of_nodup h]
  exact Table.find?_of_mem h hp

end Catalogue

theorem effectiveRules_apply (h : (s.rules.map Rule.id).Nodup) (p : Profile) (a : String)
    (now : Moment) :
    (s.replaceOverrides a (p.apply s.rules a now).overrides).effectiveRules a =
      (Rule.visible s.rules a).filter (p.conditionTypes.contains ·.conditionType) := by
  refine List.filter_congr fun r hr => ?_
  have ho := override?_apply h p now hr
  rw [override?] at ho
  rw [ho]
  rfl

theorem applyProfile_active (h : (s.rules.map Rule.id).Nodup) (hp : s.profile id = .ok p)
    (a : String) (now : Moment) :
    ∃ application s', s.applyProfile a id now = .ok (application, s') ∧ s'.rules = s.rules ∧
      s'.effectiveRules a =
        (Rule.visible s.rules a).filter (p.conditionTypes.contains ·.conditionType) ∧
      application.enabled = (s'.effectiveRules a).length ∧
      application.enabled + application.disabled = (Rule.visible s.rules a).length := by
  have heffective := effectiveRules_apply h p a now
  refine ⟨p.apply s.rules a now, s.replaceOverrides a (p.apply s.rules a now).overrides, ?_, rfl,
    heffective, ?_, enabled_add_disabled p s a now⟩
  · rw [applyProfile, hp]
    rfl
  · rw [heffective, ← List.countP_eq_length_filter]
    exact List.countP_map

/-- The profile of all rules leaves out the rules that combine others and those of no known kind. -/
theorem applyProfile_allRules (h : (s.rules.map Rule.id).Nodup)
    (hp : ∀ p ∈ Builtin.profiles, s.profile p.id = .ok p) (a : String) (now : Moment) :
    ∃ application s',
      s.applyProfile a (Builtin.profileId "all-rules") now = .ok (application, s') ∧
      s'.rules = s.rules ∧
      s'.effectiveRules a = (Rule.visible s.rules a).filter (·.check?.isSome) ∧
      application.enabled = (s'.effectiveRules a).length ∧
      application.disabled = (Rule.visible s.rules a).countP (·.check?.isNone) ∧
      ∀ r ∈ Rule.visible s.rules a, (ConditionKind.ofId? r.conditionType).isSome →
        (r ∈ s'.effectiveRules a ↔ r.isComposite = false) := by
  obtain ⟨p, hmem, hid, hkinds⟩ := Builtin.exists_allRules
  obtain ⟨application, s', happly, hrules, heffective, henabled, htotal⟩ :=
    applyProfile_active h (hid ▸ hp p hmem) a now
  have hchecked : s'.effectiveRules a = (Rule.visible s.rules a).filter (·.check?.isSome) := by
    rw [heffective]
    exact List.filter_congr fun r _ => hkinds r
  refine ⟨application, s', happly, hrules, hchecked, henabled, ?_, ?_⟩
  · have hcount := (Rule.visible s.rules a).length_eq_countP_add_countP (·.check?.isSome)
    rw [hchecked, ← List.countP_eq_length_filter] at henabled
    simp only [Bool.not_eq_true, Option.isSome_eq_false_iff, Bool.decide_eq_true] at hcount
    omega
  · intro r hr hk
    rw [hchecked, List.mem_filter, Rule.check?_isSome hk]
    exact and_iff_right hr

/-- An account with a rule of its own beside the built-in ones: all of them are active. -/
theorem applyProfile_allRules_tags :
    let tags : Rule :=
      { id := "acct-1-tags", name := "Tags", conditionType := "has_tags", isActive := false
        accountId := some "acct-1" }
    let s := ofCatalogue (Builtin.rules ++ [tags]) Builtin.profiles
    let now : Moment := ⟨2026, 1, 15, 12, 0, 0, 0, some 0⟩
    ∃ application s', s.applyProfile "acct-1" "profile-all-rules" now = .ok (application, s') ∧
      s'.effectiveRules "acct-1" = Rule.visible s.rules "acct-1" ∧
      application.enabled = 30 ∧ application.disabled = 0 := by
  intro tags s now
  have hids : (s.rules.map Rule.id).Nodup := (ofCatalogue_keyed _ _).rules
  have hrules : s.rules = Builtin.rules ++ [tags] :=
    ofCatalogue_append Builtin.ruleIds_nodup (by decide +kernel)
  have hp : ∀ p ∈ Builtin.profiles, s.profile p.id = .ok p := fun p =>
    ofCatalogue_profile Builtin.profileIds_nodup
  have hvisible : Rule.visible s.rules "acct-1" = Builtin.rules ++ [tags] := by
    rw [hrules]
    exact List.filter_eq_self.mpr (by decide +kernel)
  have hchecked : ∀ r ∈ Builtin.rules ++ [tags], r.check?.isSome = true := by decide +kernel
  obtain ⟨application, s', happly, -, heffective, henabled, hdisabled, -⟩ :=
    applyProfile_allRules hids hp "acct-1" now
  rw [hvisible, List.filter_eq_self.mpr hchecked] at heffective
  rw [heffective] at henabled
  have hnone : (Builtin.rules ++ [tags]).countP (·.check?.isNone) = 0 := by decide +kernel
  rw [hvisible, hnone] at hdisabled
  exact ⟨application, s', happly, heffective.trans hvisible.symm, henabled, hdisabled⟩

/-- An account with a rule that combines two built-in ones: the rule is switched off. -/
theorem applyProfile_allRules_composite :
    let both : Rule :=
      { id := "both", name := "Firewalled and backed up", conditionType := "composite"
        config := [("operator", .str "AND"), ("rule_ids", .arr [
          .str "builtin-firewall-attached", .str "builtin-linode-backups-enabled"])]
        accountId := some "acct-1" }
    let s := ofCatalogue (Builtin.rules ++ [both]) Builtin.profiles
    let now : Moment := ⟨2026, 1, 15, 12, 0, 0, 0, some 0⟩
    ∃ application s', s.applyProfile "acct-1" "profile-all-rules" now = .ok (application, s') ∧
      both ∈ Rule.visible s'.rules "acct-1" ∧ both ∉ s'.effectiveRules "acct-1" ∧
      application.disabled = 1 := by
  intro both s now
  have hids : (s.rules.map Rule.id).Nodup := (ofCatalogue_keyed _ _).rules
  have hrules : s.rules = Builtin.rules ++ [both] :=
    ofCatalogue_append Builtin.ruleIds_nodup (by decide +kernel)
  obtain ⟨p, hmem, hid, hkinds⟩ := Builtin.exists_allRules
  have hp : s.profile p.id = .ok p := ofCatalogue_profile Builtin.profileIds_nodup hmem
  obtain ⟨application, s', happly, hkept, heffective, henabled, htotal⟩ :=
    applyProfile_active hids (hid ▸ hp) "acct-1" now
  simp only [hkinds] at heffective
  have hmem : both ∈ Rule.visible s.rules "acct-1" := by
    rw [hrules]
    exact List.mem_filter.mpr ⟨List.mem_append_right _ List.mem_cons_self, rfl⟩
  have hon : (s'.effectiveRules "acct-1").length = 29 := by
    rw [heffective, hrules]
    decide +kernel
  have hall : (Rule.visible s.rules "acct-1").length = 30 := by
    rw [hrules]
    decide +kernel
  refine ⟨application, s', happly, hkept ▸ hmem, ?_, ?_⟩
  · rw [heffective, List.mem_filter]
    exact fun h => Bool.false_ne_true h.2
  · omega

end Store

end CloudAudit
