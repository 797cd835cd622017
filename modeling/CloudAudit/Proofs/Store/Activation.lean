import CloudAudit.Proofs.Store.Isolation

namespace CloudAudit

open Time (Moment)

variable {a b id : String} {rows : List Override} {o : Override} {now : Moment}

def Override.key (o : Override) : String × String := (o.accountId, o.ruleId)

theorem Override.forAccount_eq (hown : ∀ o ∈ rows, o.accountId = a)
    (hn : (rows.map ruleId).Nodup) : forAccount rows a = rows := by
  have hf : rows.filter (·.accountId == a) = rows :=
    List.filter_eq_self.mpr fun o ho => beq_iff_eq.mpr (hown o ho)
  rw [forAccount, hf, Table.ofList_of_nodup hn]

namespace Store

variable {s : Store} {r : Rule}

def override? (s : Store) (a id : String) : Option Override :=
  Override.find? (Override.forAccount (s.overridesOf a) a) id

/-- No two rules have one identifier, an account has no two overrides for one rule, and overrides
are for rules of the store. -/
structure Keyed (s : Store) : Prop where
  rules : (s.rules.map Rule.id).Nodup
  overrides : (s.overrides.map Override.key).Nodup
  known : ∀ o ∈ s.overrides, ∃ r ∈ s.rules, r.id = o.ruleId

theorem ofCatalogue_keyed (rules : List Rule) (profiles : List Profile) :
    (ofCatalogue rules profiles).Keyed where
  rules := by
    have hnil : (([] : List Rule).map Rule.id).Nodup := .nil
    exact Table.insertAll_keys_nodup hnil rules
  overrides := .nil
  known := nofun

theorem overridesOf_nodup (h : s.Keyed) (a : String) :
    ((s.overridesOf a).map Override.ruleId).Nodup := by
  have hkey : (s.overridesOf a).map Override.key =
      ((s.overridesOf a).map Override.ruleId).map (Prod.mk a) := by
    rw [List.map_map]
    refine List.map_congr_left fun o ho => ?_
    rw [Override.key, eq_of_beq (List.mem_filter.mp ho).2]
    rfl
  have hn : ((s.overridesOf a).map Override.key).Nodup :=
    (List.filter_sublist.map Override.key).nodup h.overrides
  exact (hkey ▸ hn).of_map _

theorem forAccount_overridesOf (h : s.Keyed) (a : String) :
    Override.forAccount (s.overridesOf a) a = s.overridesOf a :=
  Override.forAccount_eq (fun _ ho => eq_of_beq (List.mem_filter.mp ho).2) (overridesOf_nodup h a)

theorem override?_eq (h : s.Keyed) (a id : String) :
    s.override? a id = Table.find? Override.key s.overrides (a, id) := by
  rw [override?, forAccount_overridesOf h, Override.find?, Table.find?, overridesOf,
    List.find?_filter, Table.find?]
  congr 1
  funext o
  rw [Override.key, Bool.eq_iff_iff]
  simp

theorem override?_congr {s' : Store} (h : s'.overridesOf a = s.overridesOf a) :
    s'.override? a id = s.override? a id := by
  rw [override?, override?, h]

theorem override?_eq_none (h : s.Keyed) (hno : ∀ r ∈ s.rules, r.id ≠ id) :
    s.override? a id = none := by
  rw [override?_eq h, Table.find?_eq_none]
  intro o ho he
  obtain ⟨r, hr, hid⟩ := h.known o ho
  exact hno r hr (hid.trans (congrArg Prod.snd he))

theorem putOverride_keyed (h : s.Keyed) (ho : ∃ r ∈ s.rules, r.id = o.ruleId) :
    (s.putOverride o).Keyed where
  rules := h.rules
  overrides := Table.upsert_keys_nodup h.overrides
  known := by
    intro o' ho'
    obtain rfl | ho' := Table.mem_upsert ho'
    · exact ho
    · exact h.known o' ho'

theorem override?_putOverride (h : s.Keyed) (ho : ∃ r ∈ s.rules, r.id = o.ruleId) :
    (s.putOverride o).override? a id = if (a, id) = o.key then some o else s.override? a id := by
  rw [override?_eq (putOverride_keyed h ho), override?_eq h]
  exact Table.find?_upsert

section Profile

variable {p : Profile}

theorem apply_owner (ho : o ∈ (p.apply s.rules b now).overrides) : o.accountId = b := by
  obtain ⟨r, -, rfl⟩ := List.mem_map.mp ho
  rfl

theorem apply_ruleIds (p : Profile) (s : Store) (b : String) (now : Moment) :
    (p.apply s.rules b now).overrides.map Override.ruleId =
      (Rule.visible s.rules b).map Rule.id := by
  rw [Profile.apply, List.map_map]
  rfl

theorem visible_nodup (h : (s.rules.map Rule.id).Nodup) (b : String) :
    ((Rule.visible s.rules b).map Rule.id).Nodup :=
  (List.filter_sublist.map Rule.id).nodup h

theorem forAccount_apply (h : (s.rules.map Rule.id).Nodup) (p : Profile) (b : String)
    (now : Moment) : Override.forAccount (p.apply s.rules b now).overrides b =
      (p.apply s.rules b now).overrides :=
  Override.forAccount_eq (fun _ => apply_owner) (apply_ruleIds p s b now ▸ visible_nodup h b)

theorem replaceOverrides_overridesOf (s : Store) (rows : List Override) (b : String) :
    (s.replaceOverrides b rows).overridesOf b = Override.forAccount rows b := by
  have hall : ∀ o ∈ Override.forAccount rows b, (o.accountId == b) = true := by
    intro o ho
    exact (List.mem_filter.mp (Table.mem_ofList ho)).2
  have hnone : (s.overrides.filter (·.accountId != b)).filter (·.accountId == b) = [] := by
    rw [List.filter_filter, List.filter_eq_nil_iff]
    simp
  rw [overridesOf, replaceOverrides, List.filter_append, hnone, List.nil_append,
    List.filter_eq_self.mpr hall]

theorem find?_apply (h : (s.rules.map Rule.id).Nodup) (hr : r ∈ Rule.visible s.rules b) :
    Table.find? Override.ruleId (p.apply s.rules b now).overrides r.id =
      some ⟨b, r.id, p.conditionTypes.contains r.conditionType, some p.id, now⟩ := by
  have hmem : ⟨b, r.id, p.conditionTypes.contains r.conditionType, some p.id, now⟩ ∈
      (p.apply s.rules b now).overrides := List.mem_map_of_mem hr
  exact Table.find?_of_mem (apply_ruleIds p s b now ▸ visible_nodup h b) hmem

theorem override?_apply (h : (s.rules.map Rule.id).Nodup) (p : Profile) (now : Moment)
    (hr : r ∈ Rule.visible s.rules b) :
    (s.replaceOverrides b (p.apply s.rules b now).overrides).override? b r.id =
      some ⟨b, r.id, p.conditionTypes.contains r.conditionType, some p.id, now⟩ := by
  rw [override?, replaceOverrides_overridesOf, forAccount_apply h, forAccount_apply h,
    Override.find?, find?_apply h hr]

theorem applied_keyed (h : s.Keyed) (p : Profile) (b : String) (now : Moment) :
    (s.replaceOverrides b (p.apply s.rules b now).overrides).Keyed where
  rules := h.rules
  overrides := by
    have hkey : (p.apply s.rules b now).overrides.map Override.key =
        ((Rule.visible s.rules b).map Rule.id).map (Prod.mk b) := by
      rw [← apply_ruleIds p s b now, List.map_map]
      refine List.map_congr_left fun o ho => ?_
      rw [Override.key, apply_owner ho]
      rfl
    rw [replaceOverrides, forAccount_apply h.rules, List.map_append, List.nodup_append]
    refine ⟨(List.filter_sublist.map Override.key).nodup h.overrides, ?_, ?_⟩
    · rw [hkey]
      exact (visible_nodup h.rules b).map fun _ _ he => congrArg Prod.snd he
    · intro k hk k' hk' he
      obtain ⟨o, ho, rfl⟩ := List.mem_map.mp hk
      obtain ⟨o', ho', rfl⟩ := List.mem_map.mp hk'
      have hne := (List.mem_filter.mp ho).2
      rw [bne_iff_ne] at hne
      exact hne ((congrArg Prod.fst he).trans (apply_owner ho'))
  known := by
    intro o ho
    rw [replaceOverrides, forAccount_apply h.rules] at ho
    obtain ho | ho := List.mem_append.mp ho
    · exact h.known o (List.mem_filter.mp ho).1
    · obtain ⟨r, hr, rfl⟩ := List.mem_map.mp ho
      exact ⟨r, (List.mem_filter.mp hr).1, rfl⟩

theorem override?_applied (h : s.Keyed) (hr : ∀ r ∈ s.rules, r.id = id → r.visibleTo b = true) :
    ((s.replaceOverrides b (p.apply s.rules b now).overrides).override? b id).map
        Override.isActive =
      (Table.find? Rule.id s.rules id).map fun r => p.conditionTypes.contains r.conditionType := by
  cases hf : Table.find? Rule.id s.rules id with
  | none =>
    rw [Table.find?_eq_none] at hf
    rw [override?_eq_none (applied_keyed h p b now) hf]
    rfl
  | some r =>
    obtain ⟨hmem, rfl⟩ := Table.mem_of_find? hf
    rw [override?_apply h.rules p now (List.mem_filter.mpr ⟨hmem, hr r hmem rfl⟩)]
    rfl

theorem enabled_add_disabled (p : Profile) (s : Store) (b : String) (now : Moment) :
    (p.apply s.rules b now).enabled + (p.apply s.rules b now).disabled =
      (Rule.visible s.rules b).length := by
  have hl := List.length_eq_countP_add_countP Override.isActive
    (l := (p.apply s.rules b now).overrides)
  have hm : (p.apply s.rules b now).overrides.length = (Rule.visible s.rules b).length :=
    List.length_map _
  rw [← hm, hl]
  simp only [Bool.not_eq_true, Bool.decide_eq_false]
  rfl

end Profile

section Registration

variable {x : Rule} {rules : List Rule}

theorem putRule_keeps (h : s.registrationFault? a r = none) (hx : x ∈ s.rules) :
    ∃ y ∈ (s.putRule r).rules, y.id = x.id ∧ y.accountId = x.accountId := by
  rw [registrationFault?] at h
  split at h
  · cases h
  case isFalse ha =>
    rw [ne_eq, not_not] at ha
    cases hf : Table.find? Rule.id s.rules r.id with
    | none =>
      rw [putRule, Table.upsert_of_find?_eq_none hf]
      exact ⟨x, List.mem_append_left _ hx, rfl, rfl⟩
    | some known =>
      rw [hf] at h
      dsimp only at h
      split at h
      case isFalse => cases h
      case isTrue hk =>
        obtain ⟨before, after, he, hu⟩ := Table.upsert_of_find?_eq_some hf
        rw [putRule, hu]
        rw [he] at hx
        obtain rfl | hx := Table.mem_of_mem_replaced hx r
        · refine ⟨r, List.mem_append_right _ List.mem_cons_self, ?_, ha.trans hk.symm⟩
          exact (Table.mem_of_find? hf).2.symm
        · exact ⟨x, hx, rfl, rfl⟩

theorem registerRules_keeps (a : String) (rules : List Rule) (hx : x ∈ s.rules) :
    ∃ y ∈ (s.registerRules a rules).2.rules, y.id = x.id ∧ y.accountId = x.accountId := by
  induction rules generalizing s x with
  | nil => exact ⟨x, hx, rfl, rfl⟩
  | cons r rules ih =>
    rw [registerRules]
    split
    · exact ⟨x, hx, rfl, rfl⟩
    case h_2 h =>
      obtain ⟨y, hy, hid, hown⟩ := putRule_keeps h hx
      obtain ⟨z, hz, hid', hown'⟩ := ih hy
      exact ⟨z, hz, hid'.trans hid, hown'.trans hown⟩

theorem registerRules_ids_nodup (h : (s.rules.map Rule.id).Nodup) (a : String)
    (rules : List Rule) : ((s.registerRules a rules).2.rules.map Rule.id).Nodup := by
  induction rules generalizing s with
  | nil => exact h
  | cons r rules ih =>
    rw [registerRules]
    split
    · exact h
    · exact ih (s := s.putRule r) (Table.upsert_keys_nodup h)

theorem registerRules_keyed (h : s.Keyed) (a : String) (rules : List Rule) :
    (s.registerRules a rules).2.Keyed := by
  have hs := registerRules_store s a rules
  have ho : (s.registerRules a rules).2.overrides = s.overrides := by rw [hs]
  refine ⟨registerRules_ids_nodup h.rules a rules, ho ▸ h.overrides, ?_⟩
  intro o hmem
  obtain ⟨r, hr, hid⟩ := h.known o (ho ▸ hmem)
  obtain ⟨y, hy, hid', -⟩ := registerRules_keeps a rules hr
  exact ⟨y, hy, hid'.trans hid⟩

theorem registerRules_ok {rules : List Rule} {s' : Store}
    (h : s.registerRules a rules = (.ok (), s')) :
    s' = { s with rules := Table.insertAll Rule.id s.rules rules } := by
  induction rules generalizing s with
  | nil => exact (congrArg Prod.snd h).symm
  | cons r rules ih =>
    rw [registerRules] at h
    split at h
    · cases h
    · exact ih h

theorem registerRules_again {rules : List Rule} {s' t t' : Store} (hs : (s.rules.map Rule.id).Nodup)
    (h : s.registerRules a rules = (.ok (), s')) (ht : t.rules = s'.rules)
    (h' : t.registerRules a rules = (.ok (), t')) : t' = t := by
  have hrules : Table.insertAll Rule.id t.rules rules = t.rules := by
    rw [ht, registerRules_ok h]
    exact Table.insertAll_insertAll hs rules
  rw [registerRules_ok h', hrules]

end Registration

theorem accountRules_eq (s : Store) (a : String) : s.accountRules a =
    (Rule.visible s.rules a).map fun r => .ofRule r (s.override? a r.id) := rfl

theorem effectiveRules_eq (s : Store) (a : String) :
    s.effectiveRules a = ((s.accountRules a).filter (·.isActive)).map AccountRule.rule := by
  have hf : s.effectiveRules a =
      (Rule.visible s.rules a).filter fun r => r.activeUnder (s.override? a r.id) := rfl
  rw [hf, accountRules_eq, List.filter_map, List.map_map]
  exact (List.map_id _).symm

theorem toggleRule_listed {isActive : Bool} {view : AccountRule} {s' : Store} (hs : s.Keyed)
    (h : s.toggleRule a id isActive now = .ok (view, s')) :
    (s'.accountRules a).filter (·.rule.id == id) = [view] := by
  obtain ⟨r, hr, rfl, hv, rfl, rfl⟩ := toggleRule_ok h
  have hvis : r ∈ Rule.visible s.rules a := List.mem_filter.mpr ⟨hr, hv⟩
  have hrow := Table.filter_key_eq_singleton (visible_nodup hs.rules a) hvis
  have hf : ((s.putOverride ⟨a, r.id, isActive, none, now⟩).accountRules a).filter
      (·.rule.id == r.id) = ((Rule.visible s.rules a).filter (·.id == r.id)).map fun r' =>
        .ofRule r' ((s.putOverride ⟨a, r.id, isActive, none, now⟩).override? a r'.id) := by
    rw [accountRules_eq, List.filter_map]
    rfl
  have hkey : (a, r.id) = Override.key ⟨a, r.id, isActive, none, now⟩ := rfl
  rw [hf, hrow, List.map_singleton, override?_putOverride hs ⟨r, hr, rfl⟩, if_pos hkey]

end Store

end CloudAudit
