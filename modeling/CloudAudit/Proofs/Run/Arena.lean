import CloudAudit.Proofs.FirstSeen
import CloudAudit.Run.Composite

namespace CloudAudit

namespace Arena

variable {a : Arena} {ids : List String} {id : String} {group : Option String} {v : Verdict}

theorem addNew_firstSeen (new : List String) : FirstSeen new (addNew [] new) :=
  FirstSeen.nil.foldl new

theorem mem_ofRule : v ∈ a.ofRule id ↔ v ∈ a.verdicts ∧ v.ruleId = id := by
  simp only [ofRule, List.mem_filter, beq_iff_eq]

theorem mem_cell : v ∈ a.cell id group ↔ v ∈ a.verdicts ∧ v.ruleId = id ∧ v.resourceId = group := by
  simp only [cell, List.mem_filter, Bool.and_eq_true, beq_iff_eq]

theorem mem_resourceIds {r : String} : r ∈ a.resourceIds ids ↔
    ∃ v ∈ a.verdicts, v.ruleId ∈ ids ∧ v.resourceId = some r := by
  simp only [resourceIds, (addNew_firstSeen _).mem, List.mem_flatMap, List.mem_filterMap, mem_ofRule]
  constructor
  · rintro ⟨id, hid, v, ⟨hv, rfl⟩, hr⟩
    exact ⟨v, hv, hid, hr⟩
  · rintro ⟨v, hv, hid, hr⟩
    exact ⟨v.ruleId, hid, v, ⟨hv, rfl⟩, hr⟩

theorem resourceIds_nodup (a : Arena) (ids : List String) : (a.resourceIds ids).Nodup :=
  (addNew_firstSeen _).distinct

end Arena

namespace Verdict

/-- A verdict of a rule bears on a group: it is on the group's resource, or it is on the account
and the rule has no verdict on that resource. -/
def Bears (found : List Verdict) (ruleId : String) (group : Option String) (v : Verdict) : Prop :=
  v ∈ found ∧ v.ruleId = ruleId ∧
    (v.resourceId = group ∨
      v.resourceId = none ∧ ∀ w ∈ found, w.ruleId = ruleId → w.resourceId ≠ group)

/-- A rule holds for a group: some verdict of it bears on the group, and all that do are good. -/
def Holds (found : List Verdict) (ruleId : String) (group : Option String) : Prop :=
  (∃ v, Bears found ruleId group v) ∧ ∀ v, Bears found ruleId group v → v.status = .compliant

/-- A rule fails for a group: a bad verdict of it bears on the group. -/
def Fails (found : List Verdict) (ruleId : String) (group : Option String) : Prop :=
  ∃ v, Bears found ruleId group v ∧ v.status = .nonCompliant

end Verdict

namespace Status

variable {statuses : List Status}

theorem allOf_eq_compliant :
    allOf statuses = .compliant ↔ statuses ≠ [] ∧ ∀ s ∈ statuses, s = .compliant := by
  have hc : (!statuses.isEmpty && statuses.all (· == .compliant)) = true ↔
      statuses ≠ [] ∧ ∀ s ∈ statuses, s = .compliant := by
    simp
  rw [allOf, ← hc]
  by_cases h : (!statuses.isEmpty && statuses.all (· == .compliant)) = true
  · rw [if_pos h]
    exact iff_of_true rfl h
  · rw [if_neg h]
    refine iff_of_false ?_ h
    split <;> simp

theorem allOf_eq_nonCompliant : allOf statuses = .nonCompliant ↔ .nonCompliant ∈ statuses := by
  simp only [allOf]
  split
  case isTrue h =>
    refine iff_of_false (by simp) fun hm => ?_
    simp only [Bool.and_eq_true, List.all_eq_true, beq_iff_eq] at h
    cases h.2 _ hm
  case isFalse =>
    by_cases hm : .nonCompliant ∈ statuses
    · simp [hm]
    · simp [hm]

theorem anyOf_eq_compliant : anyOf statuses = .compliant ↔ .compliant ∈ statuses := by
  simp only [anyOf]
  by_cases hm : .compliant ∈ statuses
  · simp [hm]
  · rw [if_neg (by simpa using hm)]
    refine iff_of_false ?_ hm
    split <;> simp

theorem anyOf_eq_nonCompliant :
    anyOf statuses = .nonCompliant ↔ statuses ≠ [] ∧ ∀ s ∈ statuses, s = .nonCompliant := by
  have hs (s : Status) : s = .nonCompliant ↔ s ≠ .compliant ∧ s ≠ .notApplicable := by
    cases s <;> simp
  simp only [anyOf]
  by_cases hm : .compliant ∈ statuses
  · rw [if_pos (by simpa using hm)]
    refine iff_of_false (by simp) fun h => ?_
    cases h.2 _ hm
  · rw [if_neg (by simpa using hm)]
    have he : (∀ s ∈ statuses, s = .nonCompliant) ↔ .notApplicable ∉ statuses := by
      constructor
      · intro h hn
        cases h _ hn
      · intro h s hmem
        exact (hs s).mpr ⟨fun he => hm (he ▸ hmem), fun he => h (he ▸ hmem)⟩
    rw [he]
    by_cases hn : .notApplicable ∈ statuses <;> simp [hn]

end Status

namespace CompositeContext

open Verdict

variable {ctx : CompositeContext} {id : String} {ids : List String} {group : Option String}
  {v : Verdict}

theorem isKnown_iff : ctx.isKnown id = true ↔ ∃ r ∈ ctx.rules, r.id = id := by
  simp only [isKnown, List.any_eq_true, beq_iff_eq]

theorem mem_relevant : v ∈ ctx.relevant id group ↔ Bears ctx.arena.verdicts id group v := by
  cases group with
  | none =>
    simp only [relevant, Option.isSome_none, Bool.false_eq_true, if_false, List.isEmpty_nil,
      if_true, Arena.mem_cell, Bears]
    constructor
    · rintro ⟨hv, hr, hn⟩
      exact ⟨hv, hr, .inl hn⟩
    · rintro ⟨hv, hr, hn | ⟨hn, -⟩⟩
      exacts [⟨hv, hr, hn⟩, ⟨hv, hr, hn⟩]
  | some r =>
    simp only [relevant, Option.isSome_some, if_true, List.isEmpty_iff]
    by_cases he : ctx.arena.cell id (some r) = []
    · have hno : ∀ w ∈ ctx.arena.verdicts, w.ruleId = id → w.resourceId ≠ some r := by
        intro w hw hid hr
        have hc := Arena.mem_cell.mpr ⟨hw, hid, hr⟩
        rw [he] at hc
        cases hc
      rw [if_pos he, Arena.mem_cell]
      constructor
      · rintro ⟨hv, hid, hn⟩
        exact ⟨hv, hid, .inr ⟨hn, hno⟩⟩
      · rintro ⟨hv, hid, hr | ⟨hn, -⟩⟩
        · exact (hno v hv hid hr).elim
        · exact ⟨hv, hid, hn⟩
    · obtain ⟨w, hw⟩ := List.exists_mem_of_ne_nil _ he
      obtain ⟨hw, hid, hr⟩ := Arena.mem_cell.mp hw
      rw [if_neg he, Arena.mem_cell]
      constructor
      · rintro ⟨hv, hid, hr⟩
        exact ⟨hv, hid, .inl hr⟩
      · rintro ⟨hv, hid', hr' | ⟨-, hno⟩⟩
        · exact ⟨hv, hid', hr'⟩
        · exact (hno w hw hid hr).elim

theorem status_eq_compliant :
    ctx.status id group = .compliant ↔ Holds ctx.arena.verdicts id group := by
  rw [status, Status.allOf_eq_compliant, Holds, ne_eq, List.map_eq_nil_iff,
    List.eq_nil_iff_forall_not_mem]
  simp only [List.mem_map, forall_exists_index, and_imp, forall_apply_eq_imp_iff₂, mem_relevant,
    not_forall, not_not]

theorem status_eq_nonCompliant :
    ctx.status id group = .nonCompliant ↔ Fails ctx.arena.verdicts id group := by
  rw [status, Status.allOf_eq_nonCompliant, Fails]
  simp only [List.mem_map, mem_relevant]

theorem mem_groups : group ∈ ctx.groups ids ↔
    (∃ v ∈ ctx.arena.verdicts, v.ruleId ∈ ids ∧ v.resourceId = group) ∧
      (group = none → ∀ v ∈ ctx.arena.verdicts, v.ruleId ∈ ids → v.resourceId = none) := by
  simp only [groups, Bool.not_eq_true', List.isEmpty_eq_false_iff, List.any_eq_true]
  by_cases he : ctx.arena.resourceIds ids = []
  · have hno : ∀ v ∈ ctx.arena.verdicts, v.ruleId ∈ ids → v.resourceId = none := by
      intro v hv hid
      cases hr : v.resourceId with
      | none => rfl
      | some r =>
        have hm := Arena.mem_resourceIds.mpr ⟨v, hv, hid, hr⟩
        rw [he] at hm
        cases hm
    rw [if_neg (fun h => h he)]
    constructor
    · intro hg
      split at hg
      case isTrue h =>
        rw [List.mem_singleton] at hg
        obtain ⟨id, hid, hc⟩ := h
        obtain ⟨v, hvc⟩ := List.exists_mem_of_ne_nil _ hc
        obtain ⟨hv, hvid, hr⟩ := Arena.mem_cell.mp hvc
        exact ⟨⟨v, hv, hvid ▸ hid, hr.trans hg.symm⟩, fun _ => hno⟩
      case isFalse => cases hg
    · rintro ⟨⟨v, hv, hid, hr⟩, -⟩
      have hg := hr.symm.trans (hno v hv hid)
      have hc : v ∈ ctx.arena.cell v.ruleId none := Arena.mem_cell.mpr ⟨hv, rfl, hno v hv hid⟩
      rw [if_pos ⟨v.ruleId, hid, List.ne_nil_of_mem hc⟩, hg]
      exact List.mem_singleton.mpr rfl
  · rw [if_pos he, List.mem_map]
    constructor
    · rintro ⟨r, hr, rfl⟩
      exact ⟨Arena.mem_resourceIds.mp hr, fun h => by cases h⟩
    · rintro ⟨⟨v, hv, hid, rfl⟩, hall⟩
      obtain ⟨r, hr⟩ := List.exists_mem_of_ne_nil _ he
      obtain ⟨w, hw, hwid, hwr⟩ := Arena.mem_resourceIds.mp hr
      cases hg : v.resourceId with
      | none =>
        rw [hall hg w hw hwid] at hwr
        cases hwr
      | some r' => exact ⟨r', Arena.mem_resourceIds.mpr ⟨v, hv, hid, hg⟩, rfl⟩

theorem groups_nodup (ctx : CompositeContext) (ids : List String) : (ctx.groups ids).Nodup := by
  rw [groups]
  split
  · exact (Arena.resourceIds_nodup _ _).map (fun _ _ => Option.some.inj)
  · split
    exacts [List.nodup_singleton _, .nil]

theorem mem_groups_of_resource
    (h : ∃ v ∈ ctx.arena.verdicts, v.ruleId ∈ ids ∧ v.resourceId ≠ none) :
    group ∈ ctx.groups ids ↔
      group ≠ none ∧ ∃ v ∈ ctx.arena.verdicts, v.ruleId ∈ ids ∧ v.resourceId = group := by
  obtain ⟨w, hw, hwid, hwr⟩ := h
  rw [mem_groups]
  constructor
  · rintro ⟨hv, hall⟩
    exact ⟨fun hn => hwr (hall hn w hw hwid), hv⟩
  · rintro ⟨hn, hv⟩
    exact ⟨hv, fun he => absurd he hn⟩

theorem groups_of_account (h : ctx.groups ids ≠ [])
    (hno : ∀ v ∈ ctx.arena.verdicts, v.ruleId ∈ ids → v.resourceId = none) :
    ctx.groups ids = [none] := by
  have hr : ctx.arena.resourceIds ids = [] := by
    rw [List.eq_nil_iff_forall_not_mem]
    intro r hr
    obtain ⟨v, hv, hid, hvr⟩ := Arena.mem_resourceIds.mp hr
    rw [hno v hv hid] at hvr
    cases hvr
  simp only [groups, hr, List.isEmpty_nil, Bool.not_true, Bool.false_eq_true, if_false] at h ⊢
  exact if_pos (ite_ne_right_iff.mp h).1

end CompositeContext

end CloudAudit
