import Mathlib.Algebra.BigOperators.Ring.Finset
import CloudAudit.Model.History
import CloudAudit.Proofs.FirstSeen
import CloudAudit.Proofs.Run.Report

namespace CloudAudit

open Time (Moment)

variable {findings : List Finding} {rules : List Rule} {r : String}

theorem Rule.lastById?_of_split {before after : List Rule} {rule : Rule}
    (hlast : ∀ other ∈ after, other.id ≠ rule.id) :
    lastById? (before ++ rule :: after) rule.id = some rule := by
  have hafter : after.reverse.find? (·.id == rule.id) = none := by
    rw [List.find?_eq_none]
    intro other ho
    rw [beq_iff_eq]
    exact hlast other (List.mem_reverse.mp ho)
  rw [lastById?, byId?, List.reverse_append, List.reverse_cons, List.append_assoc,
    List.find?_append, hafter, Option.none_or]
  exact List.find?_cons_of_pos (beq_self_eq_true rule.id)

theorem Rule.lastById?_eq_none {id : String} (h : ∀ rule ∈ rules, rule.id ≠ id) :
    lastById? rules id = none := by
  rw [lastById?, byId?, List.find?_eq_none]
  intro rule hr
  rw [beq_iff_eq]
  exact h rule (List.mem_reverse.mp hr)

/-- A result tells what a finding says, with the name and the severity of its rule: the last of the
rules that has the identifier. Of a rule that is not there any more the name is empty. -/
structure ResourceResult.Tells (rules : List Rule) (f : Finding) (result : ResourceResult) :
    Prop where
  rule : result.ruleId = f.ruleId
  status : result.status = f.status
  detail : result.detail = some f.detail
  acknowledged : result.acknowledged = f.acknowledged
  named : ∀ before last after, rules = before ++ last :: after → last.id = f.ruleId →
    (∀ other ∈ after, other.id ≠ f.ruleId) →
    result.ruleName = last.name ∧ result.severity = last.severity
  unnamed : (∀ rule ∈ rules, rule.id ≠ f.ruleId) →
    result.ruleName = "" ∧ result.severity = .info

namespace ResourceEntry

theorem resultOf_tells (rules : List Rule) (f : Finding) :
    (resultOf rules f).Tells rules f where
  rule := rfl
  status := rfl
  detail := rfl
  acknowledged := rfl
  named := by
    rintro before last after rfl hid hlast
    rw [← hid] at hlast
    have hl : Rule.lastById? (before ++ last :: after) last.id = some last :=
      Rule.lastById?_of_split hlast
    rw [hid] at hl
    rw [resultOf, hl]
    exact ⟨rfl, rfl⟩
  unnamed := by
    intro h
    rw [resultOf, Rule.lastById?_eq_none h]
    exact ⟨rfl, rfl⟩

theorem resourceIds_firstSeen (findings : List Finding) :
    FirstSeen (findings.filterMap (·.resourceId)) (resourceIds findings) :=
  FirstSeen.nil.foldl _

theorem mem_resourceIds : r ∈ resourceIds findings ↔ ∃ f ∈ findings, f.resourceId = some r :=
  ((resourceIds_firstSeen findings).mem r).trans List.mem_filterMap

theorem map_resourceId_ofFindings (findings : List Finding) (rules : List Rule) (a : String)
    (now : Moment) (ids : IdSupply) :
    (ofFindings findings rules a now ids).1.map (·.resourceId) = resourceIds findings := by
  rw [ofFindings, IdSupply.map_label (k := fun r => r) fun _ _ => rfl, List.map_id_fun']
  rfl

theorem sum_countP_resourceIds (findings : List Finding) :
    ((resourceIds findings).map fun r => findings.countP (·.resourceId == some r)).sum =
      findings.countP (·.resourceId.isSome) := by
  have hids := resourceIds_firstSeen findings
  have hsum : ((resourceIds findings).map fun r =>
      ((findings.filterMap (·.resourceId)).countP (· == r) : Int)).sum =
        (findings.filterMap (·.resourceId)).length :=
    Table.sum_countP_key hids.distinct fun r hr => (hids.mem r).mpr hr
  have hcount (r : String) : (findings.filterMap (·.resourceId)).countP (· == r) =
      findings.countP (·.resourceId == some r) := by
    rw [List.countP_filterMap]
    refine List.countP_congr fun f _ => ?_
    cases f.resourceId <;> simp
  simp only [hcount, List.length_filterMap_eq_countP] at hsum
  rw [← Int.ofNat_inj, Nat.cast_list_sum, List.map_map]
  exact hsum

/-- Entries about some findings: one for each resource that a finding is about, in the order in
which the resources first come up; each with what the findings on its resource say, in their order.
-/
structure Partition (findings : List Finding) (rules : List Rule) (entries : List ResourceEntry) :
    Prop where
  resources : FirstSeen (findings.filterMap (·.resourceId)) (entries.map (·.resourceId))
  results : ∀ e ∈ entries, List.Forall₂ (ResourceResult.Tells rules)
    (findings.filter (·.resourceId == some e.resourceId)) e.results
  total : (entries.map (·.results.length)).sum = findings.countP (·.resourceId.isSome)

/-- The entries that a run appends tell all that its findings say about resources, the acknowledged
ones included, and nothing else. -/
theorem ofFindings_partition (findings : List Finding) (rules : List Rule) (a : String)
    (now : Moment) (ids : IdSupply) :
    Partition findings rules (ofFindings findings rules a now ids).1 where
  resources := by
    rw [map_resourceId_ofFindings]
    exact resourceIds_firstSeen findings
  results := by
    intro e he
    obtain ⟨id, r, -, rfl⟩ := IdSupply.mem_label he
    rw [List.forall₂_map_right_iff, List.forall₂_same]
    exact fun f _ => resultOf_tells rules f
  total := by
    have hlength : (ofFindings findings rules a now ids).1.map (·.results.length) =
        (resourceIds findings).map fun r => findings.countP (·.resourceId == some r) := by
      apply IdSupply.map_label
      intro id r
      rw [List.length_map, List.countP_eq_length_filter]
    rw [hlength, sum_countP_resourceIds]

end ResourceEntry

end CloudAudit
