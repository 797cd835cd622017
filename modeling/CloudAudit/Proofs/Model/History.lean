import CloudAudit.Model.History
import CloudAudit.Proofs.Table

namespace CloudAudit

variable {findings : List Finding} {rules : List Rule} {a id : String} {now : Time.Moment}

theorem StatusCounts.count_ofFindings (findings : List Finding) (s : Status) :
    (ofFindings findings).count s = findings.countP (·.status == s) := by
  cases s <;> rfl

theorem StatusCounts.length_eq (findings : List Finding) :
    ((ofFindings findings).compliant : Int) + (ofFindings findings).nonCompliant +
      (ofFindings findings).notApplicable = findings.length := by
  have hm : ∀ f ∈ findings, f.status ∈ Status.all := by
    intro f _
    cases f.status <;> decide
  have hn : Status.all.Nodup := by decide
  have h := Table.sum_countP_key hn hm
  simp only [Status.all, List.map_cons, List.map_nil, List.sum_cons, List.sum_nil, add_zero,
    ← add_assoc] at h
  exact h

theorem complianceScore_eq_none {compliant nonCompliant : Int} :
    complianceScore compliant nonCompliant = none ↔ compliant + nonCompliant = 0 := by
  simp only [complianceScore]
  split
  case isTrue h => exact iff_of_true rfl h
  case isFalse h => exact iff_of_false nofun h

def RuleBreakdown.count (b : RuleBreakdown) : Status → Int
  | .compliant => b.compliant
  | .nonCompliant => b.nonCompliant
  | .notApplicable => b.notApplicable

namespace ScoreEntry

def count (e : ScoreEntry) : Status → Int
  | .compliant => e.compliantCount
  | .nonCompliant => e.nonCompliantCount
  | .notApplicable => e.notApplicableCount

/-- The numbers of an entry are right about some findings and rules: acknowledged findings are
counted apart and nowhere else, and what the rules are counted for adds up to the whole. -/
structure Balanced (e : ScoreEntry) (findings : List Finding) (rules : List Rule) : Prop where
  results : e.totalResults = findings.countP (!·.acknowledged)
  partition : e.compliantCount + e.nonCompliantCount + e.notApplicableCount + e.acknowledgedCount =
    findings.length
  counts : ∀ s, e.count s = findings.countP fun f => f.status == s && !f.acknowledged
  listed : e.breakdown.map (fun b => (b.ruleId, b.ruleName, b.severity)) =
    rules.map fun r => (r.id, r.name, r.severity)
  ruleCounts : ∀ s, e.breakdown.map (·.count s) = rules.map fun r =>
    (findings.countP fun f => f.ruleId == r.id && (f.status == s && !f.acknowledged) : Int)
  sums : ∀ s, (e.breakdown.map (·.count s)).sum = e.count s
  score : e.score = none ↔ e.compliantCount + e.nonCompliantCount = 0
  opened : ofFindings e.id (findings.filter (!·.acknowledged)) rules e.accountId e.evaluatedAt =
    { e with acknowledgedCount := 0 }

theorem count_ofFindings (id : String) (findings : List Finding) (rules : List Rule) (a : String)
    (now : Time.Moment) (s : Status) : (ofFindings id findings rules a now).count s =
      findings.countP fun f => f.status == s && !f.acknowledged := by
  rw [← List.countP_filter, ← StatusCounts.count_ofFindings]
  cases s <;> rfl

theorem ruleCounts_ofFindings (id : String) (findings : List Finding) (rules : List Rule)
    (a : String) (now : Time.Moment) (s : Status) :
    (ofFindings id findings rules a now).breakdown.map (·.count s) = rules.map fun r =>
      (findings.countP fun f => f.ruleId == r.id && (f.status == s && !f.acknowledged) : Int) := by
  have hr (r : Rule) : (findings.countP fun f =>
      f.ruleId == r.id && (f.status == s && !f.acknowledged)) =
      (StatusCounts.ofFindings ((findings.filter (!·.acknowledged)).filter
        (·.ruleId == r.id))).count s := by
    rw [StatusCounts.count_ofFindings, List.filter_filter, List.countP_filter]
    refine List.countP_congr fun f _ => ?_
    rw [Bool.and_left_comm]
  simp only [hr, ofFindings, List.map_map]
  refine List.map_congr_left fun r _ => ?_
  cases s <;> rfl

theorem ofFindings_opened (id : String) (findings : List Finding) (rules : List Rule) (a : String)
    (now : Time.Moment) : ofFindings id (findings.filter (!·.acknowledged)) rules a now =
      { ofFindings id findings rules a now with acknowledgedCount := 0 } := by
  have hf : (findings.filter (!·.acknowledged)).filter (!·.acknowledged) =
      findings.filter (!·.acknowledged) := by
    rw [List.filter_filter]
    simp only [Bool.and_self]
  simp only [ofFindings, hf, Int.sub_self]

theorem ofFindings_balanced (hn : (rules.map Rule.id).Nodup)
    (hown : ∀ f ∈ findings, ∃ r ∈ rules, f.ruleId = r.id) :
    (ofFindings id findings rules a now).Balanced findings rules where
  results := by rw [List.countP_eq_length_filter]; rfl
  partition := by
    have h := StatusCounts.length_eq (findings.filter (!·.acknowledged))
    dsimp only [ofFindings]
    omega
  counts := count_ofFindings id findings rules a now
  listed := by
    rw [ofFindings, List.map_map]
    rfl
  ruleCounts := ruleCounts_ofFindings id findings rules a now
  sums := by
    intro s
    have hm : ∀ f ∈ findings.filter (fun f => f.status == s && !f.acknowledged),
        f.ruleId ∈ rules.map Rule.id := by
      intro f hf
      obtain ⟨r, hr, he⟩ := hown f (List.mem_filter.mp hf).1
      exact he ▸ List.mem_map_of_mem hr
    have h := Table.sum_countP_key hn hm
    rw [List.map_map] at h
    rw [ruleCounts_ofFindings, count_ofFindings, List.countP_eq_length_filter, ← h]
    simp only [List.countP_filter, Function.comp_def]
  score := complianceScore_eq_none
  opened := ofFindings_opened id findings rules a now

end ScoreEntry

end CloudAudit
