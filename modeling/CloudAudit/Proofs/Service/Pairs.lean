import CloudAudit.Proofs.Model.LedgerKey
import CloudAudit.Proofs.Service.Acknowledgement

namespace CloudAudit

open Time (Moment)

variable {σ : Type}

namespace Finding

variable {f g : Finding} {old new : List Finding}

def pair (f : Finding) : Pair := ⟨f.ruleId, f.resourceId⟩

theorem ledgerKey_eq_iff : g.ledgerKey = f.ledgerKey ↔
    g.pair = f.pair ∨ g.pair.Clash f.pair ∨ f.pair.Clash g.pair :=
  Pair.key_eq_iff (p := g.pair) (q := f.pair)

/-- A finding whose pair has no colon in the rule's identifier and no resource without a name. -/
structure IsPlain (f : Finding) : Prop where
  rule : ':' ∉ f.ruleId.toList
  resource : f.resourceId ≠ some ""

theorem IsPlain.not_clash (hf : f.IsPlain) (hg : g.IsPlain) : ¬ f.pair.Clash g.pair := by
  intro h
  obtain h | h := h.marked
  · exact hf.rule h
  · exact hg.resource h

end Finding

namespace Service

variable {s : Service σ} {p : Pipeline σ} {a : String} {now : Moment} {summary : Summary}

/-- After a run that returns a summary a finding is acknowledged just where an acknowledged finding
before it was on the same rule and resource, or on a pair with which the new one clashes. So where
no finding has a colon in its rule's identifier or a resource without a name, an acknowledgement
stays with its rule and resource. -/
theorem evaluate_acknowledges (h : (s.evaluate p a now).1 = .ok summary) :
    (∀ f ∈ (s.evaluate p a now).2.store.findingsOf a, f.acknowledged = true ↔
      ∃ g ∈ s.store.findingsOf a, g.acknowledged = true ∧
        (g.pair = f.pair ∨ g.pair.Clash f.pair ∨ f.pair.Clash g.pair)) ∧
    ((∀ f ∈ (s.evaluate p a now).2.store.findingsOf a, f.IsPlain) →
      (∀ g ∈ s.store.findingsOf a, g.IsPlain) →
      ∀ f ∈ (s.evaluate p a now).2.store.findingsOf a, f.acknowledged = true →
        ∃ g ∈ s.store.findingsOf a, g.acknowledged = true ∧ g.ruleId = f.ruleId ∧
          g.resourceId = f.resourceId) := by
  have hack : ∀ f ∈ (s.evaluate p a now).2.store.findingsOf a, f.acknowledged = true ↔
      ∃ g ∈ s.store.findingsOf a, g.acknowledged = true ∧
        (g.pair = f.pair ∨ g.pair.Clash f.pair ∨ f.pair.Clash g.pair) := by
    intro f hf
    rw [(evaluate_carry h).acknowledged f hf]
    exact exists_congr fun g => and_congr_right fun _ => and_congr_right fun _ =>
      Finding.ledgerKey_eq_iff
  refine ⟨hack, ?_⟩
  intro hnew hold f hf hfa
  obtain ⟨g, hg, hga, he | hc | hc⟩ := (hack f hf).mp hfa
  · exact ⟨g, hg, hga, congrArg Pair.rule he, congrArg Pair.resource he⟩
  · exact ((hold g hg).not_clash (hnew f hf) hc).elim
  · exact ((hnew f hf).not_clash (hold g hg) hc).elim

/-- One of two plain findings of a rule is acknowledged, and so it is after the next run. -/
theorem evaluate_acknowledges_plain :
    let rule : Rule := ⟨"tags", "Tags", "", ["linode"], "has_tags", [], .warning, true, none, false⟩
    let p : Pipeline Unit := {
      inventory := InventoryTable.source
        ⟨[("a", [{ id := "x:1", type := "linode" }, { id := "y", type := "linode" }])], [], []⟩
      factory := fun _ outside => (.ok none, outside) }
    let now : Moment := ⟨2026, 3, 1, 9, 0, 0, 0, some 0⟩
    let first : Service Unit := { store := .ofCatalogue [rule] [], outside := () }
    let s := first.performAll [.evaluate p "a" now,
      .acknowledge "00000000-0000-0000-0000-000000000001" none none now]
    (∃ summary, (s.evaluate p "a" now).1 = .ok summary) ∧
      (∀ f ∈ (s.evaluate p "a" now).2.store.findingsOf "a", f.IsPlain) ∧
      (∀ g ∈ s.store.findingsOf "a", g.IsPlain) ∧
      ((s.evaluate p "a" now).2.store.findingsOf "a").map (·.acknowledged) = [true, false] ∧
      ∀ f ∈ (s.evaluate p "a" now).2.store.findingsOf "a", f.acknowledged = true →
        ∃ g ∈ s.store.findingsOf "a", g.acknowledged = true ∧ g.ruleId = f.ruleId ∧
          g.resourceId = f.resourceId := by
  intro rule p now first s
  obtain ⟨summary, h⟩ := Result.of_isOk (x := (s.evaluate p "a" now).1) (by decide +kernel)
  have hnew : ∀ f ∈ (s.evaluate p "a" now).2.store.findingsOf "a",
      ':' ∉ f.ruleId.toList ∧ f.resourceId ≠ some "" := by decide +kernel
  have hold : ∀ g ∈ s.store.findingsOf "a", ':' ∉ g.ruleId.toList ∧ g.resourceId ≠ some "" := by
    decide +kernel
  have hnew : ∀ f ∈ (s.evaluate p "a" now).2.store.findingsOf "a", f.IsPlain :=
    fun f hf => ⟨(hnew f hf).1, (hnew f hf).2⟩
  have hold : ∀ g ∈ s.store.findingsOf "a", g.IsPlain := fun g hg => ⟨(hold g hg).1, (hold g hg).2⟩
  exact ⟨⟨summary, h⟩, hnew, hold, by decide +kernel, (evaluate_acknowledges h).2 hnew hold⟩

/-- The finding of the rule `a` on `b:c` is acknowledged. The next run acknowledges the finding of
the rule `a:b` on `c`, which nobody has seen. -/
theorem evaluate_acknowledges_clash :
    let rule (id type : String) : Rule :=
      ⟨id, id, "", [type], "has_tags", [], .warning, true, none, false⟩
    let p : Pipeline Unit := {
      inventory := InventoryTable.source
        ⟨[("a", [{ id := "b:c", type := "linode" }, { id := "c", type := "volume" }])], [], []⟩
      factory := fun _ outside => (.ok none, outside) }
    let now : Moment := ⟨2026, 3, 1, 9, 0, 0, 0, some 0⟩
    let first : Service Unit :=
      { store := .ofCatalogue [rule "a" "linode", rule "a:b" "volume"] [], outside := () }
    let s := first.performAll [.evaluate p "a" now,
      .acknowledge "00000000-0000-0000-0000-000000000001" none (some "dana") now]
    s.Reachable ∧ (∃ summary, (s.evaluate p "a" now).1 = .ok summary) ∧
      ¬ ∀ f ∈ (s.evaluate p "a" now).2.store.findingsOf "a", f.acknowledged = true →
        ∃ g ∈ s.store.findingsOf "a", g.acknowledged = true ∧ g.ruleId = f.ruleId ∧
          g.resourceId = f.resourceId := by
  intro rule p now first s
  have hs : s.Reachable := (Reachable.start rfl).performAll _
  have hrun : ∃ summary, (s.evaluate p "a" now).1 = .ok summary :=
    Result.of_isOk (by decide +kernel)
  exact ⟨hs, hrun, by decide +kernel⟩

end Service

end CloudAudit
