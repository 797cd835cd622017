import CloudAudit.Proofs.Service.Action
import CloudAudit.Proofs.Store.Revision

namespace CloudAudit

open Time (Moment)

variable {σ : Type}

namespace Service

/-- Identifiers of findings are new where a run gives them out. After it the findings of the account
have distinct ones, and each is of a finding that was there before or else not of any. -/
def FreshFindings (s : Service σ) : Action σ → Prop
  | .evaluate p a now =>
    (((s.evaluate p a now).2.store.findingsOf a).map Finding.id).Nodup ∧
      ∀ f ∈ (s.evaluate p a now).2.store.findingsOf a, f ∈ s.store.findingsOf a ∨
        ∀ entry ∈ s.store.findings, ∀ g ∈ entry.2, g.id ≠ f.id
  | _ => True

instance (s : Service σ) : DecidablePred s.FreshFindings
  | .evaluate .. => inferInstanceAs (Decidable (_ ∧ _))
  | .acknowledge .. | .unacknowledge _ | .addNote .. | .deleteNote _ | .toggleRule ..
  | .applyProfile .. | .registerRules .. => inferInstanceAs (Decidable True)

variable {s : Service σ} {act : Action σ} {acts : List (Action σ)} {a : String} {f : Finding}

theorem addressable_start (h : s.store.findings = []) : s.store.Addressable where
  filed := (Reachable.start h).findingsFiled
  ids := by
    intro a
    rw [Store.findingsOf, h]
    exact .nil
  apart := by
    intro a b f hf
    rw [Store.findingsOf, h] at hf
    cases hf
  blank := by
    intro a f hf
    rw [Store.findingsOf, h] at hf
    cases hf

theorem addressable_perform (hact : FreshFindings s act) (h : s.store.Addressable) :
    (s.perform act).store.Addressable := by
  cases perform_findings h.filed act with
  | nothing he => exact h.of_findings he
  | @revision f ack before after _ hs he => exact (h.revise hs ack).of_findings he
  | @run p a now found hrun ho he =>
    subst hrun
    obtain ⟨hids, hnew⟩ := hact
    have hrows : (s.evaluate p a now).2.store.findingsOf a =
        (Ledger.capture (s.store.findingsOf a)).restamp found := by
      have hof := Store.findingsOf_congr (a := a) he
      rwa [Store.findingsOf_replaceFindings, if_pos rfl] at hof
    rw [hrows] at hids hnew
    refine (h.replace ?_ hids ?_ ?_).of_findings he
    · intro f hf
      obtain ⟨g, hg, rfl⟩ := Ledger.mem_restamp hf
      exact ho g hg
    · intro f hf
      obtain hold | hno := hnew f hf
      · exact .inl ⟨f, hold, rfl⟩
      · refine .inr fun b g hg => ?_
        obtain ⟨rows, hmem, hg⟩ := Store.mem_findingsOf hg
        exact hno _ hmem g hg
    · intro f hf
      obtain ⟨g, -, rfl⟩ := Ledger.mem_restamp hf
      exact Finding.unacknowledge_withAcknowledgement

/-- In a service that starts without findings, each finding that is listed for an account is the one
under its identifier and can be acknowledged; that changes nothing else, and taking it back restores
all if the finding was not acknowledged before. -/
theorem performAll_inReach (hstart : s.store.findings = []) (hacts : Along FreshFindings s acts)
    (hf : f ∈ (s.performAll acts).store.findingsOf a) :
    (s.performAll acts).store.InReach a f := by
  have h := performAll_induction (fun _ _ => addressable_perform) (addressable_start hstart) hacts
  exact h.inReach hf

/-- Two accounts are evaluated, one finding is acknowledged, and its account is evaluated again. -/
theorem performAll_inReach_two_accounts :
    let rule : Rule := ⟨"t", "T", "", [], "tfa_users", [], .warning, true, none, false⟩
    let p : Pipeline Unit := {
      inventory := InventoryTable.source ⟨[("a", []), ("b", [])], [], []⟩
      factory := fun _ outside => (.ok none, outside) }
    let now : Moment := ⟨2026, 3, 1, 9, 0, 0, 0, some 0⟩
    let s : Service Unit := { store := .ofCatalogue [rule] [], outside := () }
    let acts : List (Action Unit) := [.evaluate p "a" now, .evaluate p "b" now,
      .acknowledge "00000000-0000-0000-0000-000000000001" (some " known ") none now,
      .evaluate p "a" now]
    Along FreshFindings s acts ∧
      ((s.performAll acts).store.findingsOf "a").map (·.acknowledged) = [true] ∧
      ((s.performAll acts).store.findingsOf "b").map (·.acknowledged) = [false] ∧
      ∀ a ∈ ["a", "b"], ∀ f ∈ (s.performAll acts).store.findingsOf a,
        (s.performAll acts).store.InReach a f := by
  intro rule p now s acts
  have hacts : Along FreshFindings s acts := by decide +kernel
  exact ⟨hacts, by decide +kernel, by decide +kernel, fun _ _ _ hf =>
    performAll_inReach rfl hacts hf⟩

end Service

end CloudAudit
