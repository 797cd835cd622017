import CloudAudit.Proofs.Service.Action
import CloudAudit.Proofs.Store.Isolation

namespace CloudAudit

open Time (Moment)

variable {σ : Type}

namespace Service

variable {s s₁ : Service σ} {a b : String} {act : Action σ} {acts : List (Action σ)}

/-- An action is addressed to an account: it names the account, or a finding or a note that belongs
to no other account. A note that it adds gets an identifier of its own. -/
def AddressedTo (a : String) (s : Service σ) : Action σ → Prop
  | .evaluate _ b _ | .toggleRule b _ _ _ | .applyProfile b _ _ | .registerRules b _ => b = a
  | .acknowledge id _ _ _ | .unacknowledge id => ∀ f, s.store.finding id = .ok f → f.accountId = a
  | .addNote id _ _ _ =>
    (∀ f, s.store.finding id = .ok f → f.accountId = a) ∧ ∀ n ∈ s.store.notes, n.id ≠ s.ids.peek
  | .deleteNote id => ∀ n ∈ s.store.notes, n.id = id → n.accountId = a

theorem record_sameBut {report : Report} (s : Service σ) (h : report.accountId = a) :
    Store.SameBut a s.store (record report s).2.2.store := by
  subst h
  dsimp only [record]
  refine .trans ?_ (Store.appendResourceEntries_sameBut _ _ _)
  refine .trans ?_ (Store.appendScore_sameBut rfl)
  exact (Store.replaceFindings_sameBut _ _ _).trans (Store.putLastRun_sameBut _ _ _)

theorem evaluate_sameBut (p : Pipeline σ) (a : String) (now : Moment) (s : Service σ) :
    Store.SameBut a s.store (s.evaluate p a now).2.store := by
  cases hs : s.isHeld a with
  | true =>
    rw [evaluate_of_held p now hs]
    exact .refl a s.store
  | false =>
    rw [evaluate_of_not_held p now hs]
    obtain ⟨rules, hg⟩ := gather_store p a s
    have hrules : (evaluateHeld p a now s).2.store.rules.filter (·.accountId != some a) =
        s.store.rules.filter (·.accountId != some a) := by
      rw [evaluateHeld_rules, hg]
      exact (Store.registerRules_sameBut s.store a rules).rules
    obtain ⟨-, -, -, -, hu⟩ | ⟨report, s₁, hof, hu, hstore, -⟩ := evaluateHeld_cases p a now s
    · rw [hu.store] at hrules ⊢
      exact { Store.SameBut.refl a s.store with rules := hrules }
    · have h := record_sameBut s₁ hof.account
      rw [hstore] at hrules ⊢
      rw [hu.store] at h
      exact { h with rules := hrules }

theorem adopt_sameBut {α : Type} {result : Except StoreFault (α × Store)}
    (h : ∀ {r}, result = .ok r → Store.SameBut a s.store r.2) :
    Store.SameBut a s.store (s.adopt result).store := by
  exact adopt_cases (P := Store.SameBut a s.store) (.refl a s.store) h

theorem revision_sameBut {id : String} (ack : Finding → Option Acknowledgement)
    (hf : ∀ f, s.store.finding id = .ok f → f.accountId = a) :
    Store.SameBut a s.store (s.adopt (do
      let f ← s.store.finding id
      let f := f.withAcknowledgement (ack f)
      return (f, ← s.store.updateFinding f))).store := by
  refine adopt_sameBut fun h => ?_
  obtain ⟨f, hid, h⟩ := Result.bind_eq_ok.mp h
  obtain ⟨store, hu, h⟩ := Result.bind_eq_ok.mp h
  cases h
  exact Store.updateFinding_sameBut (f := f.withAcknowledgement (ack f)) (hf f hid) hu

theorem perform_sameBut (h : AddressedTo a s act) :
    Store.SameBut a s.store (s.perform act).store := by
  cases act with
  | evaluate p b now =>
    cases h
    exact evaluate_sameBut p a now s
  | acknowledge id note author now => exact revision_sameBut _ h
  | unacknowledge id => exact revision_sameBut (fun _ => none) h
  | addNote id text author now =>
    exact adopt_sameBut (s := { s with ids := s.ids.advance }) (Store.addNote_sameBut h.1 h.2)
  | deleteNote id =>
    refine adopt_sameBut fun hd => ?_
    obtain ⟨store, hs, rfl⟩ := Result.map_eq_ok.mp hd
    exact Store.deleteNote_sameBut h hs
  | toggleRule b id isActive now =>
    cases h
    exact adopt_sameBut Store.toggleRule_sameBut
  | applyProfile b id now =>
    cases h
    exact adopt_sameBut Store.applyProfile_sameBut
  | registerRules b rules =>
    cases h
    exact Store.registerRules_sameBut s.store a rules

/-- Actions that are addressed to one account, whether they succeed or fail, leave to every other
account its findings, overrides, scores, notes, last run and rules, and in the catalogue all rules
but those of the one account. -/
theorem performAll_isolates (h : Along (AddressedTo a) s acts) :
    (∀ b, b ≠ a →
      (s.performAll acts).store.findingsOf b = s.store.findingsOf b ∧
      (s.performAll acts).store.overridesOf b = s.store.overridesOf b ∧
      (∀ limit, (s.performAll acts).store.scoreHistory b limit = s.store.scoreHistory b limit) ∧
      (s.performAll acts).store.notesOf b = s.store.notesOf b ∧
      (s.performAll acts).store.lastRun? b = s.store.lastRun? b ∧
      (s.performAll acts).store.accountRules b = s.store.accountRules b) ∧
    (s.performAll acts).store.rules.filter (·.accountId != some a) =
      s.store.rules.filter (·.accountId != some a) := by
  have hs : Store.SameBut a s.store (s.performAll acts).store :=
    performAll_induction (fun _ _ hact hs' => Store.SameBut.trans hs' (perform_sameBut hact))
      (.refl a s.store) h
  refine ⟨fun b hb => ?_, hs.rules⟩
  exact ⟨hs.findings b hb, hs.overridesOf hb, hs.scoreHistory hb, hs.notesOf hb, hs.lastRuns b hb,
    hs.accountRules hb⟩

/-- One account loses a note, acknowledges a finding, fails to register a rule under a global
identifier, switches the global rule off and is evaluated; the other has a rule, a finding and a
note. -/
theorem performAll_isolates_clashing_rule :
    let rule (id : String) (owner : Option String) : Rule :=
      ⟨id, id, "", ["linode"], "has_tags", [], .warning, true, owner, false⟩
    let now : Moment := ⟨2026, 3, 1, 9, 0, 0, 0, some 0⟩
    let finding (id owner : String) : Finding :=
      { id, ruleId := "g", accountId := owner, status := .compliant, detail := ""
        evaluatedAt := now }
    let note (id owner : String) : Note :=
      { id, findingId := owner, accountId := owner, ruleId := "g", text := "x", createdAt := now }
    let p : Pipeline Unit := {
      inventory := InventoryTable.source ⟨[("a", [])], [], [("a", [rule "y" (some "a")])]⟩
      factory := fun _ outside => (.ok none, outside) }
    let s : Service Unit := {
      store := {
        rules := [rule "g" none, rule "z" (some "b")]
        findings := [("b", [finding "fb" "b"]), ("a", [finding "fa" "a"])]
        notes := [note "nb" "b", note "na" "a"] }
      outside := () }
    let acts : List (Action Unit) := [.deleteNote "na", .acknowledge "fa" none none now,
      .registerRules "a" [rule "x" (some "a"), rule "g" (some "a"), rule "w" (some "a")],
      .toggleRule "a" "g" false now, .evaluate p "a" now]
    Along (AddressedTo "a") s acts ∧
      (s.performAll acts).store.rules.map (·.id) = ["g", "z", "x", "y"] ∧
      (s.performAll acts).store.notes = [note "nb" "b"] ∧
      (s.performAll acts).store.findingsOf "a" = [] ∧
      (s.performAll acts).store.accountRules "b" = s.store.accountRules "b" := by
  intro rule now finding note p s acts
  have hna : ∀ n ∈ s.store.notes, n.id = "na" → n.accountId = "a" := by decide +kernel
  have hfa : (s.perform (.deleteNote "na")).store.finding "fa" = .ok (finding "fa" "a") := rfl
  have hact : Along (AddressedTo "a") s acts := by
    refine ⟨hna, ?_, rfl, rfl, rfl, trivial⟩
    intro f hf
    cases hfa.symm.trans hf
    rfl
  exact ⟨hact, by decide +kernel, by decide +kernel, by decide +kernel,
    ((performAll_isolates hact).1 "b" (by decide)).2.2.2.2.2⟩

end Service

end CloudAudit
