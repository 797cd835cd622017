import CloudAudit.Proofs.Service.Action

namespace CloudAudit

open Time (Moment)

variable {σ : Type}

/-- An action adds or deletes a note. -/
inductive Action.IsNoting : Action σ → Prop
  | add (id text : String) (author : Option String) (now : Moment) :
    IsNoting (.addNote id text author now)
  | delete (id : String) : IsNoting (.deleteNote id)

namespace Service

variable {s : Service σ} {act : Action σ}

/-- What an action writes in the store. -/
inductive Writes (s : Service σ) (act : Action σ) : Prop
  | run {p : Pipeline σ} {a : String} {now : Moment} : act = .evaluate p a now → Writes s act
  | rules {rules : List Rule} {overrides : List Override} :
    (s.perform act).store = { s.store with rules, overrides } → Writes s act
  | findings {findings : List (String × List Finding)} :
    (s.perform act).store = { s.store with findings } → Writes s act
  | notes {notes : List Note} : act.IsNoting →
    (s.perform act).store = { s.store with notes } → Writes s act

theorem revision_store (ack : Finding → Option Acknowledgement) (id : String) :
    ∃ findings, (s.adopt (do
      let f ← s.store.finding id
      let f := f.withAcknowledgement (ack f)
      return (f, ← s.store.updateFinding f))).store = { s.store with findings } := by
  refine adopt_cases (P := fun store => ∃ findings, store = { s.store with findings }) ⟨_, rfl⟩ ?_
  intro r h
  obtain ⟨f, -, h⟩ := Result.bind_eq_ok.mp h
  obtain ⟨store, hu, h⟩ := Result.bind_eq_ok.mp h
  cases h
  exact ⟨_, Store.updateFinding_ok hu⟩

theorem perform_writes (s : Service σ) (act : Action σ) : Writes s act := by
  cases act with
  | evaluate p a now => exact .run rfl
  | acknowledge id note author now =>
    obtain ⟨findings, h⟩ := revision_store (s := s) _ id
    exact .findings h
  | unacknowledge id =>
    obtain ⟨findings, h⟩ := revision_store (s := s) (fun _ => none) id
    exact .findings h
  | addNote id text author now =>
    cases h : s.store.addNote id text author s.ids.peek now with
    | error f => exact .notes (.add id text author now) (by rw [perform, h]; rfl)
    | ok r =>
      obtain ⟨f, n, -, -, rfl⟩ := Store.addNote_ok h
      exact .notes (.add id text author now) (by rw [perform, h]; rfl)
  | deleteNote id =>
    cases h : s.store.deleteNote id with
    | error f => exact .notes (.delete id) (by rw [perform, h]; rfl)
    | ok store => exact .notes (.delete id) (by rw [perform, h, Store.deleteNote_ok h]; rfl)
  | toggleRule b id isActive now =>
    cases h : s.store.toggleRule b id isActive now with
    | error f => exact .rules (by rw [perform, h]; rfl)
    | ok r =>
      obtain ⟨rule, -, -, -, -, he⟩ := Store.toggleRule_ok h
      exact .rules (by rw [perform, h, adopt, he]; rfl)
  | applyProfile b id now =>
    cases h : s.store.applyProfile b id now with
    | error f => exact .rules (by rw [perform, h]; rfl)
    | ok r =>
      obtain ⟨profile, -, -, he⟩ := Store.applyProfile_ok h
      exact .rules (by rw [perform, h, adopt, he]; rfl)
  | registerRules b rules => exact .rules (Store.registerRules_store s.store b rules)

theorem evaluate_notes (p : Pipeline σ) (a : String) (now : Moment) (s : Service σ) :
    (s.evaluate p a now).2.store.notes = s.store.notes := by
  cases hs : s.isHeld a with
  | true => rw [evaluate_of_held p now hs]
  | false =>
    rw [evaluate_of_not_held p now hs]
    obtain ⟨-, -, -, -, hu⟩ | ⟨report, s₁, -, hu, hstore, -⟩ := evaluateHeld_cases p a now s
    · rw [hu.store]
    · rw [hstore]
      change s₁.store.notes = s.store.notes
      rw [hu.store]

theorem perform_notes (hact : ¬ act.IsNoting) :
    (s.perform act).store.notes = s.store.notes := by
  cases perform_writes s act with
  | run h =>
    subst h
    exact evaluate_notes _ _ _ s
  | rules h => rw [h]
  | findings h => rw [h]
  | notes hnoting => exact absurd hnoting hact

theorem perform_histories (hact : ∀ p a now, act ≠ .evaluate p a now) :
    (s.perform act).store.scores = s.store.scores ∧
      (s.perform act).store.resourceEntries = s.store.resourceEntries := by
  cases perform_writes s act with
  | run h => exact absurd h (hact _ _ _)
  | rules h => rw [h]; exact ⟨rfl, rfl⟩
  | findings h => rw [h]; exact ⟨rfl, rfl⟩
  | notes _ h => rw [h]; exact ⟨rfl, rfl⟩

end Service

end CloudAudit
