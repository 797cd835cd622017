import CloudAudit.Proofs.Model.Ledger
import CloudAudit.Proofs.Service.Evaluation
import CloudAudit.Proofs.Store.Findings

namespace CloudAudit

open Time (Moment)

variable {σ : Type}

/-- An action on a service, with the time on the clock where it is noted down. -/
inductive Action (σ : Type) where
  | evaluate (p : Pipeline σ) (accountId : String) (now : Moment)
  | acknowledge (findingId : String) (note author : Option String) (now : Moment)
  | unacknowledge (findingId : String)
  | addNote (findingId text : String) (author : Option String) (now : Moment)
  | deleteNote (noteId : String)
  | toggleRule (accountId ruleId : String) (isActive : Bool) (now : Moment)
  | applyProfile (accountId profileId : String) (now : Moment)
  | registerRules (accountId : String) (rules : List Rule)

namespace Service

/-- Takes over the store that a change results in; a refused change leaves all as it is. -/
def adopt {α : Type} (s : Service σ) : Except StoreFault (α × Store) → Service σ
  | .ok (_, store) => { s with store }
  | .error _ => s

def perform (s : Service σ) : Action σ → Service σ
  | .evaluate p a now => (s.evaluate p a now).2
  | .acknowledge id note author now => s.adopt (s.store.acknowledge id note author now)
  | .unacknowledge id => s.adopt (s.store.unacknowledge id)
  | .addNote id text author now =>
    { s with ids := s.ids.advance }.adopt (s.store.addNote id text author s.ids.peek now)
  | .deleteNote id => s.adopt ((s.store.deleteNote id).map ((), ·))
  | .toggleRule a id isActive now => s.adopt (s.store.toggleRule a id isActive now)
  | .applyProfile a id now => s.adopt (s.store.applyProfile a id now)
  | .registerRules a rules => { s with store := (s.store.registerRules a rules).2 }

/-- The service after some actions, the first one first. -/
def performAll (s : Service σ) (acts : List (Action σ)) : Service σ := acts.foldl perform s

/-- The states of a service that starts without findings. -/
inductive Reachable : Service σ → Prop
  | start {s : Service σ} : s.store.findings = [] → Reachable s
  | act {s : Service σ} (act : Action σ) : Reachable s → Reachable (s.perform act)

/-- A condition that holds of each of some actions in the state in which it is taken. -/
def Along (P : Service σ → Action σ → Prop) : Service σ → List (Action σ) → Prop
  | _, [] => True
  | s, act :: acts => P s act ∧ Along P (s.perform act) acts

instance decidableAlong {P : Service σ → Action σ → Prop} [∀ s, DecidablePred (P s)] :
    (s : Service σ) → (acts : List (Action σ)) → Decidable (Along P s acts)
  | _, [] => inferInstanceAs (Decidable True)
  | s, act :: acts =>
    have := decidableAlong (P := P) (s.perform act) acts
    inferInstanceAs (Decidable (P s act ∧ Along P (s.perform act) acts))

/-- The finding that an action acknowledges, or whose acknowledgement it takes back, as the action
leaves it. -/
def revised? (s : Service σ) : Action σ → Option Finding
  | .acknowledge id note author now =>
    (s.store.finding id).toOption.map (·.acknowledge note author now)
  | .unacknowledge id => (s.store.finding id).toOption.map (·.unacknowledge)
  | _ => none

/-- What an action does to findings. -/
inductive FindingsChange (s : Service σ) (act : Action σ) : Prop
  | nothing : (s.perform act).store.findings = s.store.findings → FindingsChange s act
  | revision {f : Finding} {ack : Option Acknowledgement} {before after : List Finding} :
    s.revised? act = some (f.withAcknowledgement ack) →
    s.store.findingsOf f.accountId = before ++ f :: after →
    (s.perform act).store.findings = (s.store.replaceFindings f.accountId
      (before ++ f.withAcknowledgement ack :: after)).findings → FindingsChange s act
  | run {p : Pipeline σ} {a : String} {now : Moment} {found : List Finding} :
    act = .evaluate p a now → (∀ f ∈ found, f.accountId = a) →
    (s.perform act).store.findings = (s.store.replaceFindings a
      ((Ledger.capture (s.store.findingsOf a)).restamp found)).findings → FindingsChange s act

variable {s : Service σ} {p : Pipeline σ} {a : String} {now : Moment} {act : Action σ}
  {acts : List (Action σ)}

theorem Reachable.performAll (h : s.Reachable) (acts : List (Action σ)) :
    (s.performAll acts).Reachable := by
  induction acts generalizing s with
  | nil => exact h
  | cons act acts ih => exact ih (h.act act)

/-- What every action keeps under a condition is kept by actions along which the condition holds. -/
theorem performAll_induction {P : Service σ → Action σ → Prop} {Inv : Service σ → Prop}
    (step : ∀ s act, P s act → Inv s → Inv (s.perform act)) (hs : Inv s) (h : Along P s acts) :
    Inv (s.performAll acts) := by
  induction acts generalizing s with
  | nil => exact hs
  | cons act acts ih => exact ih (step s act h.1 hs) h.2

theorem record_findings {report : Report} {s₁ : Service σ} (h : Unrecorded s s₁)
    (ha : report.accountId = a) :
    (record report s₁).2.2.store.findings = (s.store.replaceFindings a
      ((Ledger.capture (s.store.findingsOf a)).restamp report.findings)).findings := by
  subst ha
  change (s₁.store.replaceFindings report.accountId _).findings = _
  rw [h.store]
  rfl

theorem evaluate_findings (p : Pipeline σ) (a : String) (now : Moment) (s : Service σ) :
    FindingsChange s (.evaluate p a now) := by
  cases hs : s.isHeld a with
  | true =>
    refine .nothing ?_
    rw [perform, evaluate_of_held p now hs]
  | false =>
    have he : s.perform (.evaluate p a now) = (evaluateHeld p a now s).2 := by
      rw [perform, evaluate_of_not_held p now hs]
    obtain ⟨-, -, -, -, hu⟩ | ⟨report, s₁, hof, hu, hstore, -⟩ := evaluateHeld_cases p a now s
    · refine .nothing ?_
      rw [he, hu.store]
    · refine .run rfl hof.owner ?_
      rw [he, hstore, record_findings hu hof.account]

theorem adopt_cases {α : Type} {result : Except StoreFault (α × Store)} {P : Store → Prop}
    (hs : P s.store) (h : ∀ {r}, result = .ok r → P r.2) : P (s.adopt result).store := by
  cases result with
  | error f => exact hs
  | ok r => exact h rfl

theorem adopt_findings {α : Type} {result : Except StoreFault (α × Store)}
    (h : ∀ {r}, result = .ok r → r.2.findings = s.store.findings) :
    (s.adopt result).store.findings = s.store.findings := by
  exact adopt_cases (P := fun store => store.findings = s.store.findings) rfl h

theorem revision_findings (h : s.store.FindingsFiled) (id : String) (ack : Option Acknowledgement)
    (hr : s.revised? act = (s.store.finding id).toOption.map (·.withAcknowledgement ack))
    (hp : s.perform act = s.adopt (do
      let f := (← s.store.finding id).withAcknowledgement ack
      return (f, ← s.store.updateFinding f))) : FindingsChange s act := by
  cases hf : s.store.finding id with
  | error e =>
    rw [hf] at hp
    exact .nothing (congrArg (·.store.findings) hp)
  | ok f =>
    obtain ⟨before, after, hs, hu⟩ := Store.updateFinding_withAcknowledgement h hf ack
    rw [hf] at hr
    refine .revision hr hs ?_
    rw [hp, hf]
    change (s.adopt (do return (_, ← s.store.updateFinding _))).store.findings = _
    rw [hu]
    rfl

theorem perform_findings (h : s.store.FindingsFiled) (act : Action σ) : FindingsChange s act := by
  cases act with
  | evaluate p a now => exact evaluate_findings p a now s
  | acknowledge id note author now => exact revision_findings h id _ rfl rfl
  | unacknowledge id => exact revision_findings h id none rfl rfl
  | addNote id text author now => exact .nothing (adopt_findings Store.addNote_findings)
  | deleteNote id =>
    refine .nothing (adopt_findings fun h => ?_)
    obtain ⟨store, hs, rfl⟩ := Result.map_eq_ok.mp h
    exact Store.deleteNote_findings hs
  | toggleRule b id isActive now => exact .nothing (adopt_findings Store.toggleRule_findings)
  | applyProfile b id now => exact .nothing (adopt_findings Store.applyProfile_findings)
  | registerRules b rules =>
    refine .nothing ?_
    rw [perform, Store.registerRules_store]

theorem perform_findingsFiled (h : s.store.FindingsFiled) (act : Action σ) :
    (s.perform act).store.FindingsFiled := by
  cases perform_findings h act with
  | nothing he => exact h.of_findings he
  | @revision f ack before after hr hs he =>
    refine (h.replaceFindings ?_).of_findings he
    intro g hg
    obtain rfl | hg := Table.mem_of_mem_replaced hg f
    · rfl
    · exact h.owner_of_mem (hs ▸ hg)
  | run ha ho he =>
    refine (h.replaceFindings ?_).of_findings he
    intro g hg
    obtain ⟨g, hm, rfl⟩ := Ledger.mem_restamp hg
    exact ho g hm

theorem Reachable.findingsFiled (h : s.Reachable) : s.store.FindingsFiled := by
  induction h with
  | start h => constructor <;> rw [h] <;> simp
  | act act _ ih => exact perform_findingsFiled ih act

end Service

end CloudAudit
