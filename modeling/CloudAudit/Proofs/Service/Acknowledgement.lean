import CloudAudit.Proofs.Service.Action

namespace CloudAudit

open Time (Moment)

variable {σ : Type}

namespace Service

variable {s : Service σ} {p : Pipeline σ} {a key : String} {now : Moment} {act : Action σ}
  {acts : List (Action σ)} {f g : Finding}

/-- An action changes what people say of a finding of the account under the key. -/
def Revises (a key : String) (s : Service σ) (act : Action σ) : Prop :=
  ∃ f, s.revised? act = some f ∧ f.accountId = a ∧ f.ledgerKey = key

/-- An action acknowledges a finding of the account under the key. -/
def Acknowledges (a key : String) (s : Service σ) (act : Action σ) : Prop :=
  ∃ f, s.revised? act = some f ∧ f.accountId = a ∧ f.ledgerKey = key ∧ f.acknowledged = true

/-- After an action that is a run of the account there is a finding under the key. -/
def Reproduces (a key : String) (s : Service σ) (act : Action σ) : Prop :=
  ∀ p now, act = .evaluate p a now → ∃ f ∈ (s.perform act).store.findingsOf a, f.ledgerKey = key

/-- What an action does to the findings of one account. -/
inductive AccountChange (s : Service σ) (act : Action σ) (a : String) : Prop
  | nothing : (s.perform act).store.findingsOf a = s.store.findingsOf a → AccountChange s act a
  | revision {f : Finding} {ack : Option Acknowledgement} {before after : List Finding} :
    s.revised? act = some (f.withAcknowledgement ack) → f.accountId = a →
    s.store.findingsOf a = before ++ f :: after →
    (s.perform act).store.findingsOf a = before ++ f.withAcknowledgement ack :: after →
    AccountChange s act a
  | run {p : Pipeline σ} {now : Moment} : act = .evaluate p a now →
    Finding.Carry (s.store.findingsOf a) ((s.perform act).store.findingsOf a) →
    AccountChange s act a

theorem perform_findingsOf (h : s.store.FindingsFiled) (act : Action σ) (a : String) :
    AccountChange s act a := by
  cases perform_findings h act with
  | nothing he => exact .nothing (Store.findingsOf_congr he)
  | @revision f ack before after hr hs he =>
    have he := Store.findingsOf_congr (a := a) he
    rw [Store.findingsOf_replaceFindings] at he
    by_cases ha : a = f.accountId
    · rw [if_pos ha] at he
      rw [← ha] at hs
      exact .revision hr ha.symm hs he
    · rw [if_neg ha] at he
      exact .nothing he
  | @run p b now found hact ho he =>
    have he := Store.findingsOf_congr (a := a) he
    rw [Store.findingsOf_replaceFindings] at he
    by_cases ha : a = b
    · subst ha
      rw [if_pos rfl] at he
      refine .run hact ?_
      rw [he]
      exact Ledger.restamp_capture_carry _ found
    · rw [if_neg ha] at he
      exact .nothing he

/-- A finding of an account is an old one, or one whose acknowledgement was just changed, or it is
from a run that carries the old ones on. -/
theorem mem_findingsOf_perform (h : s.store.FindingsFiled)
    (hf : f ∈ (s.perform act).store.findingsOf a) : f ∈ s.store.findingsOf a ∨
      s.revised? act = some f ∧ f.accountId = a ∨
      Finding.Carry (s.store.findingsOf a) ((s.perform act).store.findingsOf a) := by
  cases perform_findingsOf h act a with
  | nothing he => exact .inl (he ▸ hf)
  | @revision g ack before after hg ha hs he =>
    rw [he] at hf
    obtain rfl | hf := Table.mem_of_mem_replaced hf g
    · exact .inr (.inl ⟨hg, ha⟩)
    · exact .inl (hs ▸ hf)
  | run _ hc => exact .inr (.inr hc)

theorem Reproduces.perform (h : s.store.FindingsFiled) (hp : Reproduces a key s act)
    (hk : ∃ f ∈ s.store.findingsOf a, f.ledgerKey = key) :
    ∃ f ∈ (s.perform act).store.findingsOf a, f.ledgerKey = key := by
  cases perform_findingsOf h act a with
  | nothing he => rwa [he]
  | @revision g ack before after hg ha hs he =>
    rw [← List.mem_map, hs, List.map_append, List.map_cons] at hk
    rwa [← List.mem_map, he, List.map_append, List.map_cons]
  | run hact _ => exact hp _ _ hact

/-- Under its key people say of all findings of an account what they say of a given one. -/
structure Settled (a : String) (f : Finding) (s : Service σ) : Prop where
  filed : s.store.FindingsFiled
  present : ∃ g ∈ s.store.findingsOf a, g.ledgerKey = f.ledgerKey
  alike : ∀ g ∈ s.store.findingsOf a, g.ledgerKey = f.ledgerKey → g.AcknowledgedAlike f

theorem Settled.perform (hf : f.acknowledged = true) (h : Settled a f s)
    (hr : ¬ Revises a f.ledgerKey s act) (hp : Reproduces a f.ledgerKey s act) :
    Settled a f (s.perform act) := by
  refine ⟨perform_findingsFiled h.filed act, hp.perform h.filed h.present, ?_⟩
  intro g hg hkey
  obtain hg | ⟨hg, ha⟩ | hc := mem_findingsOf_perform h.filed hg
  · exact h.alike g hg hkey
  · exact absurd ⟨g, hg, ha, hkey⟩ hr
  · -- A finding under the key was acknowledged before, so the new one is, and like that one.
    obtain ⟨k, hk, hkf⟩ := h.present
    have hack := (hc.acknowledged g hg).mpr
      ⟨k, hk, (h.alike k hk hkf).acknowledged.trans hf, hkf.trans hkey.symm⟩
    obtain ⟨w, hw, hgw⟩ := hc.last g hg hack
    obtain ⟨hm, -, hwg⟩ := Finding.of_lastAcknowledged? hw
    exact hgw.trans (h.alike w hm (hwg.trans hkey))

/-- No finding of an account under a key is acknowledged. -/
structure Lapsed (a key : String) (s : Service σ) : Prop where
  filed : s.store.FindingsFiled
  blank : ∀ f ∈ s.store.findingsOf a, f.ledgerKey = key → f.acknowledged = false

theorem Lapsed.perform (h : Lapsed a key s) (hr : ¬ Acknowledges a key s act) :
    Lapsed a key (s.perform act) := by
  refine ⟨perform_findingsFiled h.filed act, ?_⟩
  intro f hf hkey
  obtain hf | ⟨hf, ha⟩ | hc := mem_findingsOf_perform h.filed hf
  · exact h.blank f hf hkey
  · exact Bool.eq_false_iff.mpr fun hack => hr ⟨f, hf, ha, hkey, hack⟩
  · refine Bool.eq_false_iff.mpr fun hack => ?_
    obtain ⟨g, hg, hga, hgk⟩ := (hc.acknowledged f hf).mp hack
    cases (h.blank g hg (hgk.trans hkey)).symm.trans hga

theorem evaluate_carry {summary : Summary} (h : (s.evaluate p a now).1 = .ok summary) :
    Finding.Carry (s.store.findingsOf a) ((s.evaluate p a now).2.store.findingsOf a) := by
  cases hs : s.isHeld a with
  | true =>
    rw [evaluate_of_held p now hs] at h
    cases h
  | false =>
    rw [evaluate_of_not_held p now hs] at h ⊢
    obtain ⟨f, hf, -⟩ | ⟨report, s₁, hof, hu, hstore, -⟩ := evaluateHeld_cases p a now s
    · cases hf.symm.trans h
    · rw [hstore, Store.findingsOf_congr (record_findings hu hof.account),
        Store.findingsOf_replaceFindings, if_pos rfl]
      exact Ledger.restamp_capture_carry _ _

/-- A run carries acknowledgements on by their keys. What is acknowledged then stays so unchanged
for as long as nobody revises it and runs keep coming up with its key; under a key that the run did
not come up with, nothing is acknowledged again before somebody does so. -/
theorem evaluate_carries_acknowledgements (hs : s.Reachable) {summary : Summary}
    (h : (s.evaluate p a now).1 = .ok summary) :
    Finding.Carry (s.store.findingsOf a) ((s.evaluate p a now).2.store.findingsOf a) ∧
    (∀ f ∈ (s.evaluate p a now).2.store.findingsOf a, f.acknowledged = true → ∀ acts,
      Along (fun s act => ¬ Revises a f.ledgerKey s act ∧ Reproduces a f.ledgerKey s act)
        (s.evaluate p a now).2 acts →
      (∃ g ∈ ((s.evaluate p a now).2.performAll acts).store.findingsOf a,
        g.ledgerKey = f.ledgerKey) ∧
      ∀ g ∈ ((s.evaluate p a now).2.performAll acts).store.findingsOf a,
        g.ledgerKey = f.ledgerKey → g.AcknowledgedAlike f) ∧
    ∀ key, (∀ f ∈ (s.evaluate p a now).2.store.findingsOf a, f.ledgerKey ≠ key) → ∀ acts,
      Along (fun s act => ¬ Acknowledges a key s act) (s.evaluate p a now).2 acts →
      ∀ f ∈ ((s.evaluate p a now).2.performAll acts).store.findingsOf a,
        f.ledgerKey = key → f.acknowledged = false := by
  have hc := evaluate_carry h
  have hfiled : (s.evaluate p a now).2.store.FindingsFiled :=
    perform_findingsFiled hs.findingsFiled (.evaluate p a now)
  refine ⟨hc, ?_, ?_⟩
  · intro f hf hack acts hacts
    have hset : Settled a f (s.evaluate p a now).2 :=
      ⟨hfiled, ⟨f, hf, rfl⟩, fun g hg hkey => hc.alike g hg f hf hkey⟩
    have hend := performAll_induction (fun _ _ hact h => h.perform hack hact.1 hact.2) hset hacts
    exact ⟨hend.present, hend.alike⟩
  · intro key hno acts hacts
    have hlapsed : Lapsed a key (s.evaluate p a now).2 :=
      ⟨hfiled, fun f hf hkey => absurd hkey (hno f hf)⟩
    exact (performAll_induction (fun _ _ hact h => h.perform hact) hlapsed hacts).blank

/-- The one finding of a first run is acknowledged, and so is that of the next run. -/
theorem evaluate_carries_acknowledgements_twice :
    let rule : Rule := ⟨"t", "T", "", [], "tfa_users", [], .warning, true, none, false⟩
    let p : Pipeline Unit := {
      inventory := InventoryTable.source ⟨[("a", [])], [], []⟩
      factory := fun _ outside => (.ok none, outside) }
    let now : Moment := ⟨2026, 3, 1, 9, 0, 0, 0, some 0⟩
    let first : Service Unit := { store := .ofCatalogue [rule] [], outside := () }
    let s := first.performAll [.evaluate p "a" now,
      .acknowledge "00000000-0000-0000-0000-000000000001" (some " known ") none now]
    s.Reachable ∧ (∃ summary, (s.evaluate p "a" now).1 = .ok summary) ∧
      (s.store.findingsOf "a").map (·.acknowledgedNote) = [some "known"] ∧
      ((s.evaluate p "a" now).2.store.findingsOf "a").map (·.acknowledgedNote) = [some "known"] ∧
      Finding.Carry (s.store.findingsOf "a") ((s.evaluate p "a" now).2.store.findingsOf "a") := by
  intro rule p now first s
  have hs : s.Reachable := (Reachable.start rfl).performAll _
  obtain ⟨summary, h⟩ := Result.of_isOk (x := (s.evaluate p "a" now).1) (by decide +kernel)
  exact ⟨hs, ⟨summary, h⟩, by decide +kernel, by decide +kernel,
    (evaluate_carries_acknowledgements hs h).1⟩

end Service

end CloudAudit
