import Mathlib.Data.List.Infix
import CloudAudit.Proofs.Model.ResourceHistory
import CloudAudit.Proofs.Run.Transcript
import CloudAudit.Proofs.Service.Frame
import CloudAudit.Proofs.Time.Chronology

namespace CloudAudit

open Time (Moment Chronological)

variable {σ : Type}

namespace Store

variable {s : Store}

/-- Entries at times that can be compared are listed from the end of all, in the order of time. -/
theorem scoreHistory_cut (h : ∀ e ∈ s.scores, e.evaluatedAt.offset.isSome) (a : String) :
    ∃ sorted, Chronological ScoreEntry.evaluatedAt (s.scores.filter (·.accountId == a)) sorted ∧
      ∀ limit, ∃ latest, s.scoreHistory a limit = .ok latest ∧ latest <:+ sorted ∧
        latest.length = min limit.toNat sorted.length := by
  have hown : ∀ e ∈ s.scores.filter (·.accountId == a), e.evaluatedAt.offset.isSome :=
    fun e he => h e (List.mem_filter.mp he).1
  obtain ⟨sorted, hsort, hchron⟩ := Time.sortByMoment?_chronological hown
  refine ⟨sorted, hchron, ?_⟩
  intro limit
  refine ⟨sorted.drop (sorted.length - limit.toNat), ?_, List.drop_suffix _ _, ?_⟩
  · rw [scoreHistory, hsort]
  · rw [List.length_drop]
    omega

theorem resourceHistory_cut (h : ∀ e ∈ s.resourceEntries, e.evaluatedAt.offset.isSome)
    (r : String) :
    ∃ sorted, Chronological ResourceEntry.evaluatedAt
        (s.resourceEntries.filter (·.resourceId == r)) sorted ∧
      ∀ limit, ∃ earliest, s.resourceHistory r limit = .ok earliest ∧ earliest <+: sorted ∧
        earliest.length = min limit.toNat sorted.length := by
  have hown : ∀ e ∈ s.resourceEntries.filter (·.resourceId == r), e.evaluatedAt.offset.isSome :=
    fun e he => h e (List.mem_filter.mp he).1
  obtain ⟨sorted, hsort, hchron⟩ := Time.sortByMoment?_chronological hown
  refine ⟨sorted, hchron, ?_⟩
  intro limit
  refine ⟨sorted.take limit.toNat, ?_, List.take_prefix _ _, List.length_take⟩
  rw [resourceHistory, hsort]

end Store

namespace Service

def appended {α : Type} (rows : Store → List α) (s : Service σ) (act : Action σ) : List α :=
  (rows (s.perform act).store).drop (rows s.store).length

/-- All that some actions append to a history, the first action first. -/
def appendedAll {α : Type} (rows : Store → List α) : Service σ → List (Action σ) → List α
  | _, [] => []
  | s, act :: acts => appended rows s act ++ appendedAll rows (s.perform act) acts

/-- The account and the time of a run that succeeds. -/
def run? (s : Service σ) : Action σ → Option (String × Moment)
  | .evaluate p a now => (s.evaluate p a now).1.toOption.map fun _ => (a, now)
  | _ => none

/-- Runs are at times whose offset is known, and keep no reports. -/
def Dated (_ : Service σ) : Action σ → Prop
  | .evaluate p _ now => p.snapshotFolder = none ∧ now.offset.isSome
  | _ => True

/-- Entries of one run: one on the account, and one on each resource that the findings are about. -/
structure EntriesOf (a : String) (now : Moment) (findings : List Finding)
    (scores : List ScoreEntry) (entries : List ResourceEntry) : Prop where
  score : ∃ e, scores = [e] ∧ e.accountId = a ∧ e.evaluatedAt = now
  distinct : (entries.map (·.resourceId)).Nodup
  resources : ∀ r, r ∈ entries.map (·.resourceId) ↔ ∃ f ∈ findings, f.resourceId = some r
  labelled : ∀ e ∈ entries, e.accountId = a ∧ e.evaluatedAt = now

/-- An action leaves histories as they are, but for what is appended by a run that succeeds. -/
structure Extends (s : Service σ) (act : Action σ) : Prop where
  scores : (s.perform act).store.scores = s.store.scores ++ appended Store.scores s act
  resourceEntries : (s.perform act).store.resourceEntries =
    s.store.resourceEntries ++ appended Store.resourceEntries s act
  run : ∀ a now, s.run? act = some (a, now) → EntriesOf a now ((s.perform act).store.findingsOf a)
    (appended Store.scores s act) (appended Store.resourceEntries s act)
  idle : s.run? act = none →
    appended Store.scores s act = [] ∧ appended Store.resourceEntries s act = []

variable {α : Type} {rows : Store → List α} {s : Service σ} {act : Action σ}
  {acts : List (Action σ)} {p : Pipeline σ} {a : String} {now : Moment}

theorem appended_eq {new : List α} (h : rows (s.perform act).store = rows s.store ++ new) :
    appended rows s act = new := by
  rw [appended, h, List.drop_left]

theorem Extends.of_same (hrun : s.run? act = none)
    (hscores : (s.perform act).store.scores = s.store.scores)
    (hentries : (s.perform act).store.resourceEntries = s.store.resourceEntries) :
    Extends s act := by
  have hs : appended Store.scores s act = [] :=
    appended_eq (hscores.trans (List.append_nil _).symm)
  have he : appended Store.resourceEntries s act = [] :=
    appended_eq (hentries.trans (List.append_nil _).symm)
  refine ⟨?_, ?_, ?_, fun _ => ⟨hs, he⟩⟩
  · rw [hs, List.append_nil, hscores]
  · rw [he, List.append_nil, hentries]
  · intro a now h
    cases hrun.symm.trans h

theorem Extends.of_run {scores : List ScoreEntry} {entries : List ResourceEntry}
    (hrun : s.run? act = some (a, now))
    (hnew : EntriesOf a now ((s.perform act).store.findingsOf a) scores entries)
    (hscores : (s.perform act).store.scores = s.store.scores ++ scores)
    (hentries : (s.perform act).store.resourceEntries = s.store.resourceEntries ++ entries) :
    Extends s act := by
  have hs : appended Store.scores s act = scores := appended_eq hscores
  have he : appended Store.resourceEntries s act = entries := appended_eq hentries
  refine ⟨hs ▸ hscores, he ▸ hentries, ?_, ?_⟩
  · intro b time h
    cases hrun.symm.trans h
    rw [hs, he]
    exact hnew
  · intro h
    cases hrun.symm.trans h

theorem evaluate_ne_snapshotTime (hp : p.snapshotFolder = none) :
    (s.evaluate p a now).1 ≠ .error .snapshotTime := by
  intro h
  cases hs : s.isHeld a with
  | true =>
    rw [evaluate_of_held p now hs] at h
    cases h
  | false =>
    rw [evaluate_of_not_held p now hs] at h
    cases hg : gather p a s with
    | mk run s₁ =>
      cases run with
      | error f =>
        rw [evaluateHeld_of_inputFault hg] at h
        split at h <;> cases h
      | ok run =>
        cases hr : Run.run p.limits run.provider ⟨a, run.resources, now⟩ run.rules none s₁.ids
            s₁.outside with
        | mk result outside =>
          cases result with
          | error f =>
            rw [evaluateHeld_of_checkFault hg hr] at h
            cases h
          | ok r =>
            have hk (report : Report) (s : Service σ) : keep p report s = (.ok (), s) := by
              rw [keep, hp]
            rw [evaluateHeld_of_report hg hr] at h
            dsimp only at h
            rw [hk] at h
            cases h

theorem record_entries (report : Report) (s : Service σ) :
    ∃ scores entries, EntriesOf report.accountId report.evaluatedAt
        ((record report s).2.2.store.findingsOf report.accountId) scores entries ∧
      (record report s).2.2.store.scores = s.store.scores ++ scores ∧
      (record report s).2.2.store.resourceEntries = s.store.resourceEntries ++ entries := by
  have hids := ResourceEntry.map_resourceId_ofFindings (record report s).1 report.rules
    report.accountId report.evaluatedAt s.ids.advance
  refine ⟨[(record report s).2.1], (ResourceEntry.ofFindings (record report s).1 report.rules
    report.accountId report.evaluatedAt s.ids.advance).1, ⟨⟨_, rfl, rfl, rfl⟩, ?_, ?_, ?_⟩, rfl, rfl⟩
  · rw [hids]
    exact (ResourceEntry.resourceIds_firstSeen _).distinct
  · intro r
    rw [hids, record_findingsOf]
    exact ResourceEntry.mem_resourceIds
  · intro e he
    obtain ⟨id, r, -, rfl⟩ := IdSupply.mem_label he
    exact ⟨rfl, rfl⟩

theorem evaluate_extends (hp : p.snapshotFolder = none) : Extends s (.evaluate p a now) := by
  cases h : (s.evaluate p a now).1 with
  | error f =>
    have hu := Unrecorded.of_failure h fun hf => evaluate_ne_snapshotTime hp (hf ▸ h)
    refine .of_same ?_ ?_ ?_
    · rw [run?, h]
      rfl
    · rw [perform, hu.store]
    · rw [perform, hu.store]
  | ok summary =>
    obtain ⟨run, s₁, report, ids, outside, hg, hrun, hstore, -⟩ := evaluate_ok h
    have hu := gather_unrecorded p a s
    rw [hg] at hu
    obtain ⟨(hof : report.IsOf a now), -, -⟩ := Run.run_report (congrArg Prod.fst hrun)
    obtain ⟨scores, entries, hnew, hscores, hentries⟩ :=
      record_entries report { s₁ with ids, outside }
    rw [← hstore] at hnew hscores hentries
    rw [hof.account, hof.time] at hnew
    refine .of_run ?_ hnew (hscores.trans ?_) (hentries.trans ?_)
    · rw [run?, h]
      rfl
    · rw [hu.store]
    · rw [hu.store]

theorem perform_extends (h : Dated s act) : Extends s act := by
  have hother (hrun : s.run? act = none) (hact : ∀ p a now, act ≠ .evaluate p a now) :
      Extends s act := .of_same hrun (perform_histories hact).1 (perform_histories hact).2
  cases act with
  | evaluate p a now => exact evaluate_extends h.1
  | _ =>
    apply hother rfl
    intro p a now heq
    cases heq

theorem performAll_extends (h : Along Dated s acts) : Along Extends s acts := by
  induction acts generalizing s with
  | nil => trivial
  | cons act acts ih => exact ⟨perform_extends h.1, ih h.2⟩

theorem performAll_appended {P : Service σ → Action σ → Prop}
    (step : ∀ s act, P s act →
      rows (s.perform act).store = rows s.store ++ appended rows s act)
    (h : Along P s acts) :
    rows (s.performAll acts).store = rows s.store ++ appendedAll rows s acts := by
  induction acts generalizing s with
  | nil => exact (List.append_nil _).symm
  | cons act acts ih =>
    calc
      rows ((s.perform act).performAll acts).store
        = rows (s.perform act).store ++ appendedAll rows (s.perform act) acts := ih h.2
      _ = rows s.store ++ (appended rows s act ++ appendedAll rows (s.perform act) acts) := by
        rw [step s act h.1, List.append_assoc]

/-- The entries of both histories can be compared by time. -/
structure Comparable (s : Service σ) : Prop where
  scores : ∀ e ∈ s.store.scores, e.evaluatedAt.offset.isSome
  resourceEntries : ∀ e ∈ s.store.resourceEntries, e.evaluatedAt.offset.isSome

theorem Dated.of_run? (h : Dated s act) (hrun : s.run? act = some (a, now)) :
    now.offset.isSome := by
  cases act with
  | evaluate p b time =>
    obtain ⟨summary, -, he⟩ := Option.map_eq_some_iff.mp hrun
    cases he
    exact h.2
  | _ => cases hrun

theorem Comparable.perform (hc : Comparable s) (h : Dated s act) : Comparable (s.perform act) := by
  have hext := perform_extends h
  have hnew : (∀ e ∈ appended Store.scores s act, e.evaluatedAt.offset.isSome) ∧
      ∀ e ∈ appended Store.resourceEntries s act, e.evaluatedAt.offset.isSome := by
    cases hrun : s.run? act with
    | none =>
      obtain ⟨hs, he⟩ := hext.idle hrun
      rw [hs, he]
      exact ⟨List.forall_mem_nil _, List.forall_mem_nil _⟩
    | some ran =>
      obtain ⟨a, now⟩ := ran
      have hnow := h.of_run? hrun
      obtain ⟨⟨e, he, -, rfl⟩, -, -, hlabelled⟩ := hext.run a now hrun
      rw [he]
      refine ⟨List.forall_mem_singleton.mpr hnow, ?_⟩
      intro e' he'
      rwa [(hlabelled e' he').2]
  constructor
  · rw [hext.scores]
    exact List.forall_mem_append.mpr ⟨hc.scores, hnew.1⟩
  · rw [hext.resourceEntries]
    exact List.forall_mem_append.mpr ⟨hc.resourceEntries, hnew.2⟩

/-- In a service that starts with empty histories, every run that succeeds appends one entry on its
account and one on each resource that its findings are about, and nothing else is appended, altered
or removed. Listed are, for an account, the last of the entries that were ever appended, and, for a
resource, the first of them, in the order of time and, at one time, in the order in which they were
appended. -/
theorem performAll_histories (hscores : s.store.scores = [])
    (hentries : s.store.resourceEntries = []) (h : Along Dated s acts) :
    Along Extends s acts ∧
    (∀ a, ∃ sorted, Chronological ScoreEntry.evaluatedAt
        ((appendedAll Store.scores s acts).filter (·.accountId == a)) sorted ∧
      ∀ limit, ∃ latest, (s.performAll acts).store.scoreHistory a limit = .ok latest ∧
        latest <:+ sorted ∧ latest.length = min limit.toNat sorted.length) ∧
    ∀ r, ∃ sorted, Chronological ResourceEntry.evaluatedAt
        ((appendedAll Store.resourceEntries s acts).filter (·.resourceId == r)) sorted ∧
      ∀ limit, ∃ earliest, (s.performAll acts).store.resourceHistory r limit = .ok earliest ∧
        earliest <+: sorted ∧ earliest.length = min limit.toNat sorted.length := by
  have hext := performAll_extends h
  have hs := performAll_appended (fun _ _ => Extends.scores) hext
  have he := performAll_appended (fun _ _ => Extends.resourceEntries) hext
  rw [hscores, List.nil_append] at hs
  rw [hentries, List.nil_append] at he
  -- What is listed is sorted by time, which fails where times cannot be compared.
  have hstart : Comparable s :=
    ⟨hscores ▸ List.forall_mem_nil _, hentries ▸ List.forall_mem_nil _⟩
  have hend := performAll_induction (fun _ _ hact hc => Comparable.perform hc hact) hstart h
  rw [← hs, ← he]
  exact ⟨hext, Store.scoreHistory_cut hend.scores, Store.resourceHistory_cut hend.resourceEntries⟩

/-- Two accounts have a resource of one name. Of five runs one fails, as its inventory does not know
the account; the others append two entries each, the later run of an account being the first. -/
theorem performAll_histories_shared :
    let rule : Rule := ⟨"tags", "Tags", "", ["linode"], "has_tags", [], .warning, true, none, false⟩
    let pipeline (accounts : List String) : Pipeline Unit := {
      inventory := InventoryTable.source
        ⟨accounts.map fun a => (a, [{ id := "x", type := "linode" }]), [], []⟩
      factory := fun _ outside => (.ok none, outside) }
    let p := pipeline ["a", "b"]
    let early : Moment := ⟨2026, 3, 1, 9, 0, 0, 0, some 0⟩
    let late : Moment := ⟨2026, 3, 1, 10, 0, 0, 0, some 0⟩
    let s : Service Unit := { store := .ofCatalogue [rule] [], outside := () }
    let acts : List (Action Unit) := [.evaluate p "a" late, .evaluate p "b" early,
      .evaluate (pipeline ["b"]) "a" early, .toggleRule "b" "tags" true late,
      .evaluate p "a" early, .evaluate p "b" early]
    Along Dated s acts ∧
      (appendedAll Store.scores s acts).map (fun e => (e.accountId, e.evaluatedAt)) =
        [("a", late), ("b", early), ("a", early), ("b", early)] ∧
      (appendedAll Store.resourceEntries s acts).map (fun e => (e.resourceId, e.accountId)) =
        [("x", "a"), ("x", "b"), ("x", "a"), ("x", "b")] ∧
      ∃ sorted earliest, Chronological ResourceEntry.evaluatedAt
          ((appendedAll Store.resourceEntries s acts).filter (·.resourceId == "x")) sorted ∧
        (s.performAll acts).store.resourceHistory "x" 3 = .ok earliest ∧ earliest <+: sorted ∧
        earliest.length = 3 := by
  intro rule pipeline p early late s acts
  have hacts : Along Dated s acts :=
    ⟨⟨rfl, rfl⟩, ⟨rfl, rfl⟩, ⟨rfl, rfl⟩, trivial, ⟨rfl, rfl⟩, ⟨rfl, rfl⟩, trivial⟩
  refine ⟨hacts, by decide +kernel, by decide +kernel, ?_⟩
  obtain ⟨-, -, hresources⟩ := performAll_histories rfl rfl hacts
  obtain ⟨sorted, hchron, hlisted⟩ := hresources "x"
  obtain ⟨earliest, hlist, hprefix, hlength⟩ := hlisted 3
  have hfour : sorted.length = 4 := hchron.perm.length_eq.trans (by decide +kernel)
  rw [hfour] at hlength
  exact ⟨sorted, earliest, hchron, hlist, hprefix, hlength⟩

end Service

end CloudAudit
