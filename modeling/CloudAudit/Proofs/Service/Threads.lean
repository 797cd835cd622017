import CloudAudit.Proofs.Service.Acknowledgement
import CloudAudit.Proofs.Service.Frame
import CloudAudit.Proofs.Store.Refusals
import CloudAudit.Proofs.Time.Chronology

namespace CloudAudit

open Time (Moment)

variable {σ : Type}

/-- A note, with the finding that it was added to. -/
structure Posting where
  finding : Finding
  note : Note

namespace Posting

/-- Whether the note was added to a finding of the account under the key. -/
def isUnder (account key : String) (e : Posting) : Bool :=
  e.finding.accountId == account && e.finding.ledgerKey == key

/-- A note that says which finding it was added to, and when. -/
structure Labelled (e : Posting) : Prop where
  finding : e.note.findingId = e.finding.id
  account : e.note.accountId = e.finding.accountId
  key : e.note.ledgerKey = e.finding.ledgerKey
  dated : e.note.createdAt.offset.isSome

end Posting

theorem Note.create?_labelled {f : Finding} {n : Note} {text id : String} {author : Option String}
    {now : Moment} (h : create? f text author id now = some n) (hnow : now.offset.isSome) :
    (Posting.mk f n).Labelled := by
  rw [create?_eq_some h]
  exact ⟨rfl, rfl, rfl, hnow⟩

namespace Service

def posting? (s : Service σ) (findingId text : String) (author : Option String) (now : Moment) :
    Option Posting :=
  match s.store.finding findingId, s.store.addNote findingId text author s.ids.peek now with
  | .ok finding, .ok (note, _) => some ⟨finding, note⟩
  | _, _ => none

/-- The postings after an action: a note that it adds comes last, one that it deletes is left out.
-/
def posted (s : Service σ) (log : List Posting) : Action σ → List Posting
  | .addNote id text author now => log ++ (s.posting? id text author now).toList
  | .deleteNote id => log.filter (·.note.id != id)
  | _ => log

/-- The postings after some actions, in the order in which the notes were added. -/
def postedAll (s : Service σ) (log : List Posting) : List (Action σ) → List Posting
  | [] => log
  | act :: acts => (s.perform act).postedAll (s.posted log act) acts

/-- Identifiers are new where an action gives them out. After a run the findings of the account have
distinct ones, and notes on file are on none of those that the run has put there; a note that is
added has one that no note on file has. Notes are added by a clock whose offset is known. -/
def Fresh (s : Service σ) : Action σ → Prop
  | .evaluate p a now =>
    (((s.evaluate p a now).2.store.findingsOf a).map Finding.id).Nodup ∧
      ∀ f ∈ (s.evaluate p a now).2.store.findingsOf a,
        f ∈ s.store.findingsOf a ∨ ∀ n ∈ s.store.notes, n.findingId ≠ f.id
  | .addNote _ _ _ now => (∀ n ∈ s.store.notes, n.id ≠ s.ids.peek) ∧ now.offset.isSome
  | _ => True

instance (s : Service σ) : DecidablePred s.Fresh
  | .evaluate .. | .addNote .. => inferInstanceAs (Decidable (_ ∧ _))
  | .acknowledge .. | .unacknowledge _ | .deleteNote _ | .toggleRule .. | .applyProfile ..
  | .registerRules .. => inferInstanceAs (Decidable True)

variable {s : Service σ} {act : Action σ} {acts : List (Action σ)} {log : List Posting} {a : String}
  {f : Finding} {e : Posting}

theorem Fresh.ids_nodup (hact : Fresh s act) (h : s.store.FindingsFiled)
    (hids : ((s.store.findingsOf a).map Finding.id).Nodup) :
    (((s.perform act).store.findingsOf a).map Finding.id).Nodup := by
  cases perform_findingsOf h act a with
  | nothing he => rwa [he]
  | @revision f ack before after _ _ hs he =>
    rw [hs, List.map_append, List.map_cons] at hids
    rwa [he, List.map_append, List.map_cons]
  | run he _ =>
    subst he
    exact hact.1

/-- A finding is on the rule and the resource of an earlier one with its identifier, or no note on
file is on a finding with its identifier. -/
theorem Fresh.of_mem_findingsOf (hact : Fresh s act) (h : s.store.FindingsFiled)
    (hf : f ∈ (s.perform act).store.findingsOf a) :
    (∃ g ∈ s.store.findingsOf a, g.id = f.id ∧ g.ledgerKey = f.ledgerKey) ∨
      ∀ n ∈ s.store.notes, n.findingId ≠ f.id := by
  cases perform_findingsOf h act a with
  | nothing he => exact .inl ⟨f, he ▸ hf, rfl, rfl⟩
  | @revision g ack before after _ _ hs he =>
    rw [he] at hf
    obtain rfl | hf := Table.mem_of_mem_replaced hf g
    · have hg : g ∈ s.store.findingsOf a := by
        rw [hs]
        exact List.mem_append_right before List.mem_cons_self
      exact .inl ⟨g, hg, rfl, rfl⟩
    · exact .inl ⟨f, hs ▸ hf, rfl, rfl⟩
  | run he _ =>
    subst he
    exact (hact.2 f hf).imp_left fun hm => ⟨f, hm, rfl, rfl⟩

/-- The notes on file are those of the postings, each with an identifier of its own. A finding on
file that has the identifier of one that a note was added to is on the same rule and resource. -/
structure OnFile (log : List Posting) (s : Service σ) : Prop where
  filed : s.store.FindingsFiled
  ids : ∀ a, ((s.store.findingsOf a).map Finding.id).Nodup
  notes : s.store.notes = log.map Posting.note
  distinct : (s.store.notes.map Note.id).Nodup
  labelled : ∀ e ∈ log, e.Labelled
  own : ∀ e ∈ log, ∀ f ∈ s.store.findingsOf e.finding.accountId, f.id = e.finding.id →
    f.ledgerKey = e.finding.ledgerKey

/-- What an action does to findings keeps the postings on file. -/
theorem OnFile.own_perform (h : OnFile log s) (hact : Fresh s act) (he : e ∈ log)
    (hf : f ∈ (s.perform act).store.findingsOf e.finding.accountId) (hid : f.id = e.finding.id) :
    f.ledgerKey = e.finding.ledgerKey := by
  obtain ⟨g, hg, hgid, hkey⟩ | hno := hact.of_mem_findingsOf h.filed hf
  · exact hkey.symm.trans (h.own e he g hg (hgid.trans hid))
  · have hn : e.note ∈ s.store.notes := by
      rw [h.notes]
      exact List.mem_map_of_mem he
    exact absurd ((h.labelled e he).finding.trans hid.symm) (hno e.note hn)

theorem OnFile.of_subset {log' : List Posting} (h : OnFile log s) (hact : Fresh s act)
    (hsub : ∀ e ∈ log', e ∈ log) (hnotes : (s.perform act).store.notes = log'.map Posting.note)
    (hdistinct : ((s.perform act).store.notes.map Note.id).Nodup) :
    OnFile log' (s.perform act) where
  filed := perform_findingsFiled h.filed act
  ids := fun _ => hact.ids_nodup h.filed (h.ids _)
  notes := hnotes
  distinct := hdistinct
  labelled := fun e he => h.labelled e (hsub e he)
  own := fun e he _ hf => h.own_perform hact (hsub e he) hf

theorem OnFile.append (h : OnFile log s) (he : e.Labelled)
    (hf : e.finding ∈ s.store.findingsOf e.finding.accountId)
    (hnew : ∀ n ∈ s.store.notes, n.id ≠ e.note.id) {s' : Service σ}
    (hfindings : s'.store.findings = s.store.findings)
    (hnotes : s'.store.notes = s.store.notes ++ [e.note]) : OnFile (log ++ [e]) s' where
  filed := h.filed.of_findings hfindings
  ids := by
    intro a
    rw [Store.findingsOf_congr hfindings]
    exact h.ids a
  notes := by rw [hnotes, h.notes, List.map_append, List.map_singleton]
  distinct := by
    rw [hnotes, List.map_append, List.map_singleton, List.nodup_append]
    refine ⟨h.distinct, List.nodup_singleton _, ?_⟩
    intro i hi j hj
    obtain ⟨n, hn, rfl⟩ := List.mem_map.mp hi
    rw [List.mem_singleton.mp hj]
    exact hnew n hn
  labelled := by
    intro e' he'
    obtain he' | he' := List.mem_append.mp he'
    · exact h.labelled e' he'
    · rwa [List.mem_singleton.mp he']
  own := by
    intro e' he' g hg hid
    rw [Store.findingsOf_congr hfindings] at hg
    obtain he' | he' := List.mem_append.mp he'
    · exact h.own e' he' g hg hid
    · -- Identifiers on file are distinct, so the finding is the one that the note was added to.
      rw [List.mem_singleton.mp he'] at hg hid ⊢
      rw [List.inj_on_of_nodup_map (h.ids _) hg hf hid]

theorem posting?_cases (s : Service σ) (id text : String) (author : Option String) (now : Moment) :
    (s.posting? id text author now = none ∧
      (s.perform (.addNote id text author now)).store = s.store) ∨
    ∃ f n, s.posting? id text author now = some ⟨f, n⟩ ∧ s.store.finding id = .ok f ∧
      Note.create? f text author s.ids.peek now = some n ∧
      (s.perform (.addNote id text author now)).store = s.store.putNote n := by
  rw [posting?, perform]
  cases hadd : s.store.addNote id text author s.ids.peek now with
  | error fault =>
    refine .inl ⟨?_, rfl⟩
    cases s.store.finding id <;> rfl
  | ok r =>
    obtain ⟨f, n, hf, hn, rfl⟩ := Store.addNote_ok hadd
    rw [hf]
    exact .inr ⟨f, n, rfl, rfl, hn, rfl⟩

theorem perform_deleteNote (s : Service σ) (id : String) :
    (s.perform (.deleteNote id)).store.notes = s.store.notes.filter (·.id != id) := by
  rw [Service.perform, Store.deleteNote]
  split
  · rfl
  case isFalse h =>
    rw [Bool.not_eq_true, Option.isSome_eq_false_iff, Option.isNone_iff_eq_none,
      Table.find?_eq_none] at h
    exact (List.filter_eq_self.mpr fun n hn => bne_iff_ne.mpr (h n hn)).symm

theorem OnFile.perform (h : OnFile log s) (hact : Fresh s act) :
    OnFile (s.posted log act) (s.perform act) := by
  have hother (hno : ¬ act.IsNoting) : OnFile log (s.perform act) := by
    have hnotes := perform_notes (s := s) hno
    exact h.of_subset hact (fun _ he => he) (hnotes.trans h.notes) (hnotes ▸ h.distinct)
  cases act with
  | addNote id text author now =>
    rw [posted]
    obtain ⟨hpost, hstore⟩ | ⟨f, n, hpost, hf, hn, hstore⟩ := posting?_cases s id text author now
    · rw [hpost, Option.toList_none, List.append_nil]
      exact h.of_subset hact (fun _ he => he) (hstore ▸ h.notes) (hstore ▸ h.distinct)
    · rw [hpost, Option.toList_some]
      have hid : n.id = s.ids.peek := by rw [Note.create?_eq_some hn]
      have hmem := (Store.mem_of_finding h.filed hf).1
      have hnew : ∀ m ∈ s.store.notes, m.id ≠ n.id := by
        rw [hid]
        exact hact.1
      refine h.append (Note.create?_labelled hn hact.2) hmem hnew (by rw [hstore]; rfl) ?_
      rw [hstore]
      exact Table.upsert_of_find?_eq_none (Table.find?_eq_none.mpr hnew)
  | deleteNote id =>
    have hnotes := perform_deleteNote s id
    refine h.of_subset hact (fun _ he => (List.mem_filter.mp he).1) ?_ ?_
    · rw [hnotes, h.notes, posted, List.filter_map]
      rfl
    · rw [hnotes]
      exact h.distinct.sublist (List.filter_sublist.map Note.id)
  | _ =>
    apply hother
    intro hnoting
    cases hnoting

theorem OnFile.start (hfindings : s.store.findings = []) (hnotes : s.store.notes = []) :
    OnFile [] s where
  filed := (Reachable.start hfindings).findingsFiled
  ids := by
    intro a
    rw [Store.findingsOf, hfindings]
    exact .nil
  notes := hnotes
  distinct := by
    rw [hnotes]
    exact .nil
  labelled := List.forall_mem_nil _
  own := List.forall_mem_nil _

theorem OnFile.performAll (h : OnFile log s) (hacts : Along Fresh s acts) :
    OnFile (s.postedAll log acts) (s.performAll acts) := by
  induction acts generalizing s log with
  | nil => exact h
  | cons act acts ih => exact ih (h.perform hacts.1) hacts.2

theorem OnFile.belonging (h : OnFile log s) (hf : f ∈ s.store.findingsOf f.accountId) :
    (s.store.notesOf f.accountId).filter (·.belongsTo f) =
      (log.filter (·.isUnder f.accountId f.ledgerKey)).map Posting.note := by
  rw [Store.notesOf, h.notes, List.filter_map, List.filter_map, List.filter_filter]
  refine congrArg _ (List.filter_congr fun e he => ?_)
  have hl := h.labelled e he
  change (e.note.belongsTo f && e.note.accountId == f.accountId) = _
  rw [Note.belongsTo, Posting.isUnder, hl.finding, hl.account, hl.key]
  by_cases ha : e.finding.accountId = f.accountId
  · by_cases hk : e.finding.ledgerKey = f.ledgerKey
    · simp [ha, hk]
    · -- A note may also belong by the identifier of its finding, but on file that gives the key.
      have hid : e.finding.id ≠ f.id := by
        intro hid
        exact hk (h.own e he f (ha ▸ hf) hid.symm).symm
      simp [beq_false_of_ne hid, beq_false_of_ne hk]
  · simp [beq_false_of_ne ha]

theorem OnFile.notesOn {id : String} (h : OnFile log s) (hf : s.store.finding id = .ok f) :
    ∃ thread, s.store.notesOn id = .ok thread ∧
      Time.Chronological Note.createdAt
        ((log.filter (·.isUnder f.accountId f.ledgerKey)).map Posting.note) thread ∧
      (thread.map Note.id).Nodup := by
  have hb := h.belonging (Store.mem_of_finding h.filed hf).1
  have hdated : ∀ n ∈ (s.store.notesOf f.accountId).filter (·.belongsTo f),
      n.createdAt.offset.isSome := by
    rw [hb]
    intro n hn
    obtain ⟨e, he, rfl⟩ := List.mem_map.mp hn
    exact (h.labelled e (List.mem_filter.mp he).1).dated
  obtain ⟨thread, hsort, hchron⟩ := Time.sortByMoment?_chronological hdated
  refine ⟨thread, Result.bind_eq_ok.mpr ⟨f, hf, ?_⟩, hb ▸ hchron, ?_⟩
  · rw [Note.thread?, hsort]
    rfl
  · rw [(hchron.perm.map Note.id).nodup_iff]
    have hsub : ((s.store.notesOf f.accountId).filter (·.belongsTo f)).Sublist s.store.notes :=
      List.filter_sublist.trans List.filter_sublist
    exact h.distinct.sublist (hsub.map Note.id)

/-- In a service that starts without findings and notes, the thread of a finding holds just the
notes that were added to it or to other findings of its account under its key and that were not
deleted since, each once, in the order of time, and those of one time in the order in which they
were added. Blank text, and no other, makes no note for it, and then nothing is stored. -/
theorem performAll_notesOn {id : String} (hfindings : s.store.findings = [])
    (hnotes : s.store.notes = []) (hacts : Along Fresh s acts)
    (hf : (s.performAll acts).store.finding id = .ok f) :
    (∃ thread, (s.performAll acts).store.notesOn id = .ok thread ∧
      Time.Chronological Note.createdAt
        (((s.postedAll [] acts).filter (·.isUnder f.accountId f.ledgerKey)).map Posting.note)
        thread ∧
      (thread.map Note.id).Nodup) ∧
    ∀ text author now,
      ((s.performAll acts).store.addNote id text author (s.performAll acts).ids.peek now =
          .error .blankNote ↔ ∀ c ∈ text.toList, Text.isBlank c = true) ∧
      ((∀ c ∈ text.toList, Text.isBlank c = true) →
        ((s.performAll acts).perform (.addNote id text author now)).store =
          (s.performAll acts).store) := by
  have hstart := OnFile.start hfindings hnotes
  refine ⟨(hstart.performAll hacts).notesOn hf, ?_⟩
  intro text author now
  refine ⟨Store.addNote_blank hf, ?_⟩
  intro hblank
  rw [perform, (Store.addNote_blank hf).mpr hblank]
  rfl

/-- A note is added to a finding and three more to the one that takes its place; the first of these
is deleted. The last one is the earliest, and comes first. -/
theorem performAll_notesOn_replaced :
    let rule : Rule := ⟨"tags", "Tags", "", ["linode"], "has_tags", [], .warning, true, none, false⟩
    let p : Pipeline Unit := {
      inventory := InventoryTable.source ⟨[("a", [{ id := "x", type := "linode" }])], [], []⟩
      factory := fun _ outside => (.ok none, outside) }
    let early : Moment := ⟨2026, 3, 1, 9, 0, 0, 0, some 0⟩
    let late : Moment := ⟨2026, 3, 1, 10, 0, 0, 0, some 0⟩
    let s : Service Unit := { store := .ofCatalogue [rule] [], outside := () }
    let old := "00000000-0000-0000-0000-000000000001"
    let new := "00000000-0000-0000-0000-000000000006"
    let acts : List (Action Unit) := [.evaluate p "a" early, .addNote old "one" none late,
      .evaluate p "a" early, .addNote new "two" none early, .addNote new " three " none late,
      .addNote new "four" none early, .deleteNote "00000000-0000-0000-0000-000000000009"]
    Along Fresh s acts ∧ ∃ f thread, (s.performAll acts).store.finding new = .ok f ∧
      (s.performAll acts).store.notesOn new = .ok thread ∧
      ((s.postedAll [] acts).filter (·.isUnder f.accountId f.ledgerKey)).map (·.note.text) =
        ["one", "three", "four"] ∧
      Time.Chronological Note.createdAt
        (((s.postedAll [] acts).filter (·.isUnder f.accountId f.ledgerKey)).map Posting.note)
        thread := by
  intro rule p early late s old new acts
  have hacts : Along Fresh s acts := by decide +kernel
  have hposted : ((s.performAll acts).store.finding new).map (fun f =>
      ((s.postedAll [] acts).filter (·.isUnder f.accountId f.ledgerKey)).map (·.note.text)) =
      .ok ["one", "three", "four"] := by decide +kernel
  obtain ⟨f, hf, htexts⟩ := Result.map_eq_ok.mp hposted
  obtain ⟨⟨thread, hthread, hchron, -⟩, -⟩ := performAll_notesOn rfl rfl hacts hf
  exact ⟨hacts, f, thread, hf, hthread, htexts, hchron⟩

end Service

end CloudAudit
