import CloudAudit.Proofs.Model.Ledger
import CloudAudit.Proofs.Store.Refusals

namespace CloudAudit

open Time (Moment)

namespace Finding

variable {f : Finding} {ack : Option Acknowledgement}

theorem acknowledged_eq_false (h : f.unacknowledge = f) : f.acknowledged = false := by
  rw [← h]
  rfl

theorem unacknowledge_withAcknowledgement (h : (f.withAcknowledgement ack).acknowledged = false) :
    (f.withAcknowledgement ack).unacknowledge = f.withAcknowledgement ack := by
  cases ack with
  | none => rfl
  | some ack => cases h

end Finding

namespace Store

variable {s s' s'' : Store} {a b id : String} {f g : Finding} {rows before after : List Finding}
  {note author : Option String} {now : Moment}

/-- Each finding is on file once under its identifier, of all the findings there are, and one that
is not acknowledged bears no trace of an acknowledgement. -/
structure Addressable (s : Store) : Prop where
  filed : s.FindingsFiled
  ids : ∀ a, ((s.findingsOf a).map Finding.id).Nodup
  apart : ∀ a b, ∀ f ∈ s.findingsOf a, ∀ g ∈ s.findingsOf b, f.id = g.id → a = b
  blank : ∀ a, ∀ f ∈ s.findingsOf a, f.acknowledged = false → f.unacknowledge = f

theorem Addressable.of_findings (h : s.Addressable) (he : s'.findings = s.findings) :
    s'.Addressable := by
  have hof : s'.findingsOf = s.findingsOf := funext fun _ => findingsOf_congr he
  obtain ⟨hfiled, hids, hapart, hblank⟩ := h
  rw [← hof] at hids hapart hblank
  exact ⟨hfiled.of_findings he, hids, hapart, hblank⟩

/-- New findings of an account may bear identifiers of old ones of the account, or else such as no
finding on file bears. -/
theorem Addressable.replace (h : s.Addressable) (howner : ∀ f ∈ rows, f.accountId = a)
    (hids : (rows.map Finding.id).Nodup)
    (hnew : ∀ f ∈ rows, (∃ g ∈ s.findingsOf a, g.id = f.id) ∨
      ∀ b, ∀ g ∈ s.findingsOf b, g.id ≠ f.id)
    (hblank : ∀ f ∈ rows, f.acknowledged = false → f.unacknowledge = f) :
    (s.replaceFindings a rows).Addressable := by
  have hother : ∀ f ∈ rows, ∀ b, ∀ g ∈ s.findingsOf b, f.id = g.id → b = a := by
    intro f hf b g hg hid
    obtain ⟨k, hk, hkf⟩ | hno := hnew f hf
    · exact h.apart b a g hg k hk (hkf.trans hid).symm
    · exact absurd hid.symm (hno b g hg)
  refine ⟨h.filed.replaceFindings howner, ?_, ?_, ?_⟩
  · intro b
    rw [findingsOf_replaceFindings]
    split
    · exact hids
    · exact h.ids b
  · intro b c f hf g hg hid
    rw [findingsOf_replaceFindings] at hf hg
    split at hf <;> split at hg
    case isTrue.isTrue hb hc => exact hb.trans hc.symm
    case isTrue.isFalse hb hc => exact absurd (hother f hf c g hg hid) hc
    case isFalse.isTrue hb hc => exact absurd (hother g hg b f hf hid.symm) hb
    case isFalse.isFalse => exact h.apart b c f hf g hg hid
  · intro b f hf
    rw [findingsOf_replaceFindings] at hf
    split at hf
    · exact hblank f hf
    · exact h.blank b f hf

theorem Addressable.revise (h : s.Addressable)
    (hs : s.findingsOf f.accountId = before ++ f :: after) (ack : Option Acknowledgement) :
    (s.replaceFindings f.accountId (before ++ f.withAcknowledgement ack :: after)).Addressable := by
  have hold : ∀ g ∈ before ++ f.withAcknowledgement ack :: after,
      g = f.withAcknowledgement ack ∨ g ∈ s.findingsOf f.accountId := by
    intro g hg
    rw [hs]
    exact Table.mem_of_mem_replaced hg f
  have hf : f ∈ s.findingsOf f.accountId := by
    rw [hs]
    exact List.mem_append_right before List.mem_cons_self
  refine h.replace ?_ ?_ ?_ ?_
  · intro g hg
    obtain rfl | hg := hold g hg
    · rfl
    · exact h.filed.owner_of_mem hg
  · have hids := h.ids f.accountId
    rw [hs, List.map_append, List.map_cons] at hids
    rwa [List.map_append, List.map_cons]
  · intro g hg
    obtain rfl | hg := hold g hg
    · exact .inl ⟨f, hf, rfl⟩
    · exact .inl ⟨g, hg, rfl⟩
  · intro g hg
    obtain rfl | hg := hold g hg
    · exact Finding.unacknowledge_withAcknowledgement
    · exact h.blank _ g hg

theorem Addressable.finding (h : s.Addressable) (hf : f ∈ s.findingsOf a) :
    s.finding f.id = .ok f := by
  cases hg : s.finding f.id with
  | error fault => exact absurd rfl ((finding_error hg).2 a f hf)
  | ok g =>
    obtain ⟨hmem, hid⟩ := mem_of_finding h.filed hg
    rw [h.apart g.accountId a g hmem f hf hid] at hmem
    rw [List.inj_on_of_nodup_map (h.ids a) hmem hf hid]

/-- A change of what people say of one finding. The finding stays where it is, and all else that is
in the store stays as it is. -/
structure Revision (s s' : Store) (f g : Finding) : Prop where
  fields : g = { f with
    acknowledged := g.acknowledged
    acknowledgedAt := g.acknowledgedAt
    acknowledgedNote := g.acknowledgedNote
    acknowledgedBy := g.acknowledgedBy }
  place : ∃ before after, s.findingsOf f.accountId = before ++ f :: after ∧
    s'.findingsOf f.accountId = before ++ g :: after
  others : ∀ b, b ≠ f.accountId → s'.findingsOf b = s.findingsOf b
  accounts : s'.findings.map Prod.fst = s.findings.map Prod.fst
  rest : s' = { s with findings := s'.findings }

theorem map_fst_replaceFindings (hf : f ∈ s.findingsOf a) :
    (s.replaceFindings a rows).findings.map Prod.fst = s.findings.map Prod.fst := by
  obtain ⟨old, hold, -⟩ := mem_findingsOf hf
  exact Table.map_key_upsert (List.mem_map.mpr ⟨(a, old), hold, rfl⟩)

theorem replaceFindings_revision (hs : s.findingsOf f.accountId = before ++ f :: after)
    (ack : Option Acknowledgement) : s.Revision
      (s.replaceFindings f.accountId (before ++ f.withAcknowledgement ack :: after)) f
      (f.withAcknowledgement ack) where
  fields := rfl
  place := ⟨before, after, hs, by rw [findingsOf_replaceFindings, if_pos rfl]⟩
  others := by
    intro b hb
    rw [findingsOf_replaceFindings, if_neg hb]
  accounts := by
    apply map_fst_replaceFindings
    rw [hs]
    exact List.mem_append_right before List.mem_cons_self
  rest := rfl

theorem Addressable.updateFinding (h : s.Addressable) (hf : f ∈ s.findingsOf a)
    (ack : Option Acknowledgement) :
    ∃ s', s.updateFinding (f.withAcknowledgement ack) = .ok s' ∧ s'.Addressable ∧
      s.Revision s' f (f.withAcknowledgement ack) := by
  obtain ⟨before, after, hs, hu⟩ := updateFinding_withAcknowledgement h.filed (h.finding hf) ack
  exact ⟨_, hu, h.revise hs ack, replaceFindings_revision hs ack⟩

theorem Revision.mem (h : s.Revision s' f g) : g ∈ s'.findingsOf f.accountId := by
  obtain ⟨before, after, -, hs'⟩ := h.place
  rw [hs']
  exact List.mem_append_right before List.mem_cons_self

theorem Revision.eq (h : s.Revision s f g) : g = f := by
  obtain ⟨before, after, hf, hg⟩ := h.place
  exact (List.cons.inj (List.append_cancel_left (hg.symm.trans hf))).1

theorem acknowledge_eq_ok (hf : s.finding id = .ok f) {s' : Store}
    (hu : s.updateFinding (f.acknowledge note author now) = .ok s') :
    s.acknowledge id note author now = .ok (f.acknowledge note author now, s') := by
  rw [acknowledge, hf]
  change (do return (_, ← s.updateFinding _)) = _
  rw [hu]
  rfl

theorem unacknowledge_eq_ok (hf : s.finding id = .ok f)
    (hu : s.updateFinding f.unacknowledge = .ok s') :
    s.unacknowledge id = .ok (f.unacknowledge, s') := by
  rw [unacknowledge, hf]
  change (do return (_, ← s.updateFinding _)) = _
  rw [hu]
  rfl

theorem replaceFindings_replaceFindings (rows' : List Finding) :
    (s.replaceFindings a rows).replaceFindings a rows' = s.replaceFindings a rows' := by
  have hu : Table.upsert Prod.fst (a, rows') (Table.upsert Prod.fst (a, rows) s.findings) =
      Table.upsert Prod.fst (a, rows') s.findings := Table.upsert_upsert rfl
  exact congrArg (fun findings => { s with findings }) hu

theorem updateFinding_updateFinding {t : Store} (hf : s.updateFinding f = .ok s')
    (hg : s'.updateFinding g = .ok s'') (ht : s.updateFinding g = .ok t)
    (ha : g.accountId = f.accountId) (hid : g.id = f.id) : s'' = t := by
  rw [updateFinding_ok hg, updateFinding_ok ht, updateFinding_ok hf, ha,
    findingsOf_replaceFindings, if_pos rfl, Table.upsert_upsert hid.symm,
    replaceFindings_replaceFindings]

theorem Addressable.updateFinding_self (h : s.Addressable) (hf : f ∈ s.findingsOf f.accountId)
    (hu : s.updateFinding f = .ok s') : s' = s := by
  obtain ⟨rows, hrows, -⟩ := mem_findingsOf hf
  have hf := Table.find?_of_mem (h.ids f.accountId) hf
  rw [updateFinding_ok hu, Table.upsert_found hf, findingsOf_of_mem h.filed hrows, replaceFindings,
    Table.upsert_found (Table.find?_of_mem h.filed.accounts hrows)]

/-- What can be done about a finding that is on the list of an account. Its acknowledgement can be
given and taken back. To do both leaves the store as it was just if it was not given before. -/
structure InReach (s : Store) (a : String) (f : Finding) : Prop where
  owner : f.accountId = a
  found : s.finding f.id = .ok f
  acknowledge : ∀ note author now, ∃ s',
    s.acknowledge f.id note author now = .ok (f.acknowledge note author now, s') ∧
    s.Revision s' f (f.acknowledge note author now) ∧
    ∃ s'', s'.unacknowledge f.id = .ok (f.unacknowledge, s'') ∧ (s'' = s ↔ f.acknowledged = false)
  unacknowledge : ∃ s', s.unacknowledge f.id = .ok (f.unacknowledge, s') ∧
    s.Revision s' f f.unacknowledge

theorem Addressable.inReach (h : s.Addressable) (hf : f ∈ s.findingsOf a) : s.InReach a f := by
  have ha : f.accountId = a := h.filed.owner_of_mem hf
  subst ha
  obtain ⟨t, htake, -, htaken⟩ := h.updateFinding hf none
  refine ⟨rfl, h.finding hf, ?_, t, unacknowledge_eq_ok (h.finding hf) htake, htaken⟩
  intro note author now
  obtain ⟨s', hgive, h', hgiven⟩ := h.updateFinding hf _
  obtain ⟨s'', hback, -, -⟩ := h'.updateFinding hgiven.mem none
  refine ⟨s', acknowledge_eq_ok (h.finding hf) hgive, hgiven, s'',
    unacknowledge_eq_ok (f := f.acknowledge note author now) (h'.finding hgiven.mem) hback, ?_⟩
  -- To give and take back comes to the same as to take back at once.
  obtain rfl : s'' = t := updateFinding_updateFinding hgive hback htake rfl rfl
  constructor
  · rintro rfl
    exact Finding.acknowledged_eq_false htaken.eq
  · intro hno
    have hsame : f.withAcknowledgement none = f := h.blank _ f hf hno
    rw [hsame] at htake
    exact h.updateFinding_self hf htake

end Store

end CloudAudit
