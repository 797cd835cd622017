import CloudAudit.Proofs.Result
import CloudAudit.Proofs.Table
import CloudAudit.Store.AccountRules
import CloudAudit.Store.FollowUp

namespace CloudAudit.Store

variable {s s' : Store} {a b id : String} {f g : Finding} {rows : List Finding}

/-- Findings are filed under their account, and each account has one list. -/
structure FindingsFiled (s : Store) : Prop where
  accounts : (s.findings.map Prod.fst).Nodup
  owner : ∀ entry ∈ s.findings, ∀ f ∈ entry.2, f.accountId = entry.1

theorem FindingsFiled.of_findings (h : s.FindingsFiled) (he : s'.findings = s.findings) :
    s'.FindingsFiled := by
  obtain ⟨ha, ho⟩ := h
  rw [← he] at ha ho
  exact ⟨ha, ho⟩

theorem findingsOf_congr (he : s'.findings = s.findings) : s'.findingsOf a = s.findingsOf a := by
  rw [findingsOf, findingsOf, he]

@[simp] theorem findingsOf_replaceFindings :
    (s.replaceFindings a rows).findingsOf b = if b = a then rows else s.findingsOf b := by
  rw [findingsOf, replaceFindings, Table.lookup_upsert]
  split <;> rfl

theorem findingsOf_of_mem (h : s.FindingsFiled) (hm : (a, rows) ∈ s.findings) :
    s.findingsOf a = rows := by
  rw [findingsOf, Table.lookup_of_mem h.accounts hm]
  rfl

theorem mem_findingsOf (hf : f ∈ s.findingsOf a) : ∃ rows, (a, rows) ∈ s.findings ∧ f ∈ rows := by
  rw [findingsOf] at hf
  cases hl : s.findings.lookup a with
  | none =>
    rw [hl] at hf
    cases hf
  | some rows =>
    rw [hl] at hf
    exact ⟨rows, Table.mem_of_lookup hl, hf⟩

theorem FindingsFiled.owner_of_mem (h : s.FindingsFiled) (hf : f ∈ s.findingsOf a) :
    f.accountId = a := by
  obtain ⟨rows, hm, hf⟩ := mem_findingsOf hf
  exact h.owner _ hm f hf

theorem FindingsFiled.replaceFindings (h : s.FindingsFiled) (ho : ∀ f ∈ rows, f.accountId = a) :
    (s.replaceFindings a rows).FindingsFiled where
  accounts := Table.upsert_keys_nodup h.accounts
  owner := by
    intro entry hm f hf
    obtain rfl | hm := Table.mem_upsert hm
    · exact ho f hf
    · exact h.owner entry hm f hf

theorem finding_ok (h : s.FindingsFiled) (hf : s.finding id = .ok f) :
    Table.find? Finding.id (s.findingsOf f.accountId) id = some f := by
  rw [finding, Table.find?, List.find?_flatMap] at hf
  cases hr : s.findings.findSome? fun entry => entry.2.find? fun y => decide (y.id = id) with
  | none =>
    rw [hr] at hf
    cases hf
  | some g =>
    rw [hr] at hf
    cases hf
    obtain ⟨⟨b, rows⟩, hm, hg⟩ := List.exists_of_findSome?_eq_some hr
    have ho : f.accountId = b := h.owner _ hm f (List.mem_of_find?_eq_some hg)
    rw [ho, findingsOf_of_mem h hm]
    exact hg

theorem updateFinding_withAcknowledgement (h : s.FindingsFiled) (hf : s.finding id = .ok f)
    (ack : Option Acknowledgement) : ∃ before after,
      s.findingsOf f.accountId = before ++ f :: after ∧
      s.updateFinding (f.withAcknowledgement ack) = .ok
        (s.replaceFindings f.accountId (before ++ f.withAcknowledgement ack :: after)) := by
  have hr := finding_ok h hf
  have hid : Table.find? Finding.id (s.findingsOf f.accountId) (f.withAcknowledgement ack).id =
      some f := by
    rw [← (Table.mem_of_find? hr).2] at hr
    exact hr
  obtain ⟨before, after, he, hu⟩ := Table.upsert_of_find?_eq_some hid
  refine ⟨before, after, he, ?_⟩
  have hs : (Table.find? Finding.id (s.findingsOf (f.withAcknowledgement ack).accountId)
      (f.withAcknowledgement ack).id).isSome = true := by
    change (Table.find? Finding.id (s.findingsOf f.accountId) _).isSome = true
    rw [hid]
    rfl
  rw [updateFinding, if_pos hs, ← hu]
  rfl

section Inversion

variable {text noteId : String} {author : Option String} {now : Time.Moment}

theorem updateFinding_ok (h : s.updateFinding f = .ok s') :
    s' = s.replaceFindings f.accountId (Table.upsert Finding.id f (s.findingsOf f.accountId)) := by
  rw [updateFinding] at h
  split at h
  · cases h
    rfl
  · cases h

theorem addNote_ok {r : Note × Store} (h : s.addNote id text author noteId now = .ok r) :
    ∃ f n, s.finding id = .ok f ∧ Note.create? f text author noteId now = some n ∧
      r = (n, s.putNote n) := by
  obtain ⟨f, hf, h⟩ := Result.bind_eq_ok.mp h
  split at h
  case h_1 n hn =>
    cases h
    exact ⟨f, n, hf, hn, rfl⟩
  case h_2 => cases h

theorem deleteNote_ok (h : s.deleteNote id = .ok s') :
    s' = { s with notes := s.notes.filter (·.id != id) } := by
  rw [deleteNote] at h
  split at h
  · cases h
    rfl
  · cases h

theorem rule_ok {r : Rule} (h : s.rule id = .ok r) : r ∈ s.rules ∧ r.id = id :=
  Table.lookup_ok h

theorem toggleRule_ok {isActive : Bool} {view : AccountRule}
    (h : s.toggleRule a id isActive now = .ok (view, s')) : ∃ r ∈ s.rules, r.id = id ∧
      r.visibleTo a = true ∧ view = .ofRule r (some ⟨a, id, isActive, none, now⟩) ∧
      s' = s.putOverride ⟨a, id, isActive, none, now⟩ := by
  obtain ⟨r, hr, h⟩ := Result.bind_eq_ok.mp h
  split at h
  case h_2 => cases h
  case h_1 o ho =>
    obtain ⟨hmem, rfl⟩ := rule_ok hr
    rw [Rule.toggle?] at ho
    split at ho
    case isFalse => cases ho
    case isTrue hv =>
      cases ho
      cases h
      exact ⟨r, hmem, rfl, hv, rfl, rfl⟩

theorem applyProfile_ok {r : ProfileApplication × Store} (h : s.applyProfile a id now = .ok r) :
    ∃ p, s.profile id = .ok p ∧ r.1 = p.apply s.rules a now ∧
      r.2 = s.replaceOverrides a (p.apply s.rules a now).overrides := by
  obtain ⟨p, hp, h⟩ := Result.bind_eq_ok.mp h
  cases h
  exact ⟨p, hp, rfl, rfl⟩

theorem addNote_findings {r : Note × Store}
    (h : s.addNote id text author noteId now = .ok r) : r.2.findings = s.findings := by
  obtain ⟨f, n, -, -, rfl⟩ := addNote_ok h
  rfl

theorem deleteNote_findings (h : s.deleteNote id = .ok s') : s'.findings = s.findings := by
  rw [deleteNote_ok h]

theorem toggleRule_findings {isActive : Bool} {r : AccountRule × Store}
    (h : s.toggleRule a id isActive now = .ok r) : r.2.findings = s.findings := by
  obtain ⟨rule, -, -, -, -, he⟩ := toggleRule_ok h
  rw [he]
  rfl

theorem applyProfile_findings {r : ProfileApplication × Store}
    (h : s.applyProfile a id now = .ok r) : r.2.findings = s.findings := by
  obtain ⟨p, -, -, he⟩ := applyProfile_ok h
  rw [he]
  rfl

end Inversion

theorem registerRules_store (s : Store) (accountId : String) (rules : List Rule) :
    (s.registerRules accountId rules).2 =
      { s with rules := (s.registerRules accountId rules).2.rules } := by
  induction rules generalizing s with
  | nil => rfl
  | cons r rest ih =>
    rw [registerRules]
    split
    · rfl
    · exact ih (s.putRule r)

end CloudAudit.Store
