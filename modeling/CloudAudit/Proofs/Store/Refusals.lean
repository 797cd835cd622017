import CloudAudit.Proofs.Store.Activation
import CloudAudit.Proofs.Text.Blank

namespace CloudAudit

open Time (Moment)

namespace Note

variable {f : Finding} {n : Note} {text id : String} {author : Option String} {now : Moment}

theorem create?_eq_some (h : create? f text author id now = some n) :
    n = ⟨id, f.id, f.accountId, f.ruleId, f.resourceId, Text.trim text, author, now⟩ := by
  rw [create?] at h
  split at h
  · cases h
  · exact (Option.some.inj h).symm

theorem create?_eq_none : create? f text author id now = none ↔
    ∀ c ∈ text.toList, Text.isBlank c = true := by
  rw [← Text.trim_eq_empty, create?]
  split
  case isTrue h => exact iff_of_true rfl h
  case isFalse h => exact iff_of_false (Option.some_ne_none _) h

end Note

namespace Store

variable {s : Store} {a id text noteId : String} {f : Finding} {author : Option String}
  {now : Moment} {fault : StoreFault}

theorem mem_of_finding (h : s.FindingsFiled) (hf : s.finding id = .ok f) :
    f ∈ s.findingsOf f.accountId ∧ f.id = id :=
  Table.mem_of_find? (finding_ok h hf)

theorem finding_error (he : s.finding id = .error fault) :
    fault = .noFinding id ∧ ∀ a, ∀ f ∈ s.findingsOf a, f.id ≠ id := by
  obtain ⟨hfault, hno⟩ := Table.lookup_error he
  refine ⟨hfault, ?_⟩
  intro a f hf
  obtain ⟨rows, hm, hf⟩ := mem_findingsOf hf
  exact hno f (List.mem_flatMap.mpr ⟨_, hm, hf⟩)

theorem revision_error (h : s.FindingsFiled) (ack : Finding → Option Acknowledgement)
    (he : (do
      let f ← s.finding id
      let f := f.withAcknowledgement (ack f)
      return (f, ← s.updateFinding f)) = .error fault) : s.finding id = .error fault := by
  obtain he | ⟨f, hf, he⟩ := Result.bind_eq_error.mp he
  · exact he
  · obtain ⟨before, after, -, hu⟩ := updateFinding_withAcknowledgement h hf (ack f)
    obtain he | ⟨store, -, he⟩ := Result.bind_eq_error.mp he
    · cases hu.symm.trans he
    · cases he

theorem addNote_of_finding (hf : s.finding id = .ok f) :
    s.addNote id text author noteId now = match Note.create? f text author noteId now with
      | some n => .ok (n, s.putNote n)
      | none => .error .blankNote := by
  rw [addNote, hf]
  rfl

theorem addNote_blank (hf : s.finding id = .ok f) :
    s.addNote id text author noteId now = .error .blankNote ↔
      ∀ c ∈ text.toList, Text.isBlank c = true := by
  have hnone : Note.create? f text author noteId now = none ↔ _ := Note.create?_eq_none
  rw [← hnone, addNote_of_finding hf]
  cases Note.create? f text author noteId now with
  | some n =>
    constructor
    · intro h
      cases h
    · intro h
      cases h
  | none => exact iff_of_true rfl rfl

theorem addNote_error (he : s.addNote id text author noteId now = .error fault) :
    s.finding id = .error fault ∨ (∃ f, s.finding id = .ok f) ∧ fault = .blankNote := by
  obtain he | ⟨f, hf, he⟩ := Result.bind_eq_error.mp he
  · exact .inl he
  · split at he
    · cases he
    · cases he
      exact .inr ⟨⟨f, hf⟩, rfl⟩

theorem deleteNote_error (he : s.deleteNote id = .error fault) :
    fault = .noNote id ∧ ∀ n ∈ s.notes, n.id ≠ id := by
  rw [deleteNote] at he
  split at he
  case isTrue => cases he
  case isFalse h =>
    cases he
    refine ⟨rfl, ?_⟩
    intro n hn hid
    exact h (Table.find?_isSome.mpr ⟨n, hn, hid⟩)

theorem deleteNote_present {s' : Store} (h : s.deleteNote id = .ok s') :
    ∃ n ∈ s.notes, n.id = id := by
  rw [deleteNote] at h
  split at h
  case isTrue hn => exact Table.find?_isSome.mp hn
  case isFalse => cases h

theorem toggleRule_error {isActive : Bool} (h : s.Keyed)
    (he : s.toggleRule a id isActive now = .error fault) :
    fault.isAbsence = true ∧ ∀ r ∈ s.rules, r.id = id → r.visibleTo a = false := by
  obtain hr | ⟨r, hr, hswitch⟩ := Result.bind_eq_error.mp he
  · obtain ⟨rfl, hno⟩ := Table.lookup_error hr
    exact ⟨rfl, fun r hmem hid => absurd hid (hno r hmem)⟩
  · obtain ⟨hmem, rfl⟩ := rule_ok hr
    split at hswitch
    case h_1 => cases hswitch
    case h_2 ho =>
      cases hswitch
      rw [Rule.toggle?] at ho
      split at ho
      case isTrue => cases ho
      case isFalse hv =>
        refine ⟨rfl, ?_⟩
        intro r' hmem' hid
        rw [List.inj_on_of_nodup_map h.rules hmem' hmem hid]
        exact Bool.eq_false_iff.mpr hv

theorem applyProfile_error (he : s.applyProfile a id now = .error fault) :
    fault = .noProfile id ∧ ∀ p ∈ s.profiles, p.id ≠ id := by
  obtain he | ⟨p, -, he⟩ := Result.bind_eq_error.mp he
  · exact Table.lookup_error he
  · cases he

end Store

end CloudAudit
