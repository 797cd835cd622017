import Mathlib.Data.List.Induction
import CloudAudit.Model.Ledger
import CloudAudit.Proofs.Table

namespace CloudAudit

variable {f g : Finding} {fs found : List Finding} {key : String} {ack : Option Acknowledgement}

namespace Finding

/-- The last finding of a list that is acknowledged and has the key. -/
def lastAcknowledged? (fs : List Finding) (key : String) : Option Finding :=
  (fs.filter fun f => f.acknowledged && f.ledgerKey == key).getLast?

/-- Two findings are acknowledged alike: both or neither, at one time, with one note, by one
person. -/
structure AcknowledgedAlike (f g : Finding) : Prop where
  acknowledged : f.acknowledged = g.acknowledged
  time : f.acknowledgedAt = g.acknowledgedAt
  note : f.acknowledgedNote = g.acknowledgedNote
  author : f.acknowledgedBy = g.acknowledgedBy

namespace AcknowledgedAlike

theorem symm (h : f.AcknowledgedAlike g) : g.AcknowledgedAlike f :=
  ⟨h.acknowledged.symm, h.time.symm, h.note.symm, h.author.symm⟩

theorem trans {k : Finding} (h : f.AcknowledgedAlike g) (h' : g.AcknowledgedAlike k) :
    f.AcknowledgedAlike k :=
  ⟨h.acknowledged.trans h'.acknowledged, h.time.trans h'.time, h.note.trans h'.note,
    h.author.trans h'.author⟩

end AcknowledgedAlike

/-- The findings of a run carry on what people said of the findings before. -/
structure Carry (old new : List Finding) : Prop where
  acknowledged : ∀ f ∈ new, f.acknowledged = true ↔
    ∃ g ∈ old, g.acknowledged = true ∧ g.ledgerKey = f.ledgerKey
  /-- Of several acknowledged findings under one key the last one counts. -/
  last : ∀ f ∈ new, f.acknowledged = true →
    ∃ g, lastAcknowledged? old f.ledgerKey = some g ∧ f.AcknowledgedAlike g
  blank : ∀ f ∈ new, f.acknowledged = false →
    f.acknowledgedAt = none ∧ f.acknowledgedNote = none ∧ f.acknowledgedBy = none
  alike : ∀ f ∈ new, ∀ g ∈ new, f.ledgerKey = g.ledgerKey → f.AcknowledgedAlike g

theorem lastAcknowledged?_append_singleton : lastAcknowledged? (fs ++ [f]) key =
    if f.acknowledged = true ∧ f.ledgerKey = key then some f else lastAcknowledged? fs key := by
  rw [lastAcknowledged?, List.filter_append]
  by_cases h : f.acknowledged = true ∧ f.ledgerKey = key
  · rw [if_pos h, List.filter_cons_of_pos (by simpa using h), List.filter_nil, List.getLast?_concat]
  · rw [if_neg h, List.filter_cons_of_neg (by simpa using h), List.filter_nil, List.append_nil]
    rfl

theorem of_lastAcknowledged? (h : lastAcknowledged? fs key = some g) :
    g ∈ fs ∧ g.acknowledged = true ∧ g.ledgerKey = key := by
  have hm := List.mem_filter.mp (List.mem_of_getLast? h)
  rwa [Bool.and_eq_true, beq_iff_eq] at hm

theorem lastAcknowledged?_isSome :
    (lastAcknowledged? fs key).isSome ↔ ∃ g ∈ fs, g.acknowledged = true ∧ g.ledgerKey = key := by
  rw [lastAcknowledged?, List.getLast?_isSome, ne_eq, List.filter_eq_nil_iff]
  simp only [Bool.and_eq_true, beq_iff_eq, not_forall, not_not, exists_prop]

theorem ledgerKey_withAcknowledgement : (f.withAcknowledgement ack).ledgerKey = f.ledgerKey := rfl

theorem acknowledgement?_withAcknowledgement :
    (f.withAcknowledgement ack).acknowledgement? = ack := by
  cases ack <;> rfl

theorem withAcknowledgement_alike (h : g.acknowledged = true) :
    (f.withAcknowledgement g.acknowledgement?).AcknowledgedAlike g := by
  rw [acknowledgement?, if_pos h]
  exact ⟨h.symm, rfl, rfl, rfl⟩

end Finding

namespace Ledger

open Finding

theorem capture_append_singleton : (capture (fs ++ [f])).get? key =
    if f.acknowledged = true ∧ f.ledgerKey = key then f.acknowledgement?
    else (capture fs).get? key := by
  rw [capture, List.filterMap_append, get?]
  cases ha : f.acknowledged with
  | false =>
    simp only [List.filterMap_cons, acknowledgement?, ha, Bool.false_eq_true, if_false,
      Option.map_none, List.filterMap_nil, List.append_nil, false_and]
    rfl
  | true =>
    simp only [List.filterMap_cons, acknowledgement?, ha, if_true, Option.map_some,
      List.filterMap_nil, true_and]
    rw [Table.ofList_append_singleton, Table.lookup_upsert]
    by_cases h : f.ledgerKey = key
    · rw [if_pos h.symm, if_pos h]
    · rw [if_neg (fun he => h he.symm), if_neg h]
      rfl

theorem get?_capture (fs : List Finding) (key : String) :
    (capture fs).get? key = (lastAcknowledged? fs key).bind acknowledgement? := by
  induction fs using List.reverseRecOn with
  | nil => rfl
  | append_singleton fs f ih =>
    rw [capture_append_singleton, lastAcknowledged?_append_singleton]
    by_cases h : f.acknowledged = true ∧ f.ledgerKey = key
    · rw [if_pos h, if_pos h]
      rfl
    · rw [if_neg h, if_neg h, ih]

theorem mem_restamp {l : Ledger} (h : f ∈ l.restamp fs) :
    ∃ g ∈ fs, f = g.withAcknowledgement (l.get? g.ledgerKey) := by
  obtain ⟨g, hg, rfl⟩ := List.mem_map.mp h
  exact ⟨g, hg, rfl⟩

theorem get?_capture_restamp (l : Ledger) (hf : f ∈ fs) :
    (capture (l.restamp fs)).get? f.ledgerKey = l.get? f.ledgerKey := by
  rw [get?_capture]
  cases hl : lastAcknowledged? (l.restamp fs) f.ledgerKey with
  | some g =>
    obtain ⟨hg, -, hk⟩ := of_lastAcknowledged? hl
    obtain ⟨g, -, rfl⟩ := mem_restamp hg
    rw [ledgerKey_withAcknowledgement] at hk
    rw [Option.bind_some, acknowledgement?_withAcknowledgement, hk]
  | none =>
    cases ha : l.get? f.ledgerKey with
    | none => rfl
    | some ack =>
      have hs : (lastAcknowledged? (l.restamp fs) f.ledgerKey).isSome :=
        lastAcknowledged?_isSome.mpr ⟨f.withAcknowledgement (l.get? f.ledgerKey),
          List.mem_map_of_mem hf, by rw [ha]; rfl, rfl⟩
      rw [hl] at hs
      cases hs

theorem restamp_capture_restamp (l : Ledger)
    (h : ∀ g ∈ found, ∃ f ∈ fs, f.ledgerKey = g.ledgerKey) :
    (capture (l.restamp fs)).restamp found = l.restamp found := by
  refine List.map_congr_left fun g hg => ?_
  obtain ⟨f, hf, hk⟩ := h g hg
  rw [← hk, get?_capture_restamp l hf]

/-- A finding that is stamped from captured findings is acknowledged like the last acknowledged one
under its key; without one it is blank. -/
theorem restamp_capture_cases (h : f ∈ (capture fs).restamp found) :
    (∃ g, lastAcknowledged? fs f.ledgerKey = some g ∧ f.AcknowledgedAlike g) ∨
      lastAcknowledged? fs f.ledgerKey = none ∧ f.acknowledged = false ∧
        f.acknowledgedAt = none ∧ f.acknowledgedNote = none ∧ f.acknowledgedBy = none := by
  obtain ⟨g, -, rfl⟩ := mem_restamp h
  rw [ledgerKey_withAcknowledgement, get?_capture]
  cases hl : lastAcknowledged? fs g.ledgerKey with
  | none => exact .inr ⟨rfl, rfl, rfl, rfl, rfl⟩
  | some w => exact .inl ⟨w, rfl, withAcknowledgement_alike (of_lastAcknowledged? hl).2.1⟩

theorem restamp_capture_carry (fs found : List Finding) :
    Carry fs ((capture fs).restamp found) where
  acknowledged := by
    intro f hf
    rw [← lastAcknowledged?_isSome]
    obtain ⟨g, hl, ha⟩ | ⟨hl, ha, -⟩ := restamp_capture_cases hf
    · rw [hl, ha.acknowledged]
      exact iff_of_true (of_lastAcknowledged? hl).2.1 rfl
    · rw [hl, ha]
      exact iff_of_false nofun nofun
  last := by
    intro f hf ha
    obtain h | ⟨-, hn, -⟩ := restamp_capture_cases hf
    · exact h
    · cases hn.symm.trans ha
  blank := by
    intro f hf ha
    obtain ⟨g, hl, hg⟩ | ⟨-, -, h⟩ := restamp_capture_cases hf
    · cases (hg.acknowledged.symm.trans ha).symm.trans (of_lastAcknowledged? hl).2.1
    · exact h
  alike := by
    intro f hf g hg hk
    obtain ⟨w, hl, hw⟩ | ⟨hl, h, ht, hn, hb⟩ := restamp_capture_cases hf
    · obtain ⟨w', hl', hw'⟩ | ⟨hl', -⟩ := restamp_capture_cases hg
      · rw [hk, hl'] at hl
        cases hl
        exact hw.trans hw'.symm
      · rw [hk, hl'] at hl
        cases hl
    · obtain ⟨w', hl', -⟩ | ⟨-, h', ht', hn', hb'⟩ := restamp_capture_cases hg
      · rw [hk, hl'] at hl
        cases hl
      · exact ⟨h.trans h'.symm, ht.trans ht'.symm, hn.trans hn'.symm, hb.trans hb'.symm⟩

end Ledger

end CloudAudit
