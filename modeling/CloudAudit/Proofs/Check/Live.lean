import CloudAudit.Proofs.Check.Containment
import CloudAudit.Run.FirstPass

namespace CloudAudit

open Result

theorem Json.elements?_ne_nil {v : Json} {items : List Json} (h : v.truthy = true)
    (he : v.elements? = some items) : items ≠ [] := by
  cases v with
  | arr vs =>
    cases he
    simpa [truthy] using h
  | obj fields =>
    cases he
    simpa [truthy] using h
  | str s =>
    cases he
    simpa [truthy] using h
  | null | bool | int | float => cases he

def Outcome.IsOpen (outcomes : List Outcome) : Prop :=
  ∃ detail, outcomes = [.notApplicable detail]

namespace FirstPass

theorem containLive_error (f : CheckFault) : Outcome.IsOpen (containLive (.error f)) := by
  cases hf : f.isContained with
  | true =>
    rw [containLive, contain, hf]
    exact ⟨_, rfl⟩
  | false =>
    rw [containLive, contain, hf]
    exact ⟨_, rfl⟩

end FirstPass

/-- A live check says something to every answer, and leaves it open when there is none. -/
structure LiveCheck.Speaks (check : LiveCheck) : Prop where
  answered : ∀ rule v outcomes, check.judge rule (.ok v) = .ok outcomes → outcomes ≠ []
  unanswered : ∀ rule f, Outcome.IsOpen (FirstPass.containLive (check.judge rule (.error f)))

namespace Check

theorem tfaUsers_speaks : tfaUsers.Speaks where
  answered := by
    intro rule v outcomes h
    obtain ⟨cfg, -, h⟩ := bind_eq_ok.mp h
    obtain ⟨items, -, h⟩ := bind_eq_ok.mp h
    obtain ⟨users, -, h⟩ := bind_eq_ok.mp h
    split at h
    · cases h
      exact List.cons_ne_nil _ _
    case isFalse hu =>
      rw [List.isEmpty_iff] at hu
      exact mapM_ne_nil h hu
  unanswered := by
    intro rule f
    cases f with
    | refused r => exact ⟨_, rfl⟩
    | broken | unreadableText | unreadableJson => exact FirstPass.containLive_error _

theorem loginAllowedIps_speaks : loginAllowedIps.Speaks where
  answered := by
    intro rule v outcomes h
    obtain ⟨cfg, -, h⟩ := bind_eq_ok.mp h
    split at h
    · cases h
      exact List.cons_ne_nil _ _
    case isFalse hv =>
      split at h
      · cases h
        exact List.cons_ne_nil _ _
      · obtain ⟨items, hi, h⟩ := bind_eq_ok.mp h
        refine mapM_ne_nil h ?_
        rw [lift_data_eq_ok, answerItems] at hi
        split at hi
        case h_1 he =>
          cases hi
          exact Json.elements?_ne_nil (by simpa using hv) he
        case h_2 => cases hi
  unanswered := by
    intro rule f
    cases f with
    | refused r => exact ⟨_, rfl⟩
    | broken | unreadableText | unreadableJson => exact FirstPass.containLive_error _

theorem controlPlaneAcl_judge {rule : Rule} {v : Json} {outcomes : List Outcome}
    (h : controlPlaneAcl.judge rule (.ok v) = .ok outcomes) : ∃ o, outcomes = [o] := by
  obtain ⟨o, -, rfl⟩ := map_eq_ok.mp h
  exact ⟨o, rfl⟩

theorem controlPlaneAcl_speaks : controlPlaneAcl.Speaks where
  answered := by
    intro rule v outcomes h
    obtain ⟨o, rfl⟩ := controlPlaneAcl_judge h
    exact List.cons_ne_nil _ _
  unanswered := by
    intro rule f
    cases f with
    | refused r => exact ⟨_, rfl⟩
    | broken | unreadableText | unreadableJson => exact FirstPass.containLive_error _

variable {kind : ConditionKind} {check : LiveCheck}

theorem liveAccount_speaks (h : kind.check? = some (.liveAccount check)) : check.Speaks := by
  cases kind <;> cases h
  · exact tfaUsers_speaks
  · exact loginAllowedIps_speaks

theorem liveResource_eq (h : kind.check? = some (.liveResource check)) :
    check = controlPlaneAcl := by
  cases kind <;> cases h
  rfl

end Check

end CloudAudit
