import CloudAudit.Check.Registry
import CloudAudit.Proofs.Check.Protection

namespace CloudAudit

open Result

/-- Two checks come to the same status, or both to none. -/
def StatusAlike : Except CheckFault Outcome → Except CheckFault Outcome → Prop :=
  Alike fun o o' => o.status = o'.status

variable {inv : Inventory} {resources : List Resource} {rule : Rule} {r : Resource}

theorem StatusAlike.refl (x : Except CheckFault Outcome) : StatusAlike x x :=
  Alike.refl (R := fun o o' : Outcome => o.status = o'.status) (fun _ => rfl) x

namespace Check

theorem firewallAttached_perm (hn : inv.NumbersApart) (h : inv.resources.Perm resources) :
    StatusAlike (firewallAttached rule r inv)
      (firewallAttached rule r { inv with resources }) := by
  refine ((inv.protectors_perm hn h r).mapError CheckFault.data).bind ?_
  intro found found' hf
  rw [hf.isEmpty_eq]
  split <;> exact .ok rfl

theorem firewallRulesCheck_perm (hn : inv.NumbersApart) (h : inv.resources.Perm resources) :
    StatusAlike (firewallRulesCheck rule r inv)
      (firewallRulesCheck rule r { inv with resources }) := by
  refine ((inv.protectors_perm hn h r).mapError CheckFault.data).bind ?_
  intro found found' hf
  have hfw : (found.filterMap fun p => inv.firewall? p.number).Perm
      (found'.filterMap fun p => { inv with resources }.firewall? p.number) := by
    simp only [inv.firewall?_perm hn h]
    exact hf.filterMap _
  rw [hf.isEmpty_eq]
  split
  · exact .ok rfl
  dsimp only
  rw [hfw.isEmpty_eq]
  split
  · exact .ok rfl
  refine (Alike.refl Eq.refl _).bind ?_
  rintro cfg _ rfl
  refine (Alike.mapM hfw (policyViolations cfg)).bind ?_
  intro violations violations' hv
  rw [hv.flatten.isEmpty_eq]
  split <;> exact .ok rfl

end Check

/-- Every check of a resource comes to the same status in any order of the inventory. -/
theorem ConditionKind.check_perm {kind : ConditionKind} {check : ResourceCheck}
    (hk : kind.check? = some (.resource check)) (hn : inv.NumbersApart)
    (h : inv.resources.Perm resources) :
    StatusAlike (check rule r inv) (check rule r { inv with resources }) := by
  cases kind with
  | firewallAttached =>
    cases hk
    exact Check.firewallAttached_perm hn h
  | firewallRulesCheck =>
    cases hk
    exact Check.firewallRulesCheck_perm hn h
  | tfaUsers => cases hk
  | loginAllowedIps => cases hk
  | controlPlaneAcl => cases hk
  | composite => cases hk
  | _ =>
    cases hk
    exact .refl _

end CloudAudit
