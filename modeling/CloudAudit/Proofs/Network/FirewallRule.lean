import CloudAudit.Network.FirewallRule
import CloudAudit.Proofs.Network.Ports

namespace CloudAudit.FirewallRule

variable {old new : FirewallRule} {port : Int}

/-- The rule lets TCP traffic through, alone or with every other protocol. -/
structure AdmitsTcp (rule : FirewallRule) : Prop where
  accept : rule.isAccept = true
  tcp : rule.isTcpOrAll = true

/-- The rule lets the whole internet reach a port. -/
structure Opens (rule : FirewallRule) (port : Int) : Prop where
  admits : rule.AdmitsTcp
  world : rule.isOpenToWorld = true
  covers : rule.coversPort port = true

/-- The same rule for the same addresses and perhaps more. -/
structure Widens (old new : FirewallRule) : Prop where
  same : new = { old with addresses := new.addresses }
  addresses : ∀ a ∈ old.allAddresses, a ∈ new.allAddresses

namespace Widens

theorem isAccept (h : old.Widens new) : new.isAccept = old.isAccept :=
  (congrArg FirewallRule.isAccept h.same :)

theorem isTcpOrAll (h : old.Widens new) : new.isTcpOrAll = old.isTcpOrAll :=
  (congrArg FirewallRule.isTcpOrAll h.same :)

theorem coversPort (h : old.Widens new) : new.coversPort port = old.coversPort port :=
  (congrArg (FirewallRule.coversPort · port) h.same :)

theorem admitsTcp (h : old.Widens new) (ha : old.AdmitsTcp) : new.AdmitsTcp :=
  ⟨h.isAccept.trans ha.accept, h.isTcpOrAll.trans ha.tcp⟩

theorem isOpenToWorld (h : old.Widens new) (ho : old.isOpenToWorld = true) :
    new.isOpenToWorld = true := by
  obtain ⟨a, ha, hw⟩ := List.any_eq_true.mp ho
  exact List.any_eq_true.mpr ⟨a, h.addresses a ha, hw⟩

theorem opens (h : old.Widens new) (ho : old.Opens port) : new.Opens port :=
  ⟨h.admitsTcp ho.admits, h.isOpenToWorld ho.world, h.coversPort.trans ho.covers⟩

end Widens

/-- A rule counts as covering every port just where it covers each of them and either is about every
protocol or does not spell the ports in a way of its own. -/
theorem coversAllPorts_iff (rule : FirewallRule) : rule.coversAllPorts = true ↔
    (∀ port, 1 ≤ port → port ≤ 65535 → rule.coversPort port = true) ∧
      (rule.normalizedProtocol = "ALL" ∨ ¬ Ports.Respelled (rule.ports.getD "")) := by
  rw [coversAllPorts, Bool.or_eq_true, beq_iff_eq]
  simp only [FirewallRule.coversPort, Bool.or_eq_true, beq_iff_eq]
  constructor
  · rintro (hprotocol | hall)
    · exact ⟨fun _ _ _ => .inl hprotocol, .inl hprotocol⟩
    · exact ⟨fun _ h₁ h₂ => .inr (Ports.has_of_isAll hall h₁ h₂),
        .inr (Ports.not_respelled_of_isAll hall)⟩
  · rintro ⟨hcovers, hspelled⟩
    by_cases hprotocol : rule.normalizedProtocol = "ALL"
    · exact .inl hprotocol
    · refine .inr (Ports.isAll_of_has ?_ (hspelled.resolve_left hprotocol))
      intro port h₁ h₂
      exact (hcovers port h₁ h₂).resolve_left hprotocol

/-- Two ranges that meet cover every port, but do not count as doing so. -/
theorem coversAllPorts_iff_split :
    let rule : FirewallRule := { protocol := some "TCP", ports := some "1-1023,1024-65535" }
    (∀ port, 1 ≤ port → port ≤ 65535 → rule.coversPort port = true) ∧
      rule.coversAllPorts = false := by
  intro rule
  refine ⟨?_, by decide +kernel⟩
  intro port h₁ h₂
  have h1 : Text.Numeral ['1'] 1 := by decide
  have h1023 : Text.Numeral ['1', '0', '2', '3'] 1023 := by decide
  have h1024 : Text.Numeral ['1', '0', '2', '4'] 1024 := by decide
  have h65535 : Text.Numeral ['6', '5', '5', '3', '5'] 65535 := by decide
  have hspells : Ports.Spells Text.isSpace [.range 1 1023, .range 1024 65535]
      "1-1023,1024-65535" := by
    refine ⟨⟨[['1', '-', '1', '0', '2', '3'],
      ['1', '0', '2', '4', '-', '6', '5', '5', '3', '5']], ?_, rfl⟩, by decide⟩
    exact .cons (.bare_range h1 h1023) (.cons (.bare_range h1024 h65535) .nil)
  have hhas : Ports.has port "1-1023,1024-65535" = true := by
    rw [hspells.has_iff]
    by_cases h : port ≤ 1023
    · exact ⟨.range 1 1023, List.mem_cons_self, h₁, h⟩
    · refine ⟨.range 1024 65535, List.mem_of_mem_getLast? rfl, ?_⟩
      rw [Ports.Item.Names]
      omega
  rw [FirewallRule.coversPort, Bool.or_eq_true]
  exact .inr hhas

end CloudAudit.FirewallRule
