import CloudAudit.Proofs.Check.Firewall
import CloudAudit.Proofs.Check.Protection
import CloudAudit.Proofs.Text.Case

namespace CloudAudit

open Result

namespace FirewallPolicyConfig

/-- What a policy asks of a firewall and of its inbound rules. -/
structure MetBy (cfg : FirewallPolicyConfig) (fw : Resource) (rules : List FirewallRule) : Prop where
  inbound : ∀ p, cfg.requiredInboundPolicy = some p → p ≠ "" →
    Check.policyText fw "inbound_policy" "ACCEPT" = Text.upper p
  outbound : ∀ p, cfg.requiredOutboundPolicy = some p → p ≠ "" →
    Check.policyText fw "outbound_policy" "ACCEPT" = Text.upper p
  blocked : ∀ rule ∈ rules, rule.AdmitsTcp → ∀ port ∈ cfg.blockedPorts,
    rule.coversPort port = false
  closed : cfg.requireNoOpenPorts = true → ∀ rule ∈ rules, rule.AdmitsTcp →
    rule.isOpenToWorld = false
  /-- Rules that are open to the whole internet are left to `closed`. -/
  allowed : cfg.allowedSourceIps ≠ [] → ∀ rule ∈ rules, rule.AdmitsTcp →
    rule.isOpenToWorld = false → ∀ a ∈ rule.allAddresses, a ∈ cfg.allowedSourceIps

theorem MetBy.sources {cfg : FirewallPolicyConfig} {fw : Resource} {rules : List FirewallRule}
    (h : cfg.MetBy fw rules) (hips : cfg.allowedSourceIps ≠ []) {rule : FirewallRule}
    (hr : rule ∈ rules) (ha : rule.AdmitsTcp) :
    (∀ a ∈ rule.allAddresses, a ∈ cfg.allowedSourceIps) ∨
      cfg.requireNoOpenPorts = false ∧ rule.isOpenToWorld = true := by
  cases hw : rule.isOpenToWorld with
  | false => exact .inl (h.allowed hips rule hr ha hw)
  | true =>
    refine .inr ⟨?_, rfl⟩
    by_contra hreq
    rw [Bool.not_eq_false] at hreq
    cases hw.symm.trans (h.closed hreq rule hr ha)

end FirewallPolicyConfig

namespace Check

variable {rule : Rule} {r fw : Resource} {inv : Inventory} {cfg : FirewallPolicyConfig}
  {rules : List FirewallRule} {found : List Protector}

theorem policyViolation_eq_nil {name direction actual : String} {required : Option String} :
    policyViolation name direction actual (Text.upper (required.getD "")) = [] ↔
      ∀ p, required = some p → p ≠ "" → actual = Text.upper p := by
  rw [policyViolation, ite_eq_right_iff]
  cases required with
  | none =>
    have he : Text.upper ((none : Option String).getD "") = "" := Text.upper_eq_empty.mpr rfl
    exact iff_of_true (fun h => absurd he h.1) nofun
  | some p =>
    simp only [Option.getD_some, ne_eq, Text.upper_eq_empty, Option.some.injEq, forall_eq',
      List.cons_ne_nil, imp_false, not_and, not_not]

theorem policyRuleViolations_eq_nil {name : String} {rule : FirewallRule} :
    policyRuleViolations cfg name rule = [] ↔ (rule.AdmitsTcp →
      (∀ port ∈ cfg.blockedPorts, rule.coversPort port = false) ∧
      (cfg.requireNoOpenPorts = true → rule.isOpenToWorld = false) ∧
      (cfg.allowedSourceIps ≠ [] → rule.isOpenToWorld = false →
        ∀ a ∈ rule.allAddresses, a ∈ cfg.allowedSourceIps)) := by
  rw [policyRuleViolations]
  split
  case isTrue h =>
    rw [Bool.and_eq_true] at h
    have ha : rule.AdmitsTcp := ⟨h.1, h.2⟩
    simp [ha, List.filter_eq_nil_iff]
  case isFalse h =>
    refine iff_of_true rfl fun ha => absurd ?_ h
    rw [ha.accept, ha.tcp]
    rfl

theorem policyViolations_eq_nil : policyViolations cfg fw = .ok [] ↔
    ∃ rules, readRules (fw.spec "inbound_rules_detail") = .ok rules ∧ cfg.MetBy fw rules := by
  rw [policyViolations, bind_eq_ok]
  refine exists_congr fun rules => and_congr_right fun _ => ?_
  change Except.ok _ = Except.ok [] ↔ _
  rw [Except.ok.injEq, List.append_eq_nil_iff, List.append_eq_nil_iff, policyViolation_eq_nil,
    policyViolation_eq_nil, List.flatMap_eq_nil_iff]
  simp only [policyRuleViolations_eq_nil]
  constructor
  · rintro ⟨⟨hin, hout⟩, hrules⟩
    exact {
      inbound := hin
      outbound := hout
      blocked := fun rule hr ha => (hrules rule hr ha).1
      closed := fun hc rule hr ha => (hrules rule hr ha).2.1 hc
      allowed := fun hl rule hr ha => (hrules rule hr ha).2.2 hl }
  · intro h
    refine ⟨⟨h.inbound, h.outbound⟩, fun rule hr ha => ?_⟩
    exact ⟨h.blocked rule hr ha, fun hc => h.closed hc rule hr ha,
      fun hl => h.allowed hl rule hr ha⟩

/-- The firewalls among the protectors that the inventory has. -/
def knownFirewalls (inv : Inventory) (found : List Protector) : List Resource :=
  found.filterMap fun p => inv.firewall? p.number

theorem mem_knownFirewalls :
    fw ∈ knownFirewalls inv found ↔ ∃ p ∈ found, inv.firewall? p.number = some fw :=
  List.mem_filterMap

theorem flatten_policyViolations_eq_nil {fws : List Resource} :
    (∃ lists, fws.mapM (policyViolations cfg) = .ok lists ∧ lists.flatten = []) ↔
      ∀ fw ∈ fws, policyViolations cfg fw = .ok [] := by
  constructor
  · rintro ⟨lists, hl, hnil⟩ fw hfw
    obtain ⟨before, vs, after, rfl, he⟩ := of_mem_forall₂ (mapM_eq_ok.mp hl) hfw
    rw [he, List.flatten_eq_nil_iff.mp hnil vs (List.mem_append_right before List.mem_cons_self)]
  · intro h
    refine ⟨fws.map fun _ => [], ?_, by simp⟩
    exact mapM_eq_ok.mpr (List.forall₂_map_right_iff.mpr (List.forall₂_same.mpr h))

/-- The verdict on an instance, by the firewalls that protect it and those of them that the
inventory has. -/
theorem firewallRulesCheck_gives {s : Status} : Gives (firewallRulesCheck rule r inv) s ↔
    ∃ found, inv.protectors r = .ok found ∧
      (found = [] ∧ s = .nonCompliant ∨
        found ≠ [] ∧ knownFirewalls inv found = [] ∧ s = .notApplicable ∨
        knownFirewalls inv found ≠ [] ∧
          ∃ cfg, rule.configAs FirewallPolicyConfig.schema = .ok cfg ∧
            ∃ lists, (knownFirewalls inv found).mapM (policyViolations cfg) = .ok lists ∧
              (lists.flatten ≠ [] ∧ s = .nonCompliant ∨ lists.flatten = [] ∧ s = .compliant)) := by
  rw [firewallRulesCheck]
  simp only [gives_bind, lift_data_eq_ok]
  refine exists_congr fun found => and_congr_right fun _ => ?_
  have hnil : found = [] → knownFirewalls inv found = [] := by
    rintro rfl
    rfl
  change Gives (if found.isEmpty = true then .ok (.nonCompliant _) else
    if (knownFirewalls inv found).isEmpty = true then .ok (.notApplicable _) else _) _ ↔ _
  rw [gives_ite, gives_ite, gives_ok, gives_ok, List.isEmpty_iff, List.isEmpty_iff]
  simp only [gives_bind, lift_config_eq_ok, gives_reported]
  constructor
  · rintro (⟨hfound, hs⟩ | ⟨hfound, ⟨hknown, hs⟩ | ⟨hknown, hjudged⟩⟩)
    · exact .inl ⟨hfound, hs.symm⟩
    · exact .inr (.inl ⟨hfound, hknown, hs.symm⟩)
    · exact .inr (.inr ⟨hknown, hjudged⟩)
  · rintro (⟨hfound, hs⟩ | ⟨hfound, hknown, hs⟩ | ⟨hknown, hjudged⟩)
    · exact .inl ⟨hfound, hs.symm⟩
    · exact .inr ⟨hfound, .inl ⟨hknown, hs.symm⟩⟩
    · exact .inr ⟨fun hfound => hknown (hnil hfound), .inr ⟨hknown, hjudged⟩⟩

theorem firewallRulesCheck_compliant : Gives (firewallRulesCheck rule r inv) .compliant ↔
    ∃ found cfg, inv.protectors r = .ok found ∧
      rule.configAs FirewallPolicyConfig.schema = .ok cfg ∧ knownFirewalls inv found ≠ [] ∧
      ∀ fw ∈ knownFirewalls inv found, policyViolations cfg fw = .ok [] := by
  rw [firewallRulesCheck_gives]
  simp only [reduceCtorEq, and_false, and_true, false_or, flatten_policyViolations_eq_nil]
  refine exists_congr fun found => ?_
  constructor
  · rintro ⟨hfound, hknown, cfg, hcfg, hmet⟩
    exact ⟨cfg, hfound, hcfg, hknown, hmet⟩
  · rintro ⟨cfg, hfound, hcfg, hknown, hmet⟩
    exact ⟨hfound, hknown, cfg, hcfg, hmet⟩

/-- The check vouches for an instance just where the inventory has some of the firewalls that
protect it and each that it has meets the policy. Those that it does not have are passed over. -/
theorem firewallRulesCheck_vouches : Gives (firewallRulesCheck rule r inv) .compliant ↔
    ∃ found cfg, inv.protectors r = .ok found ∧
      rule.configAs FirewallPolicyConfig.schema = .ok cfg ∧
      (∃ p ∈ found, ∃ fw, inv.firewall? p.number = some fw) ∧
      ∀ p ∈ found, ∀ fw, inv.firewall? p.number = some fw →
        ∃ rules, readRules (fw.spec "inbound_rules_detail") = .ok rules ∧ cfg.MetBy fw rules := by
  rw [firewallRulesCheck_compliant]
  refine exists_congr fun found => exists_congr fun cfg => ?_
  refine and_congr_right fun _ => and_congr_right fun _ => and_congr ?_ ?_
  · rw [ne_eq, List.eq_nil_iff_forall_not_mem, not_forall]
    simp only [mem_knownFirewalls, not_not]
    exact ⟨fun ⟨fw, p, hp, hfw⟩ => ⟨p, hp, fw, hfw⟩, fun ⟨p, hp, fw, hfw⟩ => ⟨fw, p, hp, hfw⟩⟩
  · simp only [mem_knownFirewalls, policyViolations_eq_nil]
    exact ⟨fun h p hp fw hfw => h fw ⟨p, hp, hfw⟩, fun h fw ⟨p, hp, hfw⟩ => h p hp fw hfw⟩

/-- One of two attached firewalls is in the inventory, and the policy is found met. -/
theorem firewallRulesCheck_vouches_unsynced :
    let rule : Rule := ⟨"fw", "Firewalls", "", ["linode"], "firewall_rules_check",
      [("required_inbound_policy", .str "DROP")], .warning, true, none, false⟩
    let r : Resource := { id := "vm", type := "linode", specs := [("attached_firewalls",
      .arr [.obj [("id", .int 31)], .obj [("id", .int 32)]])] }
    let fw : Resource :=
      { id := "fw", providerId := "31", type := "firewall",
        specs := [("inbound_policy", .str "DROP")] }
    let inv : Inventory := ⟨"a", [r, fw], ⟨2026, 3, 1, 9, 0, 0, 0, some 0⟩⟩
    Gives (firewallRulesCheck rule r inv) .compliant ∧
      (inv.protectors r).toOption.map (·.map (·.number)) = some [31, 32] ∧
      inv.firewall? 32 = none := by
  intro rule r fw inv
  rw [gives_iff]
  exact ⟨by decide +kernel, by decide +kernel, Option.isNone_iff_eq_none.mp (by decide +kernel)⟩

theorem metBy_of_compliant (h : Gives (firewallRulesCheck rule r inv) .compliant)
    (hp : inv.protectors r = .ok found)
    (hcfg : rule.configAs FirewallPolicyConfig.schema = .ok cfg) {p : Protector} (hmem : p ∈ found)
    (hfw : inv.firewall? p.number = some fw)
    (hrules : readRules (fw.spec "inbound_rules_detail") = .ok rules) : cfg.MetBy fw rules := by
  obtain ⟨found', cfg', hp', hcfg', -, hmet⟩ := firewallRulesCheck_compliant.mp h
  cases hp.symm.trans hp'
  cases hcfg.symm.trans hcfg'
  have hnil := hmet fw (mem_knownFirewalls.mpr ⟨p, hmem, hfw⟩)
  obtain ⟨rules', hrules', hm⟩ := policyViolations_eq_nil.mp hnil
  cases hrules.symm.trans hrules'
  exact hm

/-- Where the check vouches for an instance, a list of allowed sources has every address of every
rule that lets TCP traffic in, on each firewall of the instance that the inventory has, apart from
the rules that are open to the whole internet where these are not banned. So a rule that gets an
address that is not on the list never makes the verdict good, unless it is open in that way then. -/
theorem firewallRulesCheck_allowed (hp : inv.protectors r = .ok found)
    (hcfg : rule.configAs FirewallPolicyConfig.schema = .ok cfg) (hips : cfg.allowedSourceIps ≠ [])
    {p : Protector} (hmem : p ∈ found) (hfw : inv.firewall? p.number = some fw)
    (hrules : readRules (fw.spec "inbound_rules_detail") = .ok rules) :
    (Gives (firewallRulesCheck rule r inv) .compliant →
      ∀ listed ∈ rules, listed.AdmitsTcp →
        (∀ a ∈ listed.allAddresses, a ∈ cfg.allowedSourceIps) ∨
          cfg.requireNoOpenPorts = false ∧ listed.isOpenToWorld = true) ∧
    ∀ resources fw' before old new after a,
      List.Forall₂ Resource.SameButInbound inv.resources resources →
      { inv with resources }.firewall? p.number = some fw' →
      rules = before ++ old :: after →
      readRules (fw'.spec "inbound_rules_detail") = .ok (before ++ new :: after) →
      old.AdmitsTcp → old.Widens new → a ∈ new.allAddresses → a ∉ cfg.allowedSourceIps →
      cfg.requireNoOpenPorts = true ∨ new.isOpenToWorld = false →
      ¬ Gives (firewallRulesCheck rule r { inv with resources }) .compliant := by
  constructor
  · intro h listed hl ha
    have hmet := metBy_of_compliant h hp hcfg hmem hfw hrules
    exact hmet.sources hips hl ha
  · intro resources fw' before old new after a hsame hfw' _ hrules' ha hw hmore hno hopen h
    have hp' : Inventory.protectors { inv with resources } r = .ok found := by
      rw [Inventory.protectors_congr hsame, hp]
    have hmet := metBy_of_compliant h hp' hcfg hmem hfw' hrules'
    have hnew : new ∈ before ++ new :: after := List.mem_append_right before List.mem_cons_self
    obtain hall | ⟨hreq, hworld⟩ := hmet.sources hips hnew (hw.admitsTcp ha)
    · exact hno (hall a hmore)
    · obtain hreq' | hworld' := hopen
      · cases hreq.symm.trans hreq'
      · cases hworld.symm.trans hworld'

/-- A rule for the one allowed source, before and after another source is added to it. -/
theorem firewallRulesCheck_allowed_ssh :
    let rule : Rule := ⟨"fw", "Firewalls", "", ["linode"], "firewall_rules_check",
      [("allowed_source_ips", .arr [.str "198.51.100.7/32"])], .warning, true, none, false⟩
    let cfg : FirewallPolicyConfig := ⟨none, none, [], ["198.51.100.7/32"], false⟩
    let r : Resource := { id := "vm", type := "linode", specs := [("attached_firewalls",
      .arr [.obj [("id", .int 31)]])] }
    let fw (sources : List String) : Resource :=
      { id := "fw", providerId := "31", type := "firewall",
        specs := [("inbound_rules_detail", .arr [.obj [("action", .str "ACCEPT"),
          ("protocol", .str "TCP"), ("addresses", .obj [("ipv4", .arr (sources.map .str))])]])] }
    let parsed (sources : List String) : FirewallRule :=
      { action := some "ACCEPT", protocol := some "TCP", addresses := ⟨sources, []⟩ }
    let inv (sources : List String) : Inventory :=
      ⟨"a", [r, fw sources], ⟨2026, 3, 1, 9, 0, 0, 0, some 0⟩⟩
    let few := ["198.51.100.7/32"]
    let more := ["198.51.100.7/32", "192.0.2.1/32"]
    Gives (firewallRulesCheck rule r (inv few)) .compliant ∧
      (∀ a ∈ (parsed few).allAddresses, a ∈ cfg.allowedSourceIps) ∧
      ¬ Gives (firewallRulesCheck rule r (inv more)) .compliant := by
  intro rule cfg r fw parsed inv few more
  have hp : (inv few).protectors r = .ok [⟨31, .str "", .str ""⟩] := rfl
  have hcfg : rule.configAs FirewallPolicyConfig.schema = .ok cfg := rfl
  have hgood : Gives (firewallRulesCheck rule r (inv few)) .compliant :=
    gives_iff.mpr (by decide +kernel)
  have hnumber : Text.readInt? "31".toList = some 31 := by decide +kernel
  have hfw (sources : List String) : (inv sources).firewall? 31 = some (fw sources) :=
    List.find?_cons_of_pos (beq_iff_eq.mpr hnumber)
  have hadmits : (parsed few).AdmitsTcp := ⟨by decide, by decide⟩
  have hw : (parsed few).Widens (parsed more) := ⟨rfl, by decide⟩
  have hsame : List.Forall₂ Resource.SameButInbound (inv few).resources (inv more).resources := by
    refine .cons ⟨rfl, fun _ _ => rfl⟩ (.cons ⟨rfl, fun name hne => ?_⟩ .nil)
    simp [fw, Resource.spec, Fields.getD, Fields.get?, List.lookup_cons, beq_false_of_ne hne]
  have hrules : readRules ((fw few).spec "inbound_rules_detail") = .ok [parsed few] := rfl
  obtain ⟨hall, hnever⟩ := firewallRulesCheck_allowed hp hcfg (List.cons_ne_nil _ _)
    List.mem_cons_self (hfw few) hrules
  refine ⟨hgood, ?_, ?_⟩
  · exact (hall hgood _ List.mem_cons_self hadmits).resolve_right (by decide)
  · exact hnever (inv more).resources (fw more) [] (parsed few) (parsed more) [] "192.0.2.1/32"
      hsame (hfw more) rfl rfl hadmits hw (by decide) (by decide) (by decide)

/-- The address of the whole internet, added to a rule with a source that is not allowed, makes the
verdict good. -/
theorem firewallRulesCheck_allowed_world :
    let rule : Rule := ⟨"fw", "Firewalls", "", ["linode"], "firewall_rules_check",
      [("allowed_source_ips", .arr [.str "198.51.100.7/32"])], .warning, true, none, false⟩
    let r : Resource := { id := "vm", type := "linode", specs := [("attached_firewalls",
      .arr [.obj [("id", .int 31)]])] }
    let fw (sources : List String) : Resource :=
      { id := "fw", providerId := "31", type := "firewall",
        specs := [("inbound_rules_detail", .arr [.obj [("action", .str "ACCEPT"),
          ("protocol", .str "TCP"), ("addresses", .obj [("ipv4", .arr (sources.map .str))])]])] }
    let parsed (sources : List String) : FirewallRule :=
      { action := some "ACCEPT", protocol := some "TCP", addresses := ⟨sources, []⟩ }
    let inv (sources : List String) : Inventory :=
      ⟨"a", [r, fw sources], ⟨2026, 3, 1, 9, 0, 0, 0, some 0⟩⟩
    let few := ["192.0.2.1/32"]
    let more := ["192.0.2.1/32", "0.0.0.0/0"]
    readRules ((fw more).spec "inbound_rules_detail") = .ok [parsed more] ∧
      (parsed more).AdmitsTcp ∧
      Gives (firewallRulesCheck rule r (inv few)) .nonCompliant ∧
      Gives (firewallRulesCheck rule r (inv more)) .compliant := by
  intro rule r fw parsed inv few more
  rw [gives_iff, gives_iff]
  exact ⟨rfl, ⟨by decide, by decide⟩, by decide +kernel, by decide +kernel⟩

end Check

end CloudAudit
