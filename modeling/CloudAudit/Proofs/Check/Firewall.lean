import CloudAudit.Check.Firewall
import CloudAudit.Proofs.Check.Containment
import CloudAudit.Proofs.Network.FirewallRule

namespace CloudAudit

open Result

def Gives (x : Except CheckFault Outcome) (s : Status) : Prop := ∃ o, x = .ok o ∧ o.status = s

theorem gives_iff {x : Except CheckFault Outcome} {s : Status} :
    Gives x s ↔ x.toOption.map (·.status) = some s := by
  constructor
  · rintro ⟨o, rfl, rfl⟩
    rfl
  · exact of_map_toOption

theorem gives_ok {o : Outcome} {s : Status} : Gives (.ok o) s ↔ o.status = s :=
  ⟨fun ⟨_, h, hs⟩ => Except.ok.inj h ▸ hs, fun hs => ⟨o, rfl, hs⟩⟩

theorem gives_bind {α : Type} {x : Except CheckFault α} {f : α → Except CheckFault Outcome}
    {s : Status} : Gives (x >>= f) s ↔ ∃ a, x = .ok a ∧ Gives (f a) s := by
  constructor
  · rintro ⟨o, ho, hs⟩
    obtain ⟨a, ha, ho⟩ := bind_eq_ok.mp ho
    exact ⟨a, ha, o, ho, hs⟩
  · rintro ⟨a, ha, o, ho, hs⟩
    exact ⟨o, bind_eq_ok.mpr ⟨a, ha, ho⟩, hs⟩

theorem gives_ite {c : Prop} [Decidable c] {x y : Except CheckFault Outcome} {s : Status} :
    Gives (if c then x else y) s ↔ c ∧ Gives x s ∨ ¬ c ∧ Gives y s := by
  split <;> simp [*]

theorem gives_reported {violations : List String} {d₁ d₂ : String} {s : Status} :
    Gives (if (!violations.isEmpty) = true then pure (.nonCompliant d₁)
      else pure (.compliant d₂)) s ↔
        violations ≠ [] ∧ s = .nonCompliant ∨ violations = [] ∧ s = .compliant := by
  cases violations with
  | nil =>
    change Gives (.ok (Outcome.compliant d₂)) s ↔ _
    rw [gives_ok]
    exact ⟨fun h => .inr ⟨rfl, h.symm⟩, fun h => (h.resolve_left fun h => h.1 rfl).2.symm⟩
  | cons v vs =>
    change Gives (.ok (Outcome.nonCompliant d₁)) s ↔ _
    rw [gives_ok]
    exact ⟨fun h => .inl ⟨List.cons_ne_nil v vs, h.symm⟩, fun h => (h.resolve_right nofun).2.symm⟩

namespace Check

variable {rule : Rule} {r : Resource} {inv : Inventory} {rules : List FirewallRule}
  {ports : List Int} {cfg : NoOpenInboundConfig} {policy : Json}

/-- The inventory has the inbound policy and the inbound rules for a firewall. -/
structure HasInbound (r : Resource) (policy : Json) (rules : List FirewallRule) : Prop where
  policy : r.spec "inbound_policy" = policy
  rules : readRules (r.spec "inbound_rules_detail") = .ok rules

/-- Some rule opens one of the ports. -/
def Exposed (ports : List Int) (rules : List FirewallRule) : Prop :=
  ∃ rule ∈ rules, ∃ port ∈ ports, rule.Opens port

theorem Exposed.insert {before after : List FirewallRule} (added : FirewallRule)
    (h : Exposed ports (before ++ after)) : Exposed ports (before ++ added :: after) := by
  obtain ⟨rule, hr, ho⟩ := h
  refine ⟨rule, ?_, ho⟩
  obtain hr | hr := List.mem_append.mp hr
  · exact List.mem_append_left _ hr
  · exact List.mem_append_right _ (List.mem_cons_of_mem added hr)

theorem Exposed.widen {before after : List FirewallRule} {old new : FirewallRule}
    (hw : old.Widens new) (h : Exposed ports (before ++ old :: after)) :
    Exposed ports (before ++ new :: after) := by
  obtain ⟨rule, hr, port, hp, ho⟩ := h
  obtain hr | hr := List.mem_append.mp hr
  · exact ⟨rule, List.mem_append_left _ hr, port, hp, ho⟩
  · obtain rfl | hr := List.mem_cons.mp hr
    · exact ⟨new, List.mem_append_right _ List.mem_cons_self, port, hp, hw.opens ho⟩
    · exact ⟨rule, List.mem_append_right _ (List.mem_cons_of_mem new hr), port, hp, ho⟩

theorem openPortsOf_eq_nil {rule : FirewallRule} :
    openPortsOf ports rule = [] ↔ ∀ port ∈ ports, ¬ rule.Opens port := by
  rw [openPortsOf]
  split
  case isTrue h =>
    simp only [Bool.and_eq_true] at h
    obtain ⟨⟨ha, ht⟩, hw⟩ := h
    rw [List.map_eq_nil_iff, List.filter_eq_nil_iff]
    constructor
    · intro hno port hp ho
      exact hno port hp ho.covers
    · intro hno port hp hc
      exact hno port hp ⟨⟨ha, ht⟩, hw, hc⟩
  case isFalse h =>
    refine iff_of_true rfl fun port _ ho => h ?_
    rw [ho.admits.accept, ho.admits.tcp, ho.world]
    rfl

theorem openPorts_eq_nil : rules.flatMap (openPortsOf ports) = [] ↔ ¬ Exposed ports rules := by
  simp only [List.flatMap_eq_nil_iff, openPortsOf_eq_nil, Exposed, not_exists, not_and]

theorem hasRuleData_of_rules (h : readRules (r.spec "inbound_rules_detail") = .ok rules)
    (hne : rules ≠ []) : hasRuleData r = true := by
  cases hs : r.specs.get? "inbound_rules_detail" with
  | none =>
    have hnull : r.spec "inbound_rules_detail" = .null := by
      rw [Resource.spec, Fields.getD, hs]
      rfl
    rw [hnull] at h
    cases h
    exact absurd rfl hne
  | some v =>
    have hspec : r.hasSpec "inbound_rules_detail" = true := by
      rw [Resource.hasSpec, hs]
      rfl
    rw [hasRuleData, List.any_cons, hspec, Bool.true_or]

/-- A firewall counts as open if a rule opens a sensitive port, or if there is no rule and the
policy is to accept. -/
def CountsAsOpen (ports : List Int) (policy : Json) (rules : List FirewallRule) : Prop :=
  Exposed ports rules ∨ Text.upper (policy.orElse (.str "")).text = "ACCEPT" ∧ rules = []

theorem noOpenInbound_ok (inv : Inventory) (hd : hasRuleData r = true)
    (hcfg : rule.configAs NoOpenInboundConfig.schema = .ok cfg) (hr : HasInbound r policy rules) :
    ∃ o, noOpenInbound rule r inv = .ok o ∧
      (CountsAsOpen cfg.sensitivePorts policy rules ∧ o.status = .nonCompliant ∨
        ¬ CountsAsOpen cfg.sensitivePorts policy rules ∧ o.status = .compliant) := by
  have hv : (!(rules.flatMap (openPortsOf cfg.sensitivePorts)).isEmpty) = true ↔
      Exposed cfg.sensitivePorts rules := by
    rw [Bool.not_eq_true', ← Bool.not_eq_true, List.isEmpty_iff, openPorts_eq_nil, not_not]
  have hp : policyText r "inbound_policy" "" = "ACCEPT" ∧ rules.isEmpty = true ↔
      Text.upper (policy.orElse (.str "")).text = "ACCEPT" ∧ rules = [] := by
    rw [policyText, hr.policy, List.isEmpty_iff]
  rw [noOpenInbound, if_neg (by simp [hd]), hcfg, hr.rules]
  change ∃ o, (if (!(rules.flatMap _).isEmpty) = true then _
    else if policyText r "inbound_policy" "" = "ACCEPT" ∧ rules.isEmpty = true then _ else _) = _ ∧ _
  rw [CountsAsOpen, ← hv, ← hp]
  split
  case isTrue h => exact ⟨_, rfl, .inl ⟨.inl h, rfl⟩⟩
  case isFalse h =>
    split
    case isTrue h' => exact ⟨_, rfl, .inl ⟨.inr h', rfl⟩⟩
    case isFalse h' => exact ⟨_, rfl, .inr ⟨not_or.mpr ⟨h, h'⟩, rfl⟩⟩

theorem noOpenInbound_nonCompliant (hd : hasRuleData r = true)
    (hcfg : rule.configAs NoOpenInboundConfig.schema = .ok cfg) (hr : HasInbound r policy rules) :
    Gives (noOpenInbound rule r inv) .nonCompliant ↔
      CountsAsOpen cfg.sensitivePorts policy rules := by
  obtain ⟨o, ho, ⟨hopen, hs⟩ | ⟨hopen, hs⟩⟩ := noOpenInbound_ok inv hd hcfg hr
  · exact iff_of_true ⟨o, ho, hs⟩ hopen
  · refine iff_of_false ?_ hopen
    rintro ⟨o', ho', hs'⟩
    cases ho.symm.trans ho'
    cases hs.symm.trans hs'

theorem noOpenInbound_compliant (hd : hasRuleData r = true)
    (hcfg : rule.configAs NoOpenInboundConfig.schema = .ok cfg) (hr : HasInbound r policy rules)
    (hopen : ¬ CountsAsOpen cfg.sensitivePorts policy rules) :
    Gives (noOpenInbound rule r inv) .compliant := by
  obtain ⟨o, ho, ⟨h, -⟩ | ⟨-, hs⟩⟩ := noOpenInbound_ok inv hd hcfg hr
  · exact absurd h hopen
  · exact ⟨o, ho, hs⟩

theorem hasRuleData_of_gives (h : Gives (noOpenInbound rule r inv) .nonCompliant) :
    hasRuleData r = true := by
  by_contra hd
  obtain ⟨o, ho, hs⟩ := h
  rw [noOpenInbound, if_pos (by simpa using hd)] at ho
  cases ho
  cases hs

/-- A firewall that was found open stays so when a rule opens more addresses, when more ports are
sensitive, and when a rule is put in anywhere among others. The first rule of a firewall ends the
case of a policy without rules: then it is the rule alone that counts. -/
theorem noOpenInbound_monotone (hcfg : rule.configAs NoOpenInboundConfig.schema = .ok cfg)
    (hr : HasInbound r policy rules) (hbad : Gives (noOpenInbound rule r inv) .nonCompliant) :
    (∀ r' before added after, rules = before ++ after →
      HasInbound r' policy (before ++ added :: after) →
      (rules ≠ [] ∨ (∃ port ∈ cfg.sensitivePorts, added.Opens port) →
        Gives (noOpenInbound rule r' inv) .nonCompliant) ∧
      (rules = [] → (∀ port ∈ cfg.sensitivePorts, ¬ added.Opens port) →
        Gives (noOpenInbound rule r' inv) .compliant)) ∧
    (∀ rule' cfg', rule'.configAs NoOpenInboundConfig.schema = .ok cfg' →
      cfg.sensitivePorts ⊆ cfg'.sensitivePorts → Gives (noOpenInbound rule' r inv) .nonCompliant) ∧
    ∀ r' before old new after, rules = before ++ old :: after →
      HasInbound r' policy (before ++ new :: after) → old.Widens new →
      Gives (noOpenInbound rule r' inv) .nonCompliant := by
  have hd := hasRuleData_of_gives hbad
  have hopen := (noOpenInbound_nonCompliant hd hcfg hr).mp hbad
  have hd' {r' : Resource} {before after : List FirewallRule} {rule : FirewallRule}
      (hr' : HasInbound r' policy (before ++ rule :: after)) : hasRuleData r' = true :=
    hasRuleData_of_rules hr'.rules (by simp)
  refine ⟨?_, ?_, ?_⟩
  · rintro r' before added after rfl hr'
    constructor
    · intro h
      rw [noOpenInbound_nonCompliant (hd' hr') hcfg hr']
      obtain hne | ⟨port, hp, ho⟩ := h
      · exact .inl ((hopen.resolve_right fun hn => hne hn.2).insert added)
      · exact .inl ⟨added, List.mem_append_right _ List.mem_cons_self, port, hp, ho⟩
    · intro hnil hno
      apply noOpenInbound_compliant (hd' hr') hcfg hr'
      obtain ⟨rfl, rfl⟩ := List.append_eq_nil_iff.mp hnil
      rintro (⟨other, hm, port, hp, ho⟩ | ⟨-, hn⟩)
      · obtain rfl := List.mem_singleton.mp hm
        exact hno port hp ho
      · cases hn
  · intro rule' cfg' hcfg' hports
    rw [noOpenInbound_nonCompliant hd hcfg' hr]
    refine hopen.imp_left ?_
    rintro ⟨other, hm, port, hp, ho⟩
    exact ⟨other, hm, port, hports hp, ho⟩
  · rintro r' before old new after rfl hr' hw
    rw [noOpenInbound_nonCompliant (hd' hr') hcfg hr']
    refine .inl ((hopen.resolve_right ?_).widen hw)
    rintro ⟨-, hn⟩
    exact List.append_ne_nil_of_right_ne_nil before (List.cons_ne_nil old after) hn

/-- A rule for web traffic is put in before one that opens a sensitive port. -/
theorem noOpenInbound_monotone_web :
    let rule : Rule := ⟨"open", "Open", "", ["firewall"], "no_open_inbound", [], .warning, true, none,
      false⟩
    let json (port : String) : Json := .obj [("action", .str "accept"), ("protocol", .str "tcp"),
      ("ports", .str port), ("addresses", .obj [("ipv4", .arr [.str "0.0.0.0/0"])])]
    let parsed (port : String) : FirewallRule :=
      { action := some "accept", protocol := some "tcp", ports := some port,
        addresses := ⟨["0.0.0.0/0"], []⟩ }
    let fw (items : List Json) : Resource :=
      { id := "fw", type := "firewall", specs := [("inbound_rules_detail", .arr items)] }
    let inv : Inventory := ⟨"a", [], ⟨2026, 3, 1, 9, 0, 0, 0, some 0⟩⟩
    rule.configAs NoOpenInboundConfig.schema = .ok ⟨NoOpenInboundConfig.defaultPorts⟩ ∧
      HasInbound (fw [json "20-25"]) .null [parsed "20-25"] ∧
      HasInbound (fw [json "443", json "20-25"]) .null [parsed "443", parsed "20-25"] ∧
      Gives (noOpenInbound rule (fw [json "20-25"]) inv) .nonCompliant ∧
      Gives (noOpenInbound rule (fw [json "443", json "20-25"]) inv) .nonCompliant := by
  intro rule json parsed fw inv
  have hcfg : rule.configAs NoOpenInboundConfig.schema =
      .ok ⟨NoOpenInboundConfig.defaultPorts⟩ := rfl
  have hr : HasInbound (fw [json "20-25"]) .null [parsed "20-25"] := ⟨rfl, rfl⟩
  have hr' : HasInbound (fw [json "443", json "20-25"]) .null [parsed "443", parsed "20-25"] :=
    ⟨rfl, rfl⟩
  have hbad : Gives (noOpenInbound rule (fw [json "20-25"]) inv) .nonCompliant :=
    gives_iff.mpr (by decide +kernel)
  refine ⟨hcfg, hr, hr', hbad, ?_⟩
  exact ((noOpenInbound_monotone hcfg hr hbad).1 _ [] (parsed "443") [parsed "20-25"] rfl hr').1
    (.inl (by simp))

/-- A first rule, for web traffic, makes a firewall that accepts everything count as safe. -/
theorem noOpenInbound_monotone_first :
    let rule : Rule := ⟨"open", "Open", "", ["firewall"], "no_open_inbound", [], .warning, true, none,
      false⟩
    let web : Json := .obj [("action", .str "ACCEPT"), ("protocol", .str "TCP"),
      ("ports", .str "443"), ("addresses", .obj [("ipv4", .arr [.str "0.0.0.0/0"])])]
    let added : FirewallRule :=
      { action := some "ACCEPT", protocol := some "TCP", ports := some "443",
        addresses := ⟨["0.0.0.0/0"], []⟩ }
    let fw (items : List Json) : Resource :=
      { id := "fw", type := "firewall",
        specs := [("inbound_rules_detail", .arr items), ("inbound_policy", .str "ACCEPT")] }
    let inv : Inventory := ⟨"a", [], ⟨2026, 3, 1, 9, 0, 0, 0, some 0⟩⟩
    HasInbound (fw []) (.str "ACCEPT") [] ∧ HasInbound (fw [web]) (.str "ACCEPT") [added] ∧
      added.isAccept = true ∧
      Gives (noOpenInbound rule (fw []) inv) .nonCompliant ∧
      Gives (noOpenInbound rule (fw [web]) inv) .compliant ∧
      ¬ Gives (noOpenInbound rule (fw [web]) inv) .nonCompliant := by
  intro rule web added fw inv
  simp only [gives_iff]
  exact ⟨⟨rfl, rfl⟩, ⟨rfl, rfl⟩, by decide +kernel, by decide +kernel, by decide +kernel,
    by decide +kernel⟩

end Check

end CloudAudit
