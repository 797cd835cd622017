import Mathlib.Data.List.Flatten
import CloudAudit.Check.Registry
import CloudAudit.Proofs.Check.Policy

namespace CloudAudit

open Result

namespace Resource

/-- A firewall before and after a rule is put in anywhere in one of its lists of rules. -/
structure GainsRule (list : String) (fw fw' : Resource) : Prop where
  same : fw' = { fw with specs := fw'.specs }
  others : ∀ name, name ≠ list → fw'.spec name = fw.spec name
  inserted : ∃ before item after rule, (fw.spec list).itemsOrNone = .ok (before ++ after) ∧
    (fw'.spec list).itemsOrNone = .ok (before ++ item :: after) ∧
    FirewallRule.schema.read item = .ok rule

/-- The same resource, or one that gets an inbound or an outbound rule. -/
def MayGainRule (fw fw' : Resource) : Prop :=
  fw' = fw ∨ fw.GainsRule "inbound_rules_detail" fw' ∨ fw.GainsRule "outbound_rules_detail" fw'

/-- The same resource but for more rules, which stand among the old ones. -/
structure KeepsRules (fw fw' : Resource) : Prop where
  sameButRules : fw.SameButRules fw'
  rules : ∀ list rules, Check.readRules (fw.spec list) = .ok rules →
    ∃ rules', Check.readRules (fw'.spec list) = .ok rules' ∧ rules.Sublist rules'

end Resource

namespace Check

theorem readRules_insert {v v' item : Json} {before after : List Json} {added : FirewallRule}
    {rules : List FirewallRule} (hv : v.itemsOrNone = .ok (before ++ after))
    (hv' : v'.itemsOrNone = .ok (before ++ item :: after))
    (hitem : FirewallRule.schema.read item = .ok added) (hr : readRules v = .ok rules) :
    ∃ front back, rules = front ++ back ∧ readRules v' = .ok (front ++ added :: back) := by
  rw [readRules, hv] at hr
  rw [readRules, hv']
  change (before ++ after).mapM _ = _ at hr
  rw [List.mapM_append] at hr
  obtain ⟨front, hfront, hr⟩ := bind_eq_ok.mp hr
  obtain ⟨back, hback, hr⟩ := bind_eq_ok.mp hr
  cases hr
  refine ⟨front, back, rfl, ?_⟩
  change (before ++ item :: after).mapM _ = _
  rw [List.mapM_append, List.mapM_cons, hfront, hback, hitem]
  rfl

end Check

namespace Resource

variable {fw fw' : Resource} {list : String}

theorem GainsRule.keepsRules (h : fw.GainsRule list fw')
    (hlist : list ∈ ["inbound_rules_detail", "outbound_rules_detail"]) : fw.KeepsRules fw' := by
  refine ⟨⟨h.same, ?_⟩, ?_⟩
  · intro name hin hout
    apply h.others
    rintro rfl
    simp [hin, hout] at hlist
  · intro name rules hr
    by_cases hname : name = list
    · subst hname
      obtain ⟨before, item, after, added, hv, hv', hitem⟩ := h.inserted
      obtain ⟨front, back, rfl, hr'⟩ := Check.readRules_insert hv hv' hitem hr
      exact ⟨_, hr', (List.sublist_cons_self added back).append_left front⟩
    · exact ⟨rules, by rwa [h.others name hname], .refl rules⟩

theorem MayGainRule.keepsRules (h : fw.MayGainRule fw') : fw.KeepsRules fw' := by
  obtain rfl | h | h := h
  · exact ⟨.refl _, fun _ rules hr => ⟨rules, hr, .refl rules⟩⟩
  · exact h.keepsRules (by decide)
  · exact h.keepsRules (by decide)

end Resource

namespace Check

variable {rule : Rule} {r r' fw fw' : Resource} {inv : Inventory} {resources : List Resource}
  {rules rules' : List FirewallRule}

theorem ne_nil_of_sublist {violations violations' : List String}
    (h : violations.Sublist violations') (hne : violations ≠ []) : violations' ≠ [] := by
  rintro rfl
  exact hne (List.sublist_nil.mp h)

theorem gives_violations {c : Prop} [Decidable c] {violations : List String} {d₁ d₂ d₃ : String}
    (h : c → violations = []) :
    Gives (if c then pure (.notApplicable d₁) else
      if (!violations.isEmpty) = true then pure (.nonCompliant d₂) else pure (.compliant d₃))
        .nonCompliant ↔ violations ≠ [] := by
  rw [gives_ite, gives_reported]
  constructor
  · rintro (⟨-, hs⟩ | ⟨-, ⟨hne, -⟩ | ⟨-, hs⟩⟩)
    · cases gives_ok.mp hs
    · exact hne
    · cases hs
  · intro hne
    exact .inr ⟨fun hc => hne (h hc), .inl ⟨hne, rfl⟩⟩

theorem firewallLateral_nonCompliant : Gives (firewallLateral rule r inv) .nonCompliant ↔
    ∃ cfg, rule.configAs LateralMovementConfig.schema = .ok cfg ∧
      ∃ rules, readRules (r.spec "inbound_rules_detail") = .ok rules ∧
        rules.flatMap (lateralPortsOf cfg.sensitivePorts) ≠ [] := by
  rw [firewallLateral, gives_bind]
  simp only [lift_config_eq_ok, gives_bind]
  refine exists_congr fun cfg => and_congr_right fun _ => ?_
  refine exists_congr fun rules => and_congr_right fun _ => ?_
  apply gives_violations
  intro hnil
  rw [List.isEmpty_iff.mp hnil]
  rfl

theorem firewallLateral_grows (h : r.KeepsRules r')
    (hbad : Gives (firewallLateral rule r inv) .nonCompliant) (inv' : Inventory) :
    Gives (firewallLateral rule r' inv') .nonCompliant := by
  rw [firewallLateral_nonCompliant] at hbad ⊢
  obtain ⟨cfg, hcfg, rules, hr, hne⟩ := hbad
  obtain ⟨rules', hr', hsub⟩ := h.rules _ rules hr
  exact ⟨cfg, hcfg, rules', hr', ne_nil_of_sublist (hsub.flatMap _) hne⟩

/-- The rules of a list that a check looks at only if it is asked to. -/
def rulesIf (asked : Bool) (raw : Json) : Except CheckFault (List FirewallRule) :=
  if asked then readRules raw else pure []

theorem rulesIf_bind {α : Type} {asked : Bool} {raw : Json}
    {f : List FirewallRule → Except CheckFault α} :
    (if asked = true then readRules raw >>= f else pure [] >>= f) = rulesIf asked raw >>= f := by
  cases asked <;> rfl

theorem rulesIf_grows (h : r.KeepsRules r') {asked : Bool} {list : String}
    (hr : rulesIf asked (r.spec list) = .ok rules) :
    ∃ rules', rulesIf asked (r'.spec list) = .ok rules' ∧ rules.Sublist rules' := by
  cases asked with
  | false => exact ⟨rules, hr, .refl rules⟩
  | true => exact h.rules list rules hr

theorem firewallAllPorts_nonCompliant : Gives (firewallAllPorts rule r inv) .nonCompliant ↔
    ∃ cfg, rule.configAs AllPortsConfig.schema = .ok cfg ∧
      ∃ inbound, rulesIf cfg.checkInbound (r.spec "inbound_rules_detail") = .ok inbound ∧
        ∃ outbound, rulesIf cfg.checkOutbound (r.spec "outbound_rules_detail") = .ok outbound ∧
          inbound.filterMap (allPortsOf (cfg.actions.map Text.upper) "Inbound") ++
            outbound.filterMap (allPortsOf (cfg.actions.map Text.upper) "Outbound") ≠ [] := by
  rw [firewallAllPorts]
  simp only [rulesIf_bind, gives_bind, lift_config_eq_ok]
  refine exists_congr fun cfg => and_congr_right fun _ => ?_
  refine exists_congr fun inbound => and_congr_right fun _ => ?_
  refine exists_congr fun outbound => and_congr_right fun _ => ?_
  apply gives_violations
  intro hnone
  obtain ⟨hin, hout⟩ := Nat.add_eq_zero_iff.mp hnone
  rw [List.length_eq_zero_iff.mp hin, List.length_eq_zero_iff.mp hout]
  rfl

theorem firewallAllPorts_grows (h : r.KeepsRules r')
    (hbad : Gives (firewallAllPorts rule r inv) .nonCompliant) (inv' : Inventory) :
    Gives (firewallAllPorts rule r' inv') .nonCompliant := by
  rw [firewallAllPorts_nonCompliant] at hbad ⊢
  obtain ⟨cfg, hcfg, inbound, hin, outbound, hout, hne⟩ := hbad
  obtain ⟨inbound', hin', hsubin⟩ := rulesIf_grows h hin
  obtain ⟨outbound', hout', hsubout⟩ := rulesIf_grows h hout
  refine ⟨cfg, hcfg, inbound', hin', outbound', hout', ?_⟩
  exact ne_nil_of_sublist ((hsubin.filterMap _).append (hsubout.filterMap _)) hne

theorem lookup_cons_eq_none {seen : List (String × String)} {key key' label : String} :
    ((key, label) :: seen).lookup key' = none ↔ key' ≠ key ∧ seen.lookup key' = none := by
  rw [List.lookup_cons]
  by_cases h : key' = key
  · rw [h, beq_self_eq_true]
    exact iff_of_false nofun fun hn => hn.1 rfl
  · rw [beq_false_of_ne h]
    exact ⟨fun hn => ⟨h, hn⟩, fun hn => hn.2⟩

theorem duplicatesAfter_eq_nil {direction : String} {seen : List (String × String)} :
    duplicatesAfter direction seen rules = [] ↔ (rules.map FirewallRule.fingerprint).Nodup ∧
      ∀ rule ∈ rules, seen.lookup rule.fingerprint = none := by
  induction rules generalizing seen with
  | nil => exact iff_of_true rfl ⟨.nil, List.forall_mem_nil _⟩
  | cons first rules ih =>
    rw [duplicatesAfter, List.forall_mem_cons]
    split
    case h_1 label hseen =>
      apply iff_of_false (List.cons_ne_nil _ _)
      rintro ⟨-, hnone, -⟩
      cases hseen.symm.trans hnone
    case h_2 hnone =>
      simp only [ih, lookup_cons_eq_none, List.map_cons, List.nodup_cons, List.mem_map, not_exists,
        not_and]
      constructor
      · rintro ⟨hnodup, hother⟩
        refine ⟨⟨?_, hnodup⟩, hnone, fun rule hr => (hother rule hr).2⟩
        exact fun rule hr => (hother rule hr).1
      · rintro ⟨⟨hfirst, hnodup⟩, -, hother⟩
        exact ⟨hnodup, fun rule hr => ⟨hfirst rule hr, hother rule hr⟩⟩

theorem duplicates_eq_nil (direction : String) (rules : List FirewallRule) :
    duplicatesAfter direction [] rules = [] ↔ (rules.map FirewallRule.fingerprint).Nodup :=
  duplicatesAfter_eq_nil.trans (and_iff_left fun _ _ => rfl)

theorem firewallNoDuplicates_nonCompliant :
    Gives (firewallNoDuplicates rule r inv) .nonCompliant ↔
      ∃ inbound, readRules (r.spec "inbound_rules_detail") = .ok inbound ∧
        ∃ outbound, readRules (r.spec "outbound_rules_detail") = .ok outbound ∧
          ¬ ((inbound.map FirewallRule.fingerprint).Nodup ∧
            (outbound.map FirewallRule.fingerprint).Nodup) := by
  rw [firewallNoDuplicates]
  simp only [gives_bind]
  refine exists_congr fun inbound => and_congr_right fun _ => ?_
  refine exists_congr fun outbound => and_congr_right fun _ => ?_
  rw [← duplicates_eq_nil "Inbound", ← duplicates_eq_nil "Outbound", ← List.append_eq_nil_iff]
  apply gives_violations
  intro hnone
  obtain ⟨hin, hout⟩ := Nat.add_eq_zero_iff.mp hnone
  rw [List.length_eq_zero_iff.mp hin, List.length_eq_zero_iff.mp hout]
  rfl

theorem firewallNoDuplicates_grows (h : r.KeepsRules r')
    (hbad : Gives (firewallNoDuplicates rule r inv) .nonCompliant) (inv' : Inventory) :
    Gives (firewallNoDuplicates rule r' inv') .nonCompliant := by
  rw [firewallNoDuplicates_nonCompliant] at hbad ⊢
  obtain ⟨inbound, hin, outbound, hout, hdup⟩ := hbad
  obtain ⟨inbound', hin', hsubin⟩ := h.rules _ inbound hin
  obtain ⟨outbound', hout', hsubout⟩ := h.rules _ outbound hout
  refine ⟨inbound', hin', outbound', hout', fun hnodup => hdup ?_⟩
  exact ⟨hnodup.1.sublist (hsubin.map _), hnodup.2.sublist (hsubout.map _)⟩

theorem firewallDescriptions_nonCompliant :
    Gives (firewallDescriptions rule r inv) .nonCompliant ↔
      ∃ inbound, readRules (r.spec "inbound_rules_detail") = .ok inbound ∧
        ∃ outbound, readRules (r.spec "outbound_rules_detail") = .ok outbound ∧
          ∃ bare ∈ inbound ++ outbound, Text.trim (bare.description.getD "") = "" := by
  rw [firewallDescriptions]
  simp only [gives_bind]
  refine exists_congr fun inbound => and_congr_right fun _ => ?_
  refine exists_congr fun outbound => and_congr_right fun _ => ?_
  have hbare : ((inbound ++ outbound).filter fun rule =>
      Text.trim (rule.description.getD "") == "").isEmpty = true ↔
      ¬ ∃ bare ∈ inbound ++ outbound, Text.trim (bare.description.getD "") = "" := by
    rw [List.isEmpty_iff, List.filter_eq_nil_iff]
    simp only [beq_iff_eq, not_exists, not_and]
  change Gives (if (inbound ++ outbound).isEmpty = true then .ok (.notApplicable _) else
    if List.isEmpty _ = true then .ok (.compliant _) else .ok (.nonCompliant _)) _ ↔ _
  rw [gives_ite, gives_ite, gives_ok, gives_ok, gives_ok, hbare, not_not]
  constructor
  · rintro (⟨-, hs⟩ | ⟨-, ⟨-, hs⟩ | ⟨hex, -⟩⟩)
    · cases hs
    · cases hs
    · exact hex
  · intro hex
    refine .inr ⟨fun hnil => ?_, .inr ⟨hex, rfl⟩⟩
    obtain ⟨bare, hm, -⟩ := hex
    rw [List.isEmpty_iff.mp hnil] at hm
    cases hm

theorem firewallDescriptions_grows (h : r.KeepsRules r')
    (hbad : Gives (firewallDescriptions rule r inv) .nonCompliant) (inv' : Inventory) :
    Gives (firewallDescriptions rule r' inv') .nonCompliant := by
  rw [firewallDescriptions_nonCompliant] at hbad ⊢
  obtain ⟨inbound, hin, outbound, hout, bare, hm, hb⟩ := hbad
  obtain ⟨inbound', hin', hsubin⟩ := h.rules _ inbound hin
  obtain ⟨outbound', hout', hsubout⟩ := h.rules _ outbound hout
  exact ⟨inbound', hin', outbound', hout', bare, (hsubin.append hsubout).subset hm, hb⟩

theorem firewallRulesCheck_nonCompliant : Gives (firewallRulesCheck rule r inv) .nonCompliant ↔
    ∃ found, inv.protectors r = .ok found ∧ (found = [] ∨
      knownFirewalls inv found ≠ [] ∧
        ∃ cfg, rule.configAs FirewallPolicyConfig.schema = .ok cfg ∧
          ∃ lists, (knownFirewalls inv found).mapM (policyViolations cfg) = .ok lists ∧
            lists.flatten ≠ []) := by
  rw [firewallRulesCheck_gives]
  simp only [reduceCtorEq, and_false, and_true, or_false, false_or]

theorem knownFirewalls_forall₂ (h : List.Forall₂ Resource.KeepsRules inv.resources resources)
    (found : List Protector) : List.Forall₂ Resource.KeepsRules (knownFirewalls inv found)
      (knownFirewalls { inv with resources } found) := by
  have hfound : List.Forall₂ Eq found found := List.forall₂_refl found
  refine List.rel_filterMap ?_ hfound
  rintro p _ rfl
  exact Inventory.firewall?_rel (fun _ _ hfw => hfw.sameButRules) h p.number

theorem policyViolations_grows {cfg : FirewallPolicyConfig} (h : fw.KeepsRules fw')
    {vs : List String} (hvs : policyViolations cfg fw = .ok vs) :
    ∃ vs', policyViolations cfg fw' = .ok vs' ∧ vs.Sublist vs' := by
  have hname : firewallName fw' = firewallName fw := by
    rw [firewallName, h.sameButRules.label, h.sameButRules.id, firewallName]
  have hpolicy (name : String) (hin : name ≠ "inbound_rules_detail")
      (hout : name ≠ "outbound_rules_detail") (default : String) :
      policyText fw' name default = policyText fw name default := by
    rw [policyText, h.sameButRules.specs name hin hout, policyText]
  obtain ⟨rules, hr, hvs⟩ := bind_eq_ok.mp hvs
  cases hvs
  obtain ⟨rules', hr', hsub⟩ := h.rules _ rules hr
  refine ⟨_, bind_eq_ok.mpr ⟨rules', hr', rfl⟩, ?_⟩
  rw [hname, hpolicy _ (by decide) (by decide), hpolicy _ (by decide) (by decide)]
  exact (hsub.flatMap _).append_left _

theorem mapM_policyViolations_grows {cfg : FirewallPolicyConfig} {fws fws' : List Resource}
    (h : List.Forall₂ Resource.KeepsRules fws fws') {lists : List (List String)}
    (hlists : fws.mapM (policyViolations cfg) = .ok lists) :
    ∃ lists', fws'.mapM (policyViolations cfg) = .ok lists' ∧
      lists.flatten.Sublist lists'.flatten := by
  induction h generalizing lists with
  | nil => exact ⟨lists, hlists, .refl _⟩
  | cons hfw hfws ih =>
    rw [List.mapM_cons] at hlists
    obtain ⟨vs, hvs, hlists⟩ := bind_eq_ok.mp hlists
    obtain ⟨rest, hrest, hlists⟩ := bind_eq_ok.mp hlists
    cases hlists
    obtain ⟨vs', hvs', hsub⟩ := policyViolations_grows hfw hvs
    obtain ⟨rest', hrest', hsubs⟩ := ih hrest
    refine ⟨vs' :: rest', ?_, hsub.append hsubs⟩
    rw [List.mapM_cons, hvs', hrest']
    rfl

theorem firewallRulesCheck_grows (hr : r.KeepsRules r')
    (h : List.Forall₂ Resource.KeepsRules inv.resources resources)
    (hbad : Gives (firewallRulesCheck rule r inv) .nonCompliant) :
    Gives (firewallRulesCheck rule r' { inv with resources }) .nonCompliant := by
  rw [firewallRulesCheck_nonCompliant] at hbad ⊢
  obtain ⟨found, hfound, hbad⟩ := hbad
  have hsame := h.imp fun _ _ hfw => hfw.sameButRules
  refine ⟨found, (Inventory.protectors_sameButRules hr.sameButRules hsame).trans hfound, ?_⟩
  refine hbad.imp_right ?_
  rintro ⟨hknown, cfg, hcfg, lists, hlists, hne⟩
  have hfws : List.Forall₂ Resource.KeepsRules (knownFirewalls inv found)
      (knownFirewalls { inv with resources } found) := knownFirewalls_forall₂ h found
  obtain ⟨lists', hlists', hsub⟩ := mapM_policyViolations_grows hfws hlists
  refine ⟨?_, cfg, hcfg, lists', hlists', ne_nil_of_sublist hsub hne⟩
  rintro hnil
  rw [hnil, List.forall₂_nil_right_iff] at hfws
  exact hknown hfws

/-- A firewall, or an instance behind firewalls, that a check of rules is against, is not found any
better when a rule is put in anywhere among the inbound or the outbound rules of a firewall. -/
theorem nonCompliant_of_mayGainRule {kind : ConditionKind} {check : ResourceCheck}
    (hkind : kind ∈ [.firewallLateral, .firewallAllPorts, .firewallRulesCheck,
      .firewallNoDuplicates, .firewallDescriptions])
    (hcheck : kind.check? = some (.resource check)) (hr : r.MayGainRule r')
    (h : List.Forall₂ Resource.MayGainRule inv.resources resources)
    (hbad : Gives (check rule r inv) .nonCompliant) :
    Gives (check rule r' { inv with resources }) .nonCompliant := by
  have hr := hr.keepsRules
  have h := h.imp fun _ _ hfw => hfw.keepsRules
  simp only [List.mem_cons, List.not_mem_nil, or_false] at hkind
  obtain rfl | rfl | rfl | rfl | rfl := hkind <;> cases hcheck
  · exact firewallLateral_grows hr hbad _
  · exact firewallAllPorts_grows hr hbad _
  · exact firewallRulesCheck_grows hr h hbad
  · exact firewallNoDuplicates_grows hr hbad _
  · exact firewallDescriptions_grows hr hbad _

/-- The second of two firewalls of an instance lets in SSH. It gets a rule for web traffic before
that one, and the other firewall a first outbound rule. -/
theorem nonCompliant_of_mayGainRule_web :
    let rule : Rule := ⟨"fw", "Firewalls", "", ["linode"], "firewall_rules_check",
      [("blocked_ports", .arr [.int 22])], .warning, true, none, false⟩
    let json (port : String) : Json := .obj [("action", .str "ACCEPT"), ("protocol", .str "TCP"),
      ("ports", .str port)]
    let r : Resource := { id := "vm", type := "linode", specs := [("attached_firewalls",
      .arr [.obj [("id", .int 31)], .obj [("id", .int 32)]])] }
    let fw (number : String) (inbound outbound : List Json) : Resource :=
      { id := number, providerId := number, type := "firewall", specs := [
        ("inbound_rules_detail", .arr inbound), ("outbound_rules_detail", .arr outbound)] }
    let inv : Inventory :=
      ⟨"a", [r, fw "31" [] [], fw "32" [json "22"] []], ⟨2026, 3, 1, 9, 0, 0, 0, some 0⟩⟩
    let resources := [r, fw "31" [] [json "443"], fw "32" [json "443", json "22"] []]
    List.Forall₂ Resource.MayGainRule inv.resources resources ∧
      Gives (firewallRulesCheck rule r inv) .nonCompliant ∧
      Gives (firewallRulesCheck rule r { inv with resources }) .nonCompliant := by
  intro rule json r fw inv resources
  have hout : (fw "31" [] []).GainsRule "outbound_rules_detail" (fw "31" [] [json "443"]) := by
    refine ⟨rfl, fun name hne => ?_, [], json "443", [], _, rfl, rfl, rfl⟩
    simp [fw, Resource.spec, Fields.getD, Fields.get?, List.lookup_cons, beq_false_of_ne hne]
  have hin : (fw "32" [json "22"] []).GainsRule "inbound_rules_detail"
      (fw "32" [json "443", json "22"] []) := by
    refine ⟨rfl, fun name hne => ?_, [], json "443", [json "22"], _, rfl, rfl, rfl⟩
    simp [fw, Resource.spec, Fields.getD, Fields.get?, List.lookup_cons, beq_false_of_ne hne]
  have h : List.Forall₂ Resource.MayGainRule inv.resources resources :=
    .cons (.inl rfl) (.cons (.inr (.inr hout)) (.cons (.inr (.inl hin)) .nil))
  have hbad : Gives (firewallRulesCheck rule r inv) .nonCompliant :=
    gives_iff.mpr (by decide +kernel)
  have hcheck : ConditionKind.firewallRulesCheck.check? = some (.resource firewallRulesCheck) := rfl
  exact ⟨h, hbad, nonCompliant_of_mayGainRule (by decide) hcheck (.inl rfl) h hbad⟩

end Check

end CloudAudit
