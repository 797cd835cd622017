import Mathlib.Data.Finset.Card
import Mathlib.Data.Finset.Dedup
import Mathlib.Data.Finset.Insert
import CloudAudit.Proofs.Check.Insertion
import CloudAudit.Proofs.Network.Fingerprint

namespace CloudAudit

open Text

namespace FirewallRule

variable {r r' rule first : FirewallRule} {before rules rules' : List FirewallRule}

/-- The first rule of a list that has the fingerprint of the given one. -/
def firstLike (rules : List FirewallRule) (rule : FirewallRule) : Option FirewallRule :=
  rules.find? (·.fingerprint == rule.fingerprint)

/-- The rules that stand after one with their fingerprint, each with the first such rule. -/
def repeats (rules : List FirewallRule) : List (FirewallRule × FirewallRule) :=
  rules.zipIdx.filterMap fun (rule, i) => (firstLike (rules.take i) rule).map (rule, ·)

/-- Those of the rules that repeat one of themselves or of the rules before them. -/
def repeatsAfter (before rules : List FirewallRule) : List (FirewallRule × FirewallRule) :=
  (rules.zipIdx before.length).filterMap fun (rule, i) =>
    (firstLike ((before ++ rules).take i) rule).map (rule, ·)

theorem repeatsAfter_nil_left : repeatsAfter [] rules = repeats rules := rfl

theorem firstLike_eq_none :
    firstLike before rule = none ↔ rule.fingerprint ∉ before.map fingerprint := by
  rw [firstLike, List.find?_eq_none, List.mem_map, not_exists]
  refine forall_congr' fun other => ?_
  rw [beq_iff_eq, not_and]

theorem firstLike_append (rule : FirewallRule) : firstLike (before ++ rules) rule =
    (firstLike before rule).or (firstLike rules rule) :=
  List.find?_append

theorem firstLike_singleton (hsame : r.fingerprint = rule.fingerprint) :
    firstLike [r] rule = some r := by
  rw [firstLike, List.find?_cons_of_pos]
  rw [hsame, beq_self_eq_true]

theorem firstLike_singleton_of_ne (hne : r.fingerprint ≠ rule.fingerprint) :
    firstLike [r] rule = none := by
  rw [firstLike_eq_none, List.map_singleton, List.mem_singleton]
  exact hne.symm

theorem firstLike_congr (hsame : r.fingerprint = rule.fingerprint) :
    firstLike rules r = firstLike rules rule := by
  rw [firstLike, firstLike, hsame]

theorem repeatsAfter_cons : repeatsAfter before (rule :: rules) =
    ((firstLike before rule).map (rule, ·)).toList ++ repeatsAfter (before ++ [rule]) rules := by
  have htake : (before ++ rule :: rules).take before.length = before := List.take_left
  have hlength : (before ++ [rule]).length = before.length + 1 := List.length_append
  rw [repeatsAfter, List.zipIdx_cons, List.filterMap_cons]
  simp only [htake]
  rw [repeatsAfter, hlength, List.append_assoc, List.singleton_append]
  cases (firstLike before rule).map (rule, ·) with
  | none => rfl
  | some pair => rfl

theorem toFinset_fingerprints_concat : ((before ++ [rule]).map fingerprint).toFinset =
    insert rule.fingerprint (before.map fingerprint).toFinset := by
  rw [← List.toFinset_cons, ← List.map_cons]
  exact List.toFinset_eq_of_perm _ _ ((List.perm_append_singleton rule before).map fingerprint)

theorem card_fingerprints_known (h : firstLike before rule = some first) :
    ((before ++ [rule]).map fingerprint).toFinset.card =
      (before.map fingerprint).toFinset.card := by
  have hmem : rule.fingerprint ∈ (before.map fingerprint).toFinset := by
    rw [List.mem_toFinset]
    by_contra hno
    cases h.symm.trans (firstLike_eq_none.mpr hno)
  rw [toFinset_fingerprints_concat, Finset.card_insert_of_mem hmem]

theorem card_fingerprints_fresh (h : firstLike before rule = none) :
    ((before ++ [rule]).map fingerprint).toFinset.card =
      (before.map fingerprint).toFinset.card + 1 := by
  rw [firstLike_eq_none, ← List.mem_toFinset] at h
  rw [toFinset_fingerprints_concat, Finset.card_insert_of_notMem h]

theorem length_repeatsAfter (before rules : List FirewallRule) :
    (repeatsAfter before rules).length + ((before ++ rules).map fingerprint).toFinset.card =
      (before.map fingerprint).toFinset.card + rules.length := by
  induction rules generalizing before with
  | nil =>
    rw [List.append_nil]
    exact Nat.add_comm _ _
  | cons rule rules ih =>
    have ih := ih (before ++ [rule])
    rw [List.append_assoc, List.singleton_append] at ih
    rw [repeatsAfter_cons, List.length_append, List.length_cons]
    cases hfirst : firstLike before rule with
    | none =>
      rw [card_fingerprints_fresh hfirst] at ih
      rw [Option.map_none, Option.toList_none, List.length_nil]
      omega
    | some first =>
      rw [card_fingerprints_known hfirst] at ih
      rw [Option.map_some, Option.toList_some, List.length_singleton]
      omega

theorem length_repeats (rules : List FirewallRule) :
    (repeats rules).length + (rules.map fingerprint).toFinset.card = rules.length := by
  have h := length_repeatsAfter [] rules
  rw [repeatsAfter_nil_left, List.nil_append] at h
  exact h.trans (Nat.zero_add _)

/-- The same rule but for its label and description, the order of its addresses, the case of ASCII
letters in its action and protocol, and blanks put in around the commas and hyphens of its ports. -/
structure Restyled (r r' : FirewallRule) : Prop where
  action : SameButCase (r.action.getD "") (r'.action.getD "")
  protocol : SameButCase (r.protocol.getD "") (r'.protocol.getD "")
  ports : Ports.Loosened (r.ports.getD "").toList (r'.ports.getD "").toList
  ipv4 : r.addresses.ipv4.Perm r'.addresses.ipv4
  ipv6 : r.addresses.ipv6.Perm r'.addresses.ipv6

theorem Restyled.sameRule (h : Restyled r r') : SameRule r r' :=
  ⟨h.action.upper_eq, h.protocol.upper_eq, h.ports.normalize_eq.symm, h.ipv4, h.ipv6⟩

theorem Restyled.relabel (r : FirewallRule) (label description : Option String) :
    Restyled r { r with label, description } :=
  ⟨rfl, rfl, .refl _, .refl _, .refl _⟩

theorem map_fingerprint_of_restyled (h : List.Forall₂ Restyled rules rules') :
    rules.map fingerprint = rules'.map fingerprint := by
  induction h with
  | nil => rfl
  | cons hrule _ ih => rw [List.map_cons, List.map_cons, hrule.sameRule.fingerprint_eq, ih]

end FirewallRule

namespace Check

open FirewallRule

variable {rule : Rule} {r r' : Resource} {inv : Inventory} {seen : List (String × String)}
  {before rules inbound outbound inbound' outbound' : List FirewallRule} {direction : String}

/-- What is said of a rule and the first one like it. -/
def repeatSentence (direction : String) : FirewallRule × FirewallRule → String
  | (rule, first) =>
    direction ++ " rule \"" ++ rule.displayLabel ++ "\" is identical to \"" ++ first.displayLabel ++
      "\""

/-- A table that has the label of the first rule with each fingerprint. -/
def Recorded (seen : List (String × String)) (before : List FirewallRule) : Prop :=
  ∀ rule, seen.lookup rule.fingerprint = (firstLike before rule).map (·.displayLabel)

theorem Recorded.nil : Recorded [] [] := fun _ => rfl

theorem Recorded.known {rule first : FirewallRule} (h : Recorded seen before)
    (hfirst : firstLike before rule = some first) : Recorded seen (before ++ [rule]) := by
  intro other
  rw [h other, firstLike_append]
  by_cases hsame : rule.fingerprint = other.fingerprint
  · rw [firstLike_congr hsame] at hfirst
    rw [hfirst, Option.some_or]
  · rw [firstLike_singleton_of_ne hsame, Option.or_none]

theorem Recorded.fresh {rule : FirewallRule} (h : Recorded seen before)
    (hnone : firstLike before rule = none) :
    Recorded ((rule.fingerprint, rule.displayLabel) :: seen) (before ++ [rule]) := by
  intro other
  rw [List.lookup_cons, firstLike_append]
  by_cases hsame : rule.fingerprint = other.fingerprint
  · rw [firstLike_congr hsame] at hnone
    rw [hsame, beq_self_eq_true, hnone, firstLike_singleton hsame]
    rfl
  · rw [beq_false_of_ne (Ne.symm hsame), h other, firstLike_singleton_of_ne hsame, Option.or_none]

theorem duplicatesAfter_eq (h : Recorded seen before) : duplicatesAfter direction seen rules =
    (repeatsAfter before rules).map (repeatSentence direction) := by
  induction rules generalizing seen before with
  | nil => rfl
  | cons rule rules ih =>
    rw [duplicatesAfter, repeatsAfter_cons, List.map_append, h rule]
    cases hfirst : firstLike before rule with
    | none => exact ih (h.fresh hfirst)
    | some first =>
      exact congrArg (repeatSentence direction (rule, first) :: ·) (ih (h.known hfirst))

theorem duplicates_eq (direction : String) (rules : List FirewallRule) :
    duplicatesAfter direction [] rules = (repeats rules).map (repeatSentence direction) :=
  duplicatesAfter_eq .nil

/-- The inventory has these rules for a firewall. -/
structure HasRules (r : Resource) (inbound outbound : List FirewallRule) : Prop where
  inbound : readRules (r.spec "inbound_rules_detail") = .ok inbound
  outbound : readRules (r.spec "outbound_rules_detail") = .ok outbound

/-- What the check finds, told by the fingerprints of the inbound and of the outbound rules. -/
def duplicatesStatus (inbound outbound : List String) : Status :=
  if inbound = [] ∧ outbound = [] then .notApplicable
  else if inbound.Nodup ∧ outbound.Nodup then .compliant else .nonCompliant

theorem duplicatesStatus_notApplicable {keys keys' : List String} :
    duplicatesStatus keys keys' = .notApplicable ↔ keys = [] ∧ keys' = [] := by
  rw [duplicatesStatus]
  split
  case isTrue hnone => exact iff_of_true rfl hnone
  case isFalse hsome =>
    split
    case isTrue => exact iff_of_false nofun hsome
    case isFalse => exact iff_of_false nofun hsome

theorem duplicatesStatus_nonCompliant {keys keys' : List String} :
    duplicatesStatus keys keys' = .nonCompliant ↔ ¬ (keys.Nodup ∧ keys'.Nodup) := by
  rw [duplicatesStatus]
  split
  case isTrue hnone =>
    rw [hnone.1, hnone.2]
    exact iff_of_false nofun fun hdup => hdup ⟨.nil, .nil⟩
  case isFalse =>
    split
    case isTrue hnodup => exact iff_of_false nofun fun hdup => hdup hnodup
    case isFalse hdup => exact iff_of_true rfl hdup

theorem firewallNoDuplicates_ok (rule : Rule) (inv : Inventory)
    (h : HasRules r inbound outbound) : ∃ o, firewallNoDuplicates rule r inv = .ok o ∧
      o.status = duplicatesStatus (inbound.map fingerprint) (outbound.map fingerprint) ∧
      (o.status = .nonCompliant → o.detail = "Duplicate rules detected: " ++ "; ".intercalate
        ((repeats inbound).map (repeatSentence "Inbound") ++
          (repeats outbound).map (repeatSentence "Outbound")) ++ ".") := by
  have hempty : inbound.length + outbound.length = 0 ↔
      inbound.map fingerprint = [] ∧ outbound.map fingerprint = [] := by
    rw [Nat.add_eq_zero_iff, List.length_eq_zero_iff, List.length_eq_zero_iff, List.map_eq_nil_iff,
      List.map_eq_nil_iff]
  have hdup : (!(duplicatesAfter "Inbound" [] inbound ++
      duplicatesAfter "Outbound" [] outbound).isEmpty) = true ↔
        ¬ ((inbound.map fingerprint).Nodup ∧ (outbound.map fingerprint).Nodup) := by
    rw [Bool.not_eq_true', ← Bool.not_eq_true, List.isEmpty_iff, List.append_eq_nil_iff,
      duplicates_eq_nil, duplicates_eq_nil]
  rw [firewallNoDuplicates, h.inbound, h.outbound]
  change ∃ o, (if inbound.length + outbound.length = 0 then _ else
    if (!(duplicatesAfter "Inbound" [] inbound ++
      duplicatesAfter "Outbound" [] outbound).isEmpty) = true then _ else _) = _ ∧ _
  split
  case isTrue hnone =>
    refine ⟨_, rfl, (duplicatesStatus_notApplicable.mpr (hempty.mp hnone)).symm, ?_⟩
    intro hbad
    cases hbad
  case isFalse hsome =>
    split
    case isTrue hd =>
      rw [← duplicates_eq, ← duplicates_eq]
      exact ⟨_, rfl, (duplicatesStatus_nonCompliant.mpr (hdup.mp hd)).symm, fun _ => rfl⟩
    case isFalse hd =>
      rw [hdup, not_not] at hd
      rw [hempty] at hsome
      refine ⟨_, rfl, ?_, ?_⟩
      · rw [duplicatesStatus, if_neg hsome, if_pos hd]
        rfl
      · intro hbad
        cases hbad

/-- The check has nothing to say of a firewall without rules, and is against one where two rules of
a direction have the same fingerprint. It lists, the inbound ones first, each rule that repeats an
earlier one and the first such rule, so as many of a direction as it has rules in excess of their
fingerprints. Another writing of the rules does not change what it finds. -/
theorem firewallNoDuplicates_reports (h : HasRules r inbound outbound) :
    ∃ o, firewallNoDuplicates rule r inv = .ok o ∧
      (o.status = .notApplicable ↔ inbound = [] ∧ outbound = []) ∧
      (o.status = .nonCompliant ↔
        ¬ ((inbound.map fingerprint).Nodup ∧ (outbound.map fingerprint).Nodup)) ∧
      (o.status = .nonCompliant → o.detail = "Duplicate rules detected: " ++ "; ".intercalate
        ((repeats inbound).map (repeatSentence "Inbound") ++
          (repeats outbound).map (repeatSentence "Outbound")) ++ ".") ∧
      (∀ rules ∈ [inbound, outbound],
        (repeats rules).length + (rules.map fingerprint).toFinset.card = rules.length) ∧
      ∀ rule' r' inv' inbound' outbound', HasRules r' inbound' outbound' →
        List.Forall₂ Restyled inbound inbound' → List.Forall₂ Restyled outbound outbound' →
          ∃ o', firewallNoDuplicates rule' r' inv' = .ok o' ∧ o'.status = o.status := by
  obtain ⟨o, ho, hstatus, hdetail⟩ := firewallNoDuplicates_ok rule inv h
  refine ⟨o, ho, ?_, ?_, hdetail, fun rules _ => length_repeats rules, ?_⟩
  · rw [hstatus, duplicatesStatus_notApplicable, List.map_eq_nil_iff, List.map_eq_nil_iff]
  · rw [hstatus, duplicatesStatus_nonCompliant]
  · intro rule' r' inv' inbound' outbound' h' hin hout
    obtain ⟨o', ho', hstatus', -⟩ := firewallNoDuplicates_ok rule' inv' h'
    refine ⟨o', ho', ?_⟩
    rw [hstatus', hstatus, map_fingerprint_of_restyled hin, map_fingerprint_of_restyled hout]

/-- Three rules of a firewall let in web traffic and one lets in mail. With other labels and another
writing of one of them the two that repeat the first are still found. -/
theorem firewallNoDuplicates_reports_web :
    let rule : Rule := ⟨"dup", "No duplicates", "", ["firewall"], "firewall_no_duplicate_rules", [],
      .info, true, none, false⟩
    let inv : Inventory := ⟨"a", [], ⟨2026, 3, 1, 9, 0, 0, 0, some 0⟩⟩
    let web (label protocol ports : String) : FirewallRule :=
      ⟨some "ACCEPT", some protocol, some ports, {}, some label, none⟩
    let inbound := [web "web" "TCP" "80,443", web "mail" "TCP" "25", web "http" "TCP" "80,443",
      web "" "TCP" "80,443"]
    let inbound' := [web "w" "TCP" "80,443", web "m" "TCP" "25", web "h" "tcp" "80 , 443",
      web "x" "TCP" "80,443"]
    let firewall (inbound : List FirewallRule) : Resource :=
      { id := "fw", type := "firewall", specs := [
        ("inbound_rules_detail", .arr (inbound.map FirewallRule.schema.toJson))] }
    HasRules (firewall inbound) inbound [] ∧ HasRules (firewall inbound') inbound' [] ∧
      List.Forall₂ Restyled inbound inbound' ∧
      ∃ o, firewallNoDuplicates rule (firewall inbound) inv = .ok o ∧
        o.detail = "Duplicate rules detected: " ++
          "Inbound rule \"http\" is identical to \"web\"; " ++
          "Inbound rule \"unnamed\" is identical to \"web\"." ∧
        ∃ o', firewallNoDuplicates rule (firewall inbound') inv = .ok o' ∧
          o'.status = .nonCompliant := by
  intro rule inv web inbound inbound' firewall
  have h : HasRules (firewall inbound) inbound [] := ⟨rfl, rfl⟩
  have h' : HasRules (firewall inbound') inbound' [] := ⟨rfl, rfl⟩
  have hports : Ports.Loosened "80,443".toList "80 , 443".toList := by
    have hplain : "80,443".toList = ['8', '0', ',', '4', '4', '3'] := rfl
    have hwide : "80 , 443".toList = ['8', '0'] ++ ([' '] ++ ',' :: ([' '] ++ ['4', '4', '3'])) :=
      rfl
    rw [hplain, hwide]
    exact .keep '8' (.keep '0' (.spaced (.inl rfl) (by decide) (by decide) (.refl _)))
  have hspaced : Restyled (web "http" "TCP" "80,443") (web "h" "tcp" "80 , 443") :=
    ⟨rfl, by decide, hports, .refl _, .refl _⟩
  have hrestyled : List.Forall₂ Restyled inbound inbound' :=
    .cons (.relabel _ _ _) (.cons (.relabel _ _ _) (.cons hspaced (.cons (.relabel _ _ _) .nil)))
  obtain ⟨o, ho, -, hstatus, hdetail, -, hother⟩ :=
    firewallNoDuplicates_reports h
  have hbad : o.status = .nonCompliant := hstatus.mpr (by decide +kernel)
  have hrepeats : repeats inbound =
      [(web "http" "TCP" "80,443", web "web" "TCP" "80,443"),
        (web "" "TCP" "80,443", web "web" "TCP" "80,443")] := by decide +kernel
  obtain ⟨o', ho', hsame⟩ := hother rule (firewall inbound') inv inbound' [] h' hrestyled .nil
  refine ⟨h, h', hrestyled, o, ho, ?_, o', ho', hsame.trans hbad⟩
  rw [hdetail hbad, hrepeats]
  decide +kernel

end Check

end CloudAudit
