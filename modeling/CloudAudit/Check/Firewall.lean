import CloudAudit.Check.Protection

namespace CloudAudit.Check

open Outcome

/-- Reads the firewall rules that a detail lists; nothing counts as none. -/
def readRules (raw : Json) : Except CheckFault (List FirewallRule) := do
  let items ← raw.itemsOrNone
  items.mapM fun v => FirewallRule.schema.read v

def firewallAttached : ResourceCheck := fun _ r inv => do
  let found ← inv.protectors r
  if found.isEmpty then return nonCompliant "No firewall is attached to this Linode."
  let labels := found.map fun p => (p.label.orElse (.int p.number)).text
  return compliant ("Protected by firewall: " ++ commaList labels)

def sizeOfValue (v : Json) : Except DataFault Int :=
  if v.truthy then
    match v.elements? with
    | some items => .ok items.length
    | none => .error (.notSized v.shape)
  else .ok 0

def firewallHasTargets : ResourceCheck := fun _ r _ => do
  let stated := r.spec "entity_count"
  let count ← if stated.isNull then Json.int <$> sizeOfValue (r.spec "entities") else pure stated
  if 0 < (← count.toInt) then return compliant ("Attached to " ++ count.text ++ " Linode(s).")
  return nonCompliant "Firewall has no attached Linodes."

def hasRuleData (r : Resource) : Bool :=
  ["inbound_rules_detail", "outbound_rules_detail", "inbound_policy"].any r.hasSpec

def policyText (r : Resource) (name default : String) : String :=
  Text.upper ((r.spec name).orElse (.str default)).text

/-- The sentences on the sensitive ports that a rule opens to the whole internet. -/
def openPortsOf (ports : List Int) (rule : FirewallRule) : List String :=
  if rule.isAccept && rule.isTcpOrAll && rule.isOpenToWorld then
    (ports.filter rule.coversPort).map fun port =>
      "Port " ++ toString port ++ " open to all (rule: " ++ rule.displayLabel ++ ")"
  else []

def noOpenInbound : ResourceCheck := fun rule r _ => do
  if !hasRuleData r then
    return notApplicable
      "Firewall rule data not available. Re-sync to fetch the latest firewall data."
  let cfg ← rule.configAs NoOpenInboundConfig.schema
  let inbound ← readRules (r.spec "inbound_rules_detail")
  let violations := inbound.flatMap (openPortsOf cfg.sensitivePorts)
  if !violations.isEmpty then return nonCompliant ("; ".intercalate violations)
  if policyText r "inbound_policy" "" = "ACCEPT" ∧ inbound.isEmpty then
    return nonCompliant "Inbound policy is ACCEPT with no rules; all traffic allowed."
  return compliant "No unrestricted inbound access detected."

/-- The sentences on the sensitive ports that a rule opens to private ranges. -/
def lateralPortsOf (ports : List Int) (rule : FirewallRule) : List String :=
  let sources := rule.addresses.ipv4.filter isPrivateCidr
  if rule.isAccept && rule.isTcpOrAll && !sources.isEmpty then
    (ports.filter rule.coversPort).map fun port =>
      "Rule \"" ++ rule.displayLabel ++ "\": port " ++ toString port ++
        " accepts traffic from private range(s) " ++ commaList sources
  else []

def firewallLateral : ResourceCheck := fun rule r _ => do
  let cfg ← rule.configAs LateralMovementConfig.schema
  let inbound ← readRules (r.spec "inbound_rules_detail")
  if inbound.isEmpty then return notApplicable "No inbound rules to evaluate."
  let violations := inbound.flatMap (lateralPortsOf cfg.sensitivePorts)
  if !violations.isEmpty then
    return nonCompliant ("Potential lateral movement: " ++ "; ".intercalate violations ++ ".")
  return compliant "No inbound rules accept RFC-1918 traffic on sensitive ports."

/-- The sentence on a rule of a direction that opens every port. -/
def allPortsOf (actions : List String) (direction : String) (rule : FirewallRule) : Option String :=
  if actions.contains rule.normalizedAction &&
      !FirewallRule.portlessProtocols.contains rule.normalizedProtocol && rule.coversAllPorts then
    let protocol := if rule.normalizedProtocol = "" then "ALL" else rule.normalizedProtocol
    let ports := rule.ports.getD ""
    some (direction ++ " rule \"" ++ rule.displayLabel ++ "\": allows all ports (protocol: " ++
      protocol ++ ", ports: \"" ++ (if ports = "" then "any" else ports) ++ "\")")
  else none

def firewallAllPorts : ResourceCheck := fun rule r _ => do
  let cfg ← rule.configAs AllPortsConfig.schema
  let actions := cfg.actions.map Text.upper
  let inbound ← if cfg.checkInbound then readRules (r.spec "inbound_rules_detail") else pure []
  let outbound ← if cfg.checkOutbound then readRules (r.spec "outbound_rules_detail") else pure []
  let total := inbound.length + outbound.length
  if total = 0 then return notApplicable "No rules to evaluate."
  let violations := inbound.filterMap (allPortsOf actions "Inbound") ++
    outbound.filterMap (allPortsOf actions "Outbound")
  if !violations.isEmpty then return nonCompliant ("; ".intercalate violations)
  return compliant ("No rules allow all ports across " ++ plural total "rule" ++ " checked.")

def firewallName (fw : Resource) : String := if fw.label = "" then fw.id else fw.label

def policyViolation (name direction actual required : String) : List String :=
  if required ≠ "" ∧ actual ≠ required then
    ["Firewall \"" ++ name ++ "\": " ++ direction ++ " policy is " ++ actual ++ ", expected " ++
      required]
  else []

def policyRuleViolations (cfg : FirewallPolicyConfig) (name : String) (rule : FirewallRule) :
    List String :=
  if rule.isAccept && rule.isTcpOrAll then
    let firewall := "Firewall \"" ++ name ++ "\": "
    ((cfg.blockedPorts.filter rule.coversPort).map fun port =>
      firewall ++ "port " ++ toString port ++ " is allowed inbound (rule: " ++ rule.displayLabel ++
        ")") ++
    (if cfg.requireNoOpenPorts && rule.isOpenToWorld then
      [firewall ++ "rule \"" ++ rule.displayLabel ++ "\" allows unrestricted inbound traffic"]
    else []) ++
    (if !cfg.allowedSourceIps.isEmpty && !rule.isOpenToWorld &&
        rule.allAddresses.any (!cfg.allowedSourceIps.contains ·) then
      [firewall ++ "rule \"" ++ rule.displayLabel ++
        "\" allows traffic from IPs not in the allowed list"]
    else [])
  else []

def policyViolations (cfg : FirewallPolicyConfig) (fw : Resource) :
    Except CheckFault (List String) := do
  let name := firewallName fw
  let rules ← readRules (fw.spec "inbound_rules_detail")
  return policyViolation name "inbound" (policyText fw "inbound_policy" "ACCEPT")
      (Text.upper (cfg.requiredInboundPolicy.getD "")) ++
    policyViolation name "outbound" (policyText fw "outbound_policy" "ACCEPT")
      (Text.upper (cfg.requiredOutboundPolicy.getD "")) ++
    rules.flatMap (policyRuleViolations cfg name)

/-- The firewalls of an instance meet the configured policy. -/
def firewallRulesCheck : ResourceCheck := fun rule r inv => do
  let found ← inv.protectors r
  if found.isEmpty then return nonCompliant "No firewall is attached to this Linode."
  let firewalls := found.filterMap fun p => inv.firewall? p.number
  if firewalls.isEmpty then
    return notApplicable
      "Attached firewall details are not in the inventory. Re-sync to fetch firewall data."
  let cfg ← rule.configAs FirewallPolicyConfig.schema
  let violations ← firewalls.mapM (policyViolations cfg)
  if !violations.flatten.isEmpty then return nonCompliant ("; ".intercalate violations.flatten)
  return compliant ("Firewall rules compliant (" ++ commaList (firewalls.map firewallName) ++ ")")

/-- The sentences on the rules that repeat one of `seen` or an earlier one of the list. -/
def duplicatesAfter (direction : String) (seen : List (String × String)) :
    List FirewallRule → List String
  | [] => []
  | rule :: rest =>
    match seen.lookup rule.fingerprint with
    | some first =>
      (direction ++ " rule \"" ++ rule.displayLabel ++ "\" is identical to \"" ++ first ++ "\"") ::
        duplicatesAfter direction seen rest
    | none => duplicatesAfter direction ((rule.fingerprint, rule.displayLabel) :: seen) rest

def firewallNoDuplicates : ResourceCheck := fun _ r _ => do
  let inbound ← readRules (r.spec "inbound_rules_detail")
  let outbound ← readRules (r.spec "outbound_rules_detail")
  let total := inbound.length + outbound.length
  if total = 0 then return notApplicable "No rules to evaluate."
  let duplicates := duplicatesAfter "Inbound" [] inbound ++ duplicatesAfter "Outbound" [] outbound
  if !duplicates.isEmpty then
    return nonCompliant ("Duplicate rules detected: " ++ "; ".intercalate duplicates ++ ".")
  return compliant ("No duplicate rules found across " ++ plural total "rule" ++ ".")

def firewallDescriptions : ResourceCheck := fun _ r _ => do
  let rules := (← readRules (r.spec "inbound_rules_detail")) ++
    (← readRules (r.spec "outbound_rules_detail"))
  if rules.isEmpty then return notApplicable "No rules to evaluate."
  let bare := rules.filter fun rule => Text.trim (rule.description.getD "") == ""
  if bare.isEmpty then
    return compliant ("All " ++ plural rules.length "rule" ++ " have descriptions set.")
  return nonCompliant (plural bare.length "rule" ++ (if bare.length = 1 then " is" else " are") ++
    " missing a description: " ++
    commaList (bare.map fun rule => "\"" ++ rule.displayLabel ++ "\"") ++ ".")

end CloudAudit.Check
