import CloudAudit.Check.Outcome
import CloudAudit.Text.Case

namespace CloudAudit.Check

open Outcome

/-- The port configurations of a load balancer; what is no object is left out. -/
def portConfigs (r : Resource) : Except DataFault (List Fields) := do
  return (← (r.spec "configs").itemsOrNone).filterMap fun
    | .obj fields => some fields
    | _ => none

/-- The outcome when the inventory has no port configurations. -/
def noPortConfigs : Outcome :=
  notApplicable "No port configurations found. Re-sync to fetch the latest NodeBalancer data."

/-- The sentence on a port with a protocol that it must not use. All protocols are in small
letters. -/
def protocolViolation (allowed forbidden : List String) (port : Fields) : Option String :=
  let protocol := Text.lower ((port.getD "protocol").orElse (.str "")).text
  let shown := "Port " ++ (port.getD "port").text ++ " uses "
  if forbidden.contains protocol then some (shown ++ "forbidden protocol \"" ++ protocol ++ "\"")
  else if !allowed.isEmpty && !allowed.contains protocol then
    some (shown ++ "disallowed protocol \"" ++ protocol ++ "\" (allowed: " ++
      commaList allowed ++ ")")
  else none

def balancerProtocol : ResourceCheck := fun rule r _ => do
  let ports ← portConfigs r
  if ports.isEmpty then return noPortConfigs
  let cfg ← rule.configAs BalancerProtocolConfig.schema
  let violations := ports.filterMap
    (protocolViolation (cfg.allowed.map Text.lower) (cfg.forbidden.map Text.lower))
  if !violations.isEmpty then return nonCompliant ("; ".intercalate violations ++ ".")
  let listing := ports.map fun port =>
    "port " ++ (port.getD "port").text ++ " (" ++ (port.getD "protocol").text ++ ")"
  return compliant ("All port configurations use compliant protocols: " ++ commaList listing ++ ".")

/-- The load balancer listens on approved ports only. -/
def balancerPorts : ResourceCheck := fun rule r _ => do
  let ports ← portConfigs r
  if ports.isEmpty then return noPortConfigs
  let cfg ← rule.configAs BalancerPortConfig.schema
  if cfg.allowed.isEmpty then
    return notApplicable "No allowed ports configured for this rule."
  let numbers ← ports.mapM fun port => ((port.getD "port").orElse (.int 0)).toInt
  let shown := ports.map fun port => (port.getD "port").text
  let violations := (shown.zip numbers).filterMap fun (text, n) =>
    if cfg.allowed.contains n then none
    else some ("Port " ++ text ++ " is not in the allowed list")
  if !violations.isEmpty then
    return nonCompliant ("; ".intercalate violations ++ ". Allowed: " ++
      commaList (cfg.allowed.map toString) ++ ".")
  return compliant ("All configured ports (" ++ commaList shown ++ ") are in the allowed list.")

end CloudAudit.Check
