import CloudAudit.Check.Outcome
import CloudAudit.Network.FirewallRule

namespace CloudAudit.Check

open Outcome

def minNodeCount : ResourceCheck := fun rule r _ => do
  let cfg ← rule.configAs MinNodeCountConfig.schema
  let stated := r.spec "node_count"
  let count ← if stated.isNull then
      match r.spec "nodes" with
      | .arr nodes => pure (nodes.length : Int)
      | _ => pure 1
    else stated.toInt
  let shown := "Cluster has " ++ toString count ++ " node(s)"
  if cfg.minCount ≤ count then return compliant (shown ++ ".")
  return nonCompliant (shown ++ "; minimum required is " ++ toString cfg.minCount ++ ".")

def controlPlaneHa : ResourceCheck := fun _ r _ =>
  if (r.spec "high_availability").truthy then
    .ok (compliant "Control plane high availability is enabled for this cluster.")
  else
    .ok (nonCompliant ("Control plane high availability is not enabled. " ++
      "Enable HA to ensure the API server remains available during node failures."))

def auditLogs : ResourceCheck := fun _ r _ =>
  let enabled := r.spec "audit_logs_enabled"
  if enabled.isNull then
    .ok (notApplicable
      "Audit logs status not available. Re-sync to fetch the latest cluster data.")
  else if enabled.truthy then
    .ok (compliant "Control plane audit logs are enabled for this cluster.")
  else
    .ok (nonCompliant ("Control plane audit logs are disabled. " ++
      "Enable audit logging to track API activity for security and compliance purposes."))

/-- The items of one address family of an access list; nothing counts as none. -/
def spreadAddresses (v : Json) : Except DataFault (List Json) :=
  if v.truthy then
    match v.elements? with
    | some items => .ok items
    | none => .error (.notSpreadable v.shape)
  else .ok []

/-- The items that open the access list to the whole internet. -/
def openEntries (cidrs : List Json) : Except DataFault (List Json) := do
  let flags ← cidrs.mapM (·.isAmong FirewallRule.wildcards)
  return ((cidrs.zip flags).filter (·.2)).map (·.1)

/-- Judges the addresses of an access list that is switched on. -/
def judgeAddresses (addresses : Json) : Except CheckFault Outcome :=
  match addresses with
  | .obj fields => do
    let cidrs := (← spreadAddresses (Fields.getD fields "ipv4")) ++
      (← spreadAddresses (Fields.getD fields "ipv6"))
    let opened ← openEntries cidrs
    if !opened.isEmpty then
      return nonCompliant ("Control plane ACL is enabled but allows unrestricted access: " ++
        (← Json.joinTexts ", " opened) ++
        ". Remove wildcard entries and restrict to known CIDRs.")
    let shown ← Json.joinTexts ", " cidrs
    return compliant ("Control plane ACL is enabled and restricted to: " ++
      (if shown = "" then "no addresses (deny all)" else shown))
  | v => .ok (notApplicable ("Unexpected control plane ACL addresses: " ++ v.inner))

def judgeAcl (payload : Json) : Except CheckFault Outcome :=
  match ((payload.get? "acl").getD .null).orElse (.obj []) with
  | .obj acl =>
    if (Fields.getD acl "enabled").truthy then
      judgeAddresses ((Fields.getD acl "addresses").orElse (.obj []))
    else
      .ok (nonCompliant ("Control plane ACL is not enabled. " ++
        "The Kubernetes API server is accessible from any IP."))
  | v => .ok (notApplicable ("Unexpected control plane ACL payload: " ++ v.inner))

/-- The access list of the control plane is on and restricted. -/
def controlPlaneAcl : LiveCheck where
  purpose := "check control plane ACL"
  question _ resource :=
    .ok (.controlPlaneAcl (resource.elim "" fun r =>
      if r.providerId = "" then r.id else r.providerId))
  judge _ reply :=
    match reply with
    | .ok payload => (judgeAcl payload).map ([·])
    | .error (.refused r) =>
      .ok [notApplicable (
        if r.status = 400 then "This cluster does not support Control Plane ACL."
        else if r.status = 404 then "Cluster not found when checking Control Plane ACL."
        else "Could not fetch control plane ACL: " ++ r.message)]
    | .error f => .error (.provider f)

end CloudAudit.Check
