import CloudAudit.Check.Outcome

namespace CloudAudit.Check

open Outcome

def volumeAttached : ResourceCheck := fun _ r _ =>
  let linode := r.spec "linode_id"
  if linode.truthy then .ok (compliant ("Attached to Linode ID " ++ linode.text ++ "."))
  else .ok (nonCompliant "Volume is not attached to any Linode.")

def volumeEncryption : ResourceCheck := fun _ r _ =>
  let value := r.spec "encryption"
  if value.isNull then
    .ok (notApplicable "Encryption status not available. Re-sync to fetch the latest volume data.")
  else if value.isText "enabled" then .ok (compliant "Disk encryption is enabled for this volume.")
  else
    .ok (nonCompliant ("Disk encryption is \"" ++ value.text ++
      "\". It must be set to \"enabled\" to protect data at rest."))

/-- The access list of a bucket is the required one and not a forbidden one. -/
def bucketAcl : ResourceCheck := fun rule r _ => do
  let acl := r.spec "acl"
  if acl.isNull then
    return notApplicable
      "ACL data not available. Re-sync resources to fetch bucket access settings."
  let cfg ← rule.configAs BucketAclConfig.schema
  let required := cfg.requiredAcl.getD ""
  let shown := "Bucket ACL is \"" ++ acl.text ++ "\""
  if required ≠ "" ∧ !acl.isText required then
    return nonCompliant (shown ++ ", expected \"" ++ required ++ "\".")
  if cfg.forbiddenAcls.any acl.isText then
    return nonCompliant (shown ++ ", which is not permitted.")
  return compliant (shown ++ ".")

/-- A bucket allows or refuses cross-origin access as required. -/
def bucketCors : ResourceCheck := fun rule r _ => do
  let cors := r.spec "cors_enabled"
  if cors.isNull then
    return notApplicable
      "CORS data not available. Re-sync resources to fetch bucket access settings."
  let cfg ← rule.configAs BucketCorsConfig.schema
  if cfg.requireDisabled && cors.truthy then
    return nonCompliant "CORS is enabled on this bucket; it must be disabled."
  if cfg.requireEnabled && !cors.truthy then
    return nonCompliant "CORS is disabled on this bucket; it must be enabled."
  return compliant ("CORS is " ++ (if cors.truthy then "enabled" else "disabled") ++ ".")

def databaseAllowlist : ResourceCheck := fun rule r _ => do
  let allowList := r.spec "allow_list"
  if allowList.isNull then
    return notApplicable
      "Allow list data not available. Re-sync to fetch the latest database settings."
  let cfg ← rule.configAs DatabaseAllowlistConfig.schema
  let some items := allowList.elements? | throw (.data (.notIterable allowList.shape))
  let entries := items.map Json.text
  let violations :=
    (if cfg.requireNonEmpty && entries.isEmpty then
      ["Allow list is empty; a non-empty allow list is required."] else []) ++
    (entries.filter cfg.forbiddenCidrs.contains).map fun cidr =>
      "Unrestricted CIDR \"" ++ cidr ++ "\" is in the allow list."
  if !violations.isEmpty then return nonCompliant (" ".intercalate violations)
  if entries.isEmpty then
    return compliant "Allow list is empty (access restricted by default)."
  return compliant ("Allow list contains " ++ plural entries.length "entry" (some "entries") ++
    ": " ++ commaList entries ++ ".")

def databasePublicAccess : ResourceCheck := fun rule r _ => do
  let access := r.spec "public_access"
  if access.isNull then
    return notApplicable
      "Public access data not available. Re-sync to fetch the latest database settings."
  let cfg ← rule.configAs DatabaseAccessConfig.schema
  if !access.truthy then return compliant "Database does not have public access enabled."
  if cfg.allowPublicAccess then
    return compliant "Database has public access enabled (permitted by rule configuration)."
  return nonCompliant "Database has public access enabled; it is reachable outside the VPC."

end CloudAudit.Check
