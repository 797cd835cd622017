namespace CloudAudit

inductive ConditionKind where
  | firewallAttached
  | firewallHasTargets
  | volumeAttached
  | noOpenInbound
  | firewallLateral
  | firewallAllPorts
  | firewallRulesCheck
  | firewallNoDuplicates
  | firewallDescriptions
  | hasTags
  | backupsEnabled
  | backupRecency
  | diskEncryption
  | volumeEncryption
  | lockConfigured
  | notOffline
  | databaseAllowlist
  | databasePublicAccess
  | bucketAcl
  | bucketCors
  | balancerProtocol
  | balancerPorts
  | minNodeCount
  | controlPlaneHa
  | auditLogs
  | approvedRegions
  | planTierByTag
  | tfaUsers
  | loginAllowedIps
  | controlPlaneAcl
  | composite
  deriving DecidableEq, Repr

namespace ConditionKind

def id : ConditionKind → String
  | firewallAttached => "firewall_attached"
  | firewallHasTargets => "firewall_has_targets"
  | volumeAttached => "volume_attached"
  | noOpenInbound => "no_open_inbound"
  | firewallLateral => "firewall_rfc1918_lateral"
  | firewallAllPorts => "firewall_all_ports_allowed"
  | firewallRulesCheck => "firewall_rules_check"
  | firewallNoDuplicates => "firewall_no_duplicate_rules"
  | firewallDescriptions => "firewall_rule_descriptions"
  | hasTags => "has_tags"
  | backupsEnabled => "linode_backups_enabled"
  | backupRecency => "linode_backup_recency"
  | diskEncryption => "linode_disk_encryption"
  | volumeEncryption => "volume_encryption_enabled"
  | lockConfigured => "linode_lock_configured"
  | notOffline => "linode_not_offline"
  | databaseAllowlist => "db_allowlist_check"
  | databasePublicAccess => "db_public_access"
  | bucketAcl => "bucket_acl_check"
  | bucketCors => "bucket_cors_check"
  | balancerProtocol => "nodebalancer_protocol_check"
  | balancerPorts => "nodebalancer_port_allowlist"
  | minNodeCount => "min_node_count"
  | controlPlaneHa => "lke_control_plane_ha"
  | auditLogs => "lke_audit_logs_enabled"
  | approvedRegions => "approved_regions"
  | planTierByTag => "linode_plan_tier_by_tag"
  | tfaUsers => "tfa_users"
  | loginAllowedIps => "login_allowed_ips"
  | controlPlaneAcl => "lke_control_plane_acl"
  | composite => "composite"

def checkable : List ConditionKind := [
  firewallAttached, firewallHasTargets, volumeAttached, noOpenInbound, firewallLateral,
  firewallAllPorts, firewallRulesCheck, firewallNoDuplicates, firewallDescriptions, hasTags,
  backupsEnabled, backupRecency, diskEncryption, volumeEncryption, lockConfigured, notOffline,
  databaseAllowlist, databasePublicAccess, bucketAcl, bucketCors, balancerProtocol, balancerPorts,
  minNodeCount, controlPlaneHa, auditLogs, approvedRegions, planTierByTag, tfaUsers,
  loginAllowedIps, controlPlaneAcl]

def all : List ConditionKind := checkable ++ [composite]

/-- The kinds that are checked one rule at a time, in the order of their names. -/
def byName : List ConditionKind := checkable.mergeSort fun a b => decide (a.id ≤ b.id)

def ofId? (s : String) : Option ConditionKind := all.find? (·.id == s)

end ConditionKind

end CloudAudit
