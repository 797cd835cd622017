import CloudAudit.Check.Kind
import CloudAudit.Model.Rule

namespace CloudAudit.Builtin

def ruleId (key : String) : String := "builtin-" ++ key

def rule (key : String) (kind : ConditionKind) (severity : Severity) (name description : String)
    (resourceTypes : List String) (config : Fields := []) : Rule where
  id := ruleId key
  name := name
  description := description
  resourceTypes := resourceTypes
  conditionType := kind.id
  config := config
  severity := severity
  isBuiltin := true

def anyValue (key : String) : Json := .obj [("key", .str key), ("value", .str "*")]

/-- The built-in rules, in the order in which they are listed. -/
def rules : List Rule := [
  rule "firewall-attached" .firewallAttached .critical
    "Linodes must have a firewall"
    "Every Linode instance should be protected by at least one active firewall."
    ["linode"],
  rule "no-open-inbound" .noOpenInbound .critical
    "No unrestricted inbound traffic"
    ("Firewall rules should not allow unrestricted inbound access (0.0.0.0/0 or ::/0) " ++
      "on sensitive ports.")
    ["firewall"]
    [("sensitive_ports", .arr ([22, 3389, 3306, 5432, 6379, 27017].map .int))],
  rule "firewall-has-targets" .firewallHasTargets .info
    "Firewall must be attached"
    "A firewall that is not attached to any Linode provides no value."
    ["firewall"],
  rule "min-node-count" .minNodeCount .warning
    "LKE clusters should have multiple nodes"
    "Kubernetes clusters should have more than one node for high availability."
    ["lke_cluster"]
    [("min_count", .int 2)],
  rule "has-tags" .hasTags .info
    "Resources should have tags"
    ("Resources must have owner, environment, and cost-center tags " ++
      "for accountability and cost tracking.")
    ["linode", "volume", "nodebalancer", "lke_cluster", "database"]
    [("required_tags", .arr (["owner", "environment", "cost-center"].map anyValue))],
  rule "volume-attached" .volumeAttached .info
    "Volumes should be attached"
    "Unattached volumes still incur cost but provide no value."
    ["volume"],
  rule "db-allowlist-check" .databaseAllowlist .critical
    "No unrestricted database access"
    "Managed databases should not have 0.0.0.0/0 or ::/0 in their IP allow list."
    ["database"]
    [("forbidden_cidrs", .arr (["0.0.0.0/0", "::/0"].map .str)),
      ("require_non_empty", .bool false)],
  rule "db-public-access" .databasePublicAccess .critical
    "Databases must not have public access enabled"
    "Managed databases with public access enabled are reachable from outside the VPC."
    ["database"]
    [("allow_public_access", .bool false)],
  rule "linode-backups-enabled" .backupsEnabled .critical
    "Linode Backups Enabled"
    "Verifies that automated backups are enabled for every Linode instance."
    ["linode"],
  rule "linode-disk-encryption" .diskEncryption .critical
    "Linode Disk Encryption Enabled"
    "Verifies that disk encryption is enabled on every Linode instance."
    ["linode"],
  rule "linode-lock-configured" .lockConfigured .warning
    "Linode Deletion Lock Configured"
    "Verifies that at least one deletion lock is configured to protect the instance."
    ["linode"]
    [("required_lock_types", .arr [])],
  rule "linode-not-offline" .notOffline .warning
    "Linode Instance Not Offline"
    "Flags any Linode instance that is currently in an offline state."
    ["linode"],
  rule "linode-backup-recency" .backupRecency .warning
    "All Linodes must have a recent successful backup"
    "Verifies that a successful backup has occurred within the last 7 days."
    ["linode"]
    [("max_age_days", .int 7)],
  rule "lke-control-plane-acl" .controlPlaneAcl .critical
    "LKE Control Plane ACL Configured"
    "Verifies that the LKE cluster control plane has an ACL enabled."
    ["lke_cluster"],
  rule "volume-encryption-enabled" .volumeEncryption .critical
    "Volume Encryption Enabled"
    "Block storage volumes must have disk encryption enabled."
    ["volume"],
  rule "lke-control-plane-ha" .controlPlaneHa .warning
    "LKE Control Plane High Availability"
    "LKE cluster control plane high availability must be enabled."
    ["lke_cluster"],
  rule "lke-audit-logs-enabled" .auditLogs .warning
    "LKE Audit Logs Enabled"
    "LKE control plane audit logging must be enabled."
    ["lke_cluster"],
  rule "bucket-acl-check" .bucketAcl .critical
    "Object Storage Bucket ACL"
    "Object storage bucket ACL must not allow public-read or public-read-write access."
    ["bucket"]
    [("required_acl", .str ""),
      ("forbidden_acls",
        .arr (["public-read", "public-read-write", "authenticated-read"].map .str))],
  rule "bucket-cors-check" .bucketCors .info
    "Object Storage Bucket CORS Disabled"
    "Object storage buckets should not enable cross-origin access unless required."
    ["bucket"]
    [("require_cors_disabled", .bool true)],
  rule "tfa-users" .tfaUsers .critical
    "All Users Must Have TFA Enabled"
    "Every user on the account must have two-factor authentication enabled."
    [],
  rule "login-allowed-ips" .loginAllowedIps .warning
    "Account Login IP Restriction"
    "Account logins must only be permitted from a configured IP allow list."
    [],
  rule "approved-regions" .approvedRegions .warning
    "Resources in Approved Regions"
    "All resources must be deployed only in approved geographic regions."
    ["linode", "volume", "lke_cluster", "database", "nodebalancer", "bucket"]
    [("approved_regions", .arr [])],
  rule "firewall-rules-check" .firewallRulesCheck .warning
    "Firewall Policy Requirements"
    "Firewall inbound and outbound policies must meet configurable security requirements."
    ["linode"]
    [("required_inbound_policy", .str "DROP"), ("required_outbound_policy", .str ""),
      ("blocked_ports", .arr []), ("allowed_source_ips", .arr []),
      ("require_no_open_ports", .bool false)],
  rule "nodebalancer-protocol-check" .balancerProtocol .warning
    "NodeBalancer Protocol Check"
    "NodeBalancer ports must use only HTTPS protocol."
    ["nodebalancer"]
    [("allowed_protocols", .arr (["https"].map .str))],
  rule "nodebalancer-port-allowlist" .balancerPorts .warning
    "NodeBalancer Allowed Ports"
    "NodeBalancer must only listen on approved ports (default: 443)."
    ["nodebalancer"]
    [("allowed_ports", .arr ([443].map .int))],
  rule "firewall-all-ports-allowed" .firewallAllPorts .warning
    "Firewall rules must not allow all ports"
    "Detects inbound or outbound firewall rules that allow traffic on all ports."
    ["firewall"]
    [("check_inbound", .bool true), ("check_outbound", .bool false),
      ("actions", .arr (["ACCEPT"].map .str))],
  rule "firewall-rule-descriptions" .firewallDescriptions .warning
    "Every firewall rule must have a description"
    "Checks that all inbound and outbound firewall rules have a non-empty description."
    ["firewall"],
  rule "firewall-no-duplicate-rules" .firewallNoDuplicates .info
    "Firewall rules must not be duplicated"
    ("Flags inbound or outbound rules that repeat another rule's action, protocol, " ++
      "ports and addresses.")
    ["firewall"],
  rule "firewall-rfc1918-lateral" .firewallLateral .warning
    "No broad private-network access to sensitive ports"
    "Flags inbound rules that open sensitive ports to entire RFC 1918 private ranges."
    ["firewall"]]

end CloudAudit.Builtin
