import CloudAudit.Check.Kind
import CloudAudit.Model.Activation

namespace CloudAudit.Builtin

def profileId (slug : String) : String := "profile-" ++ slug

def profile (slug name tier description : String) (kinds : List ConditionKind) : Profile where
  id := profileId slug
  name := name
  slug := slug
  description := description
  tier := tier
  conditionTypes := kinds.map ConditionKind.id
  isBuiltin := true

/-- The built-in profiles, in the order in which they are listed. -/
def profiles : List Profile := [
  profile "cis-l1" "Level 1 - Foundation" "foundation"
    ("Foundational, low-friction controls every cloud account should satisfy " ++
      "regardless of risk appetite.")
    [.firewallAttached, .noOpenInbound, .backupsEnabled, .databaseAllowlist, .databasePublicAccess,
      .tfaUsers, .hasTags, .volumeAttached, .controlPlaneAcl],
  profile "cis-l2" "Level 2 - Standard" "standard"
    "Deeper technical controls on top of the foundational set for production workloads."
    [.firewallAttached, .firewallRulesCheck, .firewallHasTargets, .noOpenInbound, .backupsEnabled,
      .backupRecency, .diskEncryption, .lockConfigured, .volumeEncryption, .databaseAllowlist,
      .databasePublicAccess, .tfaUsers, .loginAllowedIps, .hasTags, .approvedRegions, .minNodeCount,
      .controlPlaneHa, .controlPlaneAcl, .auditLogs, .bucketAcl],
  profile "soc2" "SOC 2 Readiness" "standard"
    ("Controls mapped to the SOC 2 Trust Service Criteria for Security, Availability " ++
      "and Confidentiality.")
    [.firewallAttached, .noOpenInbound, .backupsEnabled, .backupRecency, .diskEncryption,
      .lockConfigured, .volumeEncryption, .databaseAllowlist, .databasePublicAccess, .tfaUsers,
      .loginAllowedIps, .auditLogs, .controlPlaneAcl, .bucketAcl, .hasTags],
  profile "pci-dss" "PCI-DSS Baseline" "strict"
    "Subset of controls aligned to PCI DSS v4.0. A full assessment requires additional controls."
    [.firewallAttached, .firewallRulesCheck, .noOpenInbound, .backupsEnabled, .backupRecency,
      .diskEncryption, .lockConfigured, .volumeEncryption, .databaseAllowlist,
      .databasePublicAccess, .tfaUsers, .loginAllowedIps, .approvedRegions, .controlPlaneHa,
      .controlPlaneAcl, .auditLogs, .bucketAcl, .balancerProtocol, .balancerPorts],
  profile "minimal-dev" "Minimal / Dev" "foundation"
    ("Lightweight profile for development and staging accounts. Only critical " ++
      "blocking issues are flagged.")
    [.firewallAttached, .noOpenInbound, .databaseAllowlist, .databasePublicAccess, .tfaUsers],
  profile "all-rules" "All Rules" "strict"
    "Enables every available compliance rule."
    ConditionKind.byName]

end CloudAudit.Builtin
