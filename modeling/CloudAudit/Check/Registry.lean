import CloudAudit.Check.Account
import CloudAudit.Check.Balancer
import CloudAudit.Check.Cluster
import CloudAudit.Check.Firewall
import CloudAudit.Check.Kind
import CloudAudit.Check.Placement
import CloudAudit.Check.Storage
import CloudAudit.Check.Tags

namespace CloudAudit

inductive Check where
  | resource (check : ResourceCheck)
  | liveResource (check : LiveCheck)
  | liveAccount (check : LiveCheck)

namespace ConditionKind

/-- The check of a kind. Composite rules are resolved from the findings of others. -/
def check? : ConditionKind → Option Check
  | firewallAttached => some (.resource Check.firewallAttached)
  | firewallHasTargets => some (.resource Check.firewallHasTargets)
  | volumeAttached => some (.resource Check.volumeAttached)
  | noOpenInbound => some (.resource Check.noOpenInbound)
  | firewallLateral => some (.resource Check.firewallLateral)
  | firewallAllPorts => some (.resource Check.firewallAllPorts)
  | firewallRulesCheck => some (.resource Check.firewallRulesCheck)
  | firewallNoDuplicates => some (.resource Check.firewallNoDuplicates)
  | firewallDescriptions => some (.resource Check.firewallDescriptions)
  | hasTags => some (.resource Check.hasTags)
  | backupsEnabled => some (.resource Check.backupsEnabled)
  | backupRecency => some (.resource Check.backupRecency)
  | diskEncryption => some (.resource Check.diskEncryption)
  | volumeEncryption => some (.resource Check.volumeEncryption)
  | lockConfigured => some (.resource Check.lockConfigured)
  | notOffline => some (.resource Check.notOffline)
  | databaseAllowlist => some (.resource Check.databaseAllowlist)
  | databasePublicAccess => some (.resource Check.databasePublicAccess)
  | bucketAcl => some (.resource Check.bucketAcl)
  | bucketCors => some (.resource Check.bucketCors)
  | balancerProtocol => some (.resource Check.balancerProtocol)
  | balancerPorts => some (.resource Check.balancerPorts)
  | minNodeCount => some (.resource Check.minNodeCount)
  | controlPlaneHa => some (.resource Check.controlPlaneHa)
  | auditLogs => some (.resource Check.auditLogs)
  | approvedRegions => some (.resource Check.approvedRegions)
  | planTierByTag => some (.resource Check.planTierByTag)
  | tfaUsers => some (.liveAccount Check.tfaUsers)
  | loginAllowedIps => some (.liveAccount Check.loginAllowedIps)
  | controlPlaneAcl => some (.liveResource Check.controlPlaneAcl)
  | composite => none

/-- The resource types that a kind is about, whatever the rule says. -/
def pinnedTypes? : ConditionKind → Option (List String)
  | controlPlaneAcl => some ["lke_cluster"]
  | _ => none

end ConditionKind

namespace Rule

def check? (r : Rule) : Option Check := (ConditionKind.ofId? r.conditionType).bind (·.check?)

def targetTypes (r : Rule) : List String :=
  ((ConditionKind.ofId? r.conditionType).bind (·.pinnedTypes?)).getD r.resourceTypes

def applicable (r : Rule) (resources : List Resource) : List Resource :=
  resources.filter fun resource => r.targetTypes.contains resource.type

end Rule

structure RegisteredCondition where
  kind : ConditionKind
  scope : String := "resource"
  live : Bool := false
  title : String := ""
  deriving DecidableEq, Repr

inductive RegistrationFault where
  | composite
  | duplicate (kind : ConditionKind)
  deriving DecidableEq, Repr

def RegistrationFault.message : RegistrationFault → String
  | composite => "Composite rules are resolved in the second pass and cannot be registered"
  | duplicate kind => "Duplicate condition_type registered: " ++ kind.id

structure ConditionRegistry where
  conditions : List RegisteredCondition := []

namespace ConditionRegistry

def get? (r : ConditionRegistry) (id : String) : Option RegisteredCondition :=
  r.conditions.find? (·.kind.id == id)

def register (r : ConditionRegistry) (c : RegisteredCondition) :
    Except RegistrationFault ConditionRegistry :=
  if c.kind = .composite then .error .composite
  else if (r.get? c.kind.id).isSome then .error (.duplicate c.kind)
  else .ok ⟨r.conditions ++ [c]⟩

def ids (r : ConditionRegistry) : List String := r.conditions.map (·.kind.id)

end ConditionRegistry

end CloudAudit
