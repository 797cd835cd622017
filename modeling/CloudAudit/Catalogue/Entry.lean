import CloudAudit.Builtin.Profiles
import CloudAudit.Builtin.Rules
import CloudAudit.Catalogue.ConfigShape
import CloudAudit.Check.Registry
import CloudAudit.Command.Options
import CloudAudit.Json.Printer
import CloudAudit.Yaml.Writer

namespace CloudAudit

namespace ConditionKind

def title : ConditionKind → String
  | firewallAttached => "Instance is protected by at least one firewall."
  | firewallHasTargets => "Firewall is attached to at least one entity."
  | volumeAttached => "Volume is attached to an instance."
  | noOpenInbound => "No sensitive port is reachable from the whole internet."
  | firewallLateral => "Sensitive ports do not accept traffic from private address ranges."
  | firewallAllPorts => "No rule opens the full port range."
  | firewallRulesCheck =>
    "Firewalls protecting an instance meet the configured policy requirements."
  | firewallNoDuplicates => "No two rules in the same direction are identical."
  | firewallDescriptions => "Every firewall rule carries a description."
  | hasTags => "Resource carries the required tags."
  | backupsEnabled => "Automated backups are enabled."
  | backupRecency => "A successful backup exists within the configured window."
  | diskEncryption => "Instance disks are encrypted."
  | volumeEncryption => "Block storage volume is encrypted."
  | lockConfigured => "Deletion locks of the required types are configured."
  | notOffline => "Instance is not offline."
  | databaseAllowlist => "Database allow list contains no unrestricted CIDRs."
  | databasePublicAccess => "Database is not reachable from outside its VPC."
  | bucketAcl => "Bucket ACL is not publicly readable or writable."
  | bucketCors => "Bucket CORS setting matches the requirement."
  | balancerProtocol => "NodeBalancer ports use permitted protocols."
  | balancerPorts => "NodeBalancer listens only on approved ports."
  | minNodeCount => "Cluster has at least the configured number of nodes."
  | controlPlaneHa => "Control plane high availability is enabled."
  | auditLogs => "Control plane audit logging is enabled."
  | approvedRegions => "Resource is deployed in an approved region."
  | planTierByTag => "Tagged instances run on an approved plan tier."
  | tfaUsers => "Every account user has two-factor authentication enabled."
  | loginAllowedIps => "Account logins originate from allowed IP addresses."
  | controlPlaneAcl => "Cluster control plane ACL is enabled and restricted."
  | composite => ""

def subject : ConditionKind → String
  | databaseAllowlist | databasePublicAccess | bucketAcl | bucketCors | balancerProtocol
  | balancerPorts => "access"
  | firewallAttached | firewallHasTargets | volumeAttached => "attachment"
  | noOpenInbound | firewallLateral | firewallAllPorts | firewallRulesCheck | firewallNoDuplicates
  | firewallDescriptions => "firewall"
  | approvedRegions | planTierByTag => "governance"
  | tfaUsers | loginAllowedIps | controlPlaneAcl => "live"
  | minNodeCount | controlPlaneHa | auditLogs => "scale"
  | backupsEnabled | backupRecency | diskEncryption | volumeEncryption | lockConfigured
  | notOffline => "state"
  | hasTags => "tagging"
  | composite => "composite"

/-- Whether a check is about single resources or the account. -/
def scope (kind : ConditionKind) : String :=
  match kind.check? with
  | some (.liveAccount _) => "account"
  | _ => "resource"

def isLive (kind : ConditionKind) : Bool :=
  match kind.check? with
  | some (.liveAccount _) | some (.liveResource _) => true
  | _ => false

def entry (kind : ConditionKind) : Json := .obj [
  ("condition_type", .str kind.id), ("title", .str kind.title), ("scope", .str kind.scope),
  ("live", .bool kind.isLive),
  ("resource_types", kind.pinnedTypes?.elim .null fun types => .arr (types.map .str)),
  ("module", .str ("common.compliance_engine.conditions." ++ kind.subject)),
  ("function", .str kind.id), ("config_model", .str kind.configShape.name),
  ("config_schema", kind.configShape.toJson)]

end ConditionKind

inductive Catalogue where
  | conditions
  | rules
  | profiles
  deriving DecidableEq, Repr

namespace Catalogue

def text : Catalogue → String
  | conditions => "conditions"
  | rules => "rules"
  | profiles => "profiles"

/-- The entries of a catalogue, the fields of each in the order of their names. -/
def entries (c : Catalogue) : List Json :=
  let rows := match c with
    | conditions => ConditionKind.byName.map ConditionKind.entry
    | rules => Builtin.rules.map Rule.toJson
    | profiles => Builtin.profiles.map Profile.toJson
  rows.map Json.sortFields

end Catalogue

namespace Listing

def specs : List OptionSpec := [
  { name := "--format", choices := ["yaml", "json"] },
  { name := "--show", choices := ["conditions", "rules", "profiles"] }]

def catalogue (options : List (String × String)) : Catalogue :=
  match options.lookup "--show" with
  | some "rules" => .rules
  | some "profiles" => .profiles
  | _ => .conditions

def output (args : List String) : Except OptionExit String := do
  let options ← Options.read specs args
  let entries := (catalogue options).entries
  if options.lookup "--format" = some "json" then
    return (Json.arr entries).indented 0 ++ "\n"
  else return Yaml.document entries ++ "\n"

end Listing

end CloudAudit
