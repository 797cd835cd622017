import CloudAudit.Check.Config
import CloudAudit.Check.Kind
import CloudAudit.Text.Blank

namespace CloudAudit

inductive FieldType where
  | text
  | optionalText
  | whole
  | number
  | flag
  | texts
  | wholes
  | requiredTags
  deriving DecidableEq, Repr

/-- A configuration field. A field without a default here starts out with a list of its own. -/
structure FieldShape where
  name : String
  type : FieldType
  default : Option Json := none

structure ConfigShape where
  name : String
  fields : List FieldShape := []

namespace FieldShape

def capital : List Char → List Char
  | [] => []
  | c :: cs => c.toUpper :: cs

def title (f : FieldShape) : String :=
  " ".intercalate ((Text.splitOnChar '_' f.name.toList).map (String.ofList <| capital ·))

def typed (name : String) : Json := .obj [("type", .str name)]

def typeFields : FieldType → Fields
  | .text => [("type", .str "string")]
  | .optionalText => [("anyOf", .arr [typed "string", typed "null"])]
  | .whole => [("type", .str "integer")]
  | .number => [("type", .str "number")]
  | .flag => [("type", .str "boolean")]
  | .texts => [("items", typed "string"), ("type", .str "array")]
  | .wholes => [("items", typed "integer"), ("type", .str "array")]
  | .requiredTags =>
    [("items", .obj [("$ref", .str "#/$defs/RequiredTag")]), ("type", .str "array")]

def toJson (f : FieldShape) : Json :=
  .obj (("title", .str f.title) :: typeFields f.type ++
    (f.default.map fun v => ("default", v)).toList)

end FieldShape

namespace ConfigShape

/-- A configuration without the shapes it refers to. -/
def fieldsOf (c : ConfigShape) : Fields :=
  [("properties", .obj (c.fields.map fun f => (f.name, f.toJson))), ("title", .str c.name),
    ("type", .str "object")]

def requiredTag : ConfigShape :=
  ⟨RequiredTag.schema.name,
    [⟨"key", .text, some (.str "")⟩, ⟨"value", .optionalText, some (.str "*")⟩]⟩

def toJson (c : ConfigShape) : Json :=
  let definitions : Fields :=
    if c.fields.any (·.type == .requiredTags) then
      [("$defs", .obj [(requiredTag.name, .obj requiredTag.fieldsOf)])]
    else []
  .obj (definitions ++ c.fieldsOf)

end ConfigShape

namespace ConditionKind

def configShape : ConditionKind → ConfigShape
  | noOpenInbound => ⟨NoOpenInboundConfig.schema.name, [⟨"sensitive_ports", .wholes, none⟩]⟩
  | firewallLateral => ⟨LateralMovementConfig.schema.name, [⟨"sensitive_ports", .wholes, none⟩]⟩
  | firewallAllPorts => ⟨AllPortsConfig.schema.name,
    [⟨"check_inbound", .flag, some (.bool true)⟩, ⟨"check_outbound", .flag, some (.bool false)⟩,
      ⟨"actions", .texts, none⟩]⟩
  | firewallRulesCheck => ⟨FirewallPolicyConfig.schema.name,
    [⟨"required_inbound_policy", .optionalText, some .null⟩,
      ⟨"required_outbound_policy", .optionalText, some .null⟩, ⟨"blocked_ports", .wholes, none⟩,
      ⟨"allowed_source_ips", .texts, none⟩,
      ⟨"require_no_open_ports", .flag, some (.bool false)⟩]⟩
  | hasTags => ⟨HasTagsConfig.schema.name,
    [⟨"required_tags", .requiredTags, none⟩, ⟨"min_tags", .whole, some (.int 1)⟩]⟩
  | backupRecency => ⟨BackupRecencyConfig.schema.name,
    [⟨"max_age_days", .number, some (.int 7)⟩]⟩
  | lockConfigured => ⟨LockConfig.schema.name, [⟨"required_lock_types", .texts, none⟩]⟩
  | databaseAllowlist => ⟨DatabaseAllowlistConfig.schema.name,
    [⟨"forbidden_cidrs", .texts, none⟩, ⟨"require_non_empty", .flag, some (.bool false)⟩]⟩
  | databasePublicAccess => ⟨DatabaseAccessConfig.schema.name,
    [⟨"allow_public_access", .flag, some (.bool false)⟩]⟩
  | bucketAcl => ⟨BucketAclConfig.schema.name,
    [⟨"required_acl", .optionalText, some .null⟩, ⟨"forbidden_acls", .texts, none⟩]⟩
  | bucketCors => ⟨BucketCorsConfig.schema.name,
    [⟨"require_cors_disabled", .flag, some (.bool false)⟩,
      ⟨"require_cors_enabled", .flag, some (.bool false)⟩]⟩
  | balancerProtocol => ⟨BalancerProtocolConfig.schema.name,
    [⟨"allowed_protocols", .texts, none⟩, ⟨"forbidden_protocols", .texts, none⟩]⟩
  | balancerPorts => ⟨BalancerPortConfig.schema.name, [⟨"allowed_ports", .wholes, none⟩]⟩
  | minNodeCount => ⟨MinNodeCountConfig.schema.name, [⟨"min_count", .whole, some (.int 2)⟩]⟩
  | approvedRegions => ⟨ApprovedRegionsConfig.schema.name, [⟨"approved_regions", .texts, none⟩]⟩
  | planTierByTag => ⟨PlanTierConfig.schema.name,
    [⟨"tag", .text, some (.str "")⟩, ⟨"tag_value", .text, some (.str "")⟩,
      ⟨"approved_tiers", .texts, none⟩]⟩
  | tfaUsers => ⟨TfaUsersConfig.schema.name, [⟨"exclude_user_types", .texts, none⟩]⟩
  | loginAllowedIps => ⟨LoginIpsConfig.schema.name, [⟨"allowed_ips", .texts, none⟩]⟩
  | composite => ⟨CompositeConfig.schema.name,
    [⟨"operator", .text, some (.str "AND")⟩, ⟨"rule_ids", .texts, none⟩,
      ⟨"if_rule_id", .optionalText, some .null⟩, ⟨"then_rule_id", .optionalText, some .null⟩]⟩
  | _ => ⟨EmptyConfig.schema.name, []⟩

end ConditionKind

end CloudAudit
