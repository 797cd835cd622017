import CloudAudit.Schema.Reader

namespace CloudAudit

private def strings (name : String) (default : List String) : Record (List String) :=
  .field name (Reader.list Reader.string) default

private def ints (name : String) (default : List Int) : Record (List Int) :=
  .field name (Reader.list Reader.int) default

private def flag (name : String) (default : Bool) : Record Bool := .field name Reader.bool default

private def optionalText (name : String) (default : Option String) : Record (Option String) :=
  .field name (Reader.optional Reader.string) default

private def jsonTexts (ss : List String) : Json := .arr (ss.map .str)

private def jsonInts (ns : List Int) : Json := .arr (ns.map .int)

structure EmptyConfig where

namespace EmptyConfig

def schema : Schema EmptyConfig where
  name := "EmptyConfig"
  record := pure ⟨⟩
  toJson _ := .obj []

end EmptyConfig

structure NoOpenInboundConfig where
  sensitivePorts : List Int

namespace NoOpenInboundConfig

/-- The ports that are sensitive unless a rule says otherwise. -/
def defaultPorts : List Int := [22, 3389, 3306, 5432, 6379, 27017]

def schema : Schema NoOpenInboundConfig where
  name := "NoOpenInboundConfig"
  record :=
    mk <$> ints "sensitive_ports" defaultPorts
  toJson c := .obj [("sensitive_ports", jsonInts c.sensitivePorts)]

end NoOpenInboundConfig

/-- Ports that must not be open to private address ranges. -/
structure LateralMovementConfig where
  sensitivePorts : List Int

namespace LateralMovementConfig

/-- The ports that are sensitive unless a rule says otherwise. -/
def defaultPorts : List Int := [22, 3389, 3306, 5432, 5984, 6379, 9200, 27017]

def schema : Schema LateralMovementConfig where
  name := "LateralMovementConfig"
  record :=
    mk <$> ints "sensitive_ports" defaultPorts
  toJson c := .obj [("sensitive_ports", jsonInts c.sensitivePorts)]

end LateralMovementConfig

/-- Which directions and actions must not cover every port. -/
structure AllPortsConfig where
  checkInbound : Bool
  checkOutbound : Bool
  actions : List String

namespace AllPortsConfig

def schema : Schema AllPortsConfig where
  name := "AllPortsAllowedConfig"
  record :=
    mk <$> flag "check_inbound" true
      <*> flag "check_outbound" false
      <*> strings "actions" ["ACCEPT"]
  toJson c := .obj [
    ("check_inbound", .bool c.checkInbound), ("check_outbound", .bool c.checkOutbound),
    ("actions", jsonTexts c.actions)]

end AllPortsConfig

/-- What the firewalls of an instance have to do; no text or an empty one asks for nothing. -/
structure FirewallPolicyConfig where
  requiredInboundPolicy : Option String
  requiredOutboundPolicy : Option String
  blockedPorts : List Int
  allowedSourceIps : List String
  requireNoOpenPorts : Bool

namespace FirewallPolicyConfig

def schema : Schema FirewallPolicyConfig where
  name := "FirewallRulesCheckConfig"
  record :=
    mk <$> optionalText "required_inbound_policy" none
      <*> optionalText "required_outbound_policy" none
      <*> ints "blocked_ports" []
      <*> strings "allowed_source_ips" []
      <*> flag "require_no_open_ports" false
  toJson c := .obj [
    ("required_inbound_policy", .ofOption c.requiredInboundPolicy),
    ("required_outbound_policy", .ofOption c.requiredOutboundPolicy),
    ("blocked_ports", jsonInts c.blockedPorts),
    ("allowed_source_ips", jsonTexts c.allowedSourceIps),
    ("require_no_open_ports", .bool c.requireNoOpenPorts)]

end FirewallPolicyConfig

/-- A tag that has to be there; without a value, an empty one or `*`, any value will do. -/
structure RequiredTag where
  key : String
  value : Option String
  deriving DecidableEq, Repr

namespace RequiredTag

def schema : Schema RequiredTag where
  name := "RequiredTag"
  record :=
    mk <$> .field "key" Reader.string "" <*> optionalText "value" (some "*")
  toJson t := .obj [("key", .str t.key), ("value", .ofOption t.value)]

end RequiredTag

/-- The tags a resource needs, or how many if none is named. -/
structure HasTagsConfig where
  requiredTags : List RequiredTag
  minTags : Int

namespace HasTagsConfig

def schema : Schema HasTagsConfig where
  name := "HasTagsConfig"
  record :=
    mk <$> .field "required_tags" (Reader.list RequiredTag.schema.record.reader) []
      <*> .field "min_tags" Reader.int 1
  toJson c := .obj [
    ("required_tags", .arr (c.requiredTags.map RequiredTag.schema.toJson)),
    ("min_tags", .int c.minTags)]

end HasTagsConfig

structure BackupRecencyConfig where
  maxAgeDays : Float

namespace BackupRecencyConfig

def schema : Schema BackupRecencyConfig where
  name := "BackupRecencyConfig"
  record :=
    mk <$> .field "max_age_days" Reader.float 7.0
  toJson c := .obj [("max_age_days", .float c.maxAgeDays)]

end BackupRecencyConfig

structure LockConfig where
  requiredLockTypes : List String

namespace LockConfig

def schema : Schema LockConfig where
  name := "LockConfiguredConfig"
  record :=
    mk <$> strings "required_lock_types" []
  toJson c := .obj [("required_lock_types", jsonTexts c.requiredLockTypes)]

end LockConfig

structure DatabaseAllowlistConfig where
  forbiddenCidrs : List String
  requireNonEmpty : Bool

namespace DatabaseAllowlistConfig

/-- The blocks that are forbidden unless a rule says otherwise. -/
def defaultForbidden : List String := ["0.0.0.0/0", "::/0"]

def schema : Schema DatabaseAllowlistConfig where
  name := "DbAllowlistConfig"
  record :=
    mk <$> strings "forbidden_cidrs" defaultForbidden <*> flag "require_non_empty" false
  toJson c := .obj [
    ("forbidden_cidrs", jsonTexts c.forbiddenCidrs), ("require_non_empty", .bool c.requireNonEmpty)]

end DatabaseAllowlistConfig

/-- Whether a database may be reachable from outside. -/
structure DatabaseAccessConfig where
  allowPublicAccess : Bool

namespace DatabaseAccessConfig

def schema : Schema DatabaseAccessConfig where
  name := "DbPublicAccessConfig"
  record :=
    mk <$> flag "allow_public_access" false
  toJson c := .obj [("allow_public_access", .bool c.allowPublicAccess)]

end DatabaseAccessConfig

/-- Access lists that a bucket must have or must not have. -/
structure BucketAclConfig where
  requiredAcl : Option String
  forbiddenAcls : List String

namespace BucketAclConfig

/-- The access lists that are forbidden unless a rule says otherwise. -/
def defaultForbidden : List String := ["public-read", "public-read-write", "authenticated-read"]

def schema : Schema BucketAclConfig where
  name := "BucketAclConfig"
  record :=
    mk <$> optionalText "required_acl" none <*> strings "forbidden_acls" defaultForbidden
  toJson c := .obj [
    ("required_acl", .ofOption c.requiredAcl), ("forbidden_acls", jsonTexts c.forbiddenAcls)]

end BucketAclConfig

/-- Whether a bucket has to allow or to refuse cross-origin access. -/
structure BucketCorsConfig where
  requireDisabled : Bool
  requireEnabled : Bool

namespace BucketCorsConfig

def schema : Schema BucketCorsConfig where
  name := "BucketCorsConfig"
  record :=
    mk <$> flag "require_cors_disabled" false <*> flag "require_cors_enabled" false
  toJson c := .obj [
    ("require_cors_disabled", .bool c.requireDisabled),
    ("require_cors_enabled", .bool c.requireEnabled)]

end BucketCorsConfig

/-- Protocols that a load balancer may and must not use. -/
structure BalancerProtocolConfig where
  allowed : List String
  forbidden : List String

namespace BalancerProtocolConfig

def schema : Schema BalancerProtocolConfig where
  name := "NodeBalancerProtocolConfig"
  record :=
    mk <$> strings "allowed_protocols" [] <*> strings "forbidden_protocols" []
  toJson c := .obj [
    ("allowed_protocols", jsonTexts c.allowed), ("forbidden_protocols", jsonTexts c.forbidden)]

end BalancerProtocolConfig

structure BalancerPortConfig where
  allowed : List Int

namespace BalancerPortConfig

def schema : Schema BalancerPortConfig where
  name := "NodeBalancerPortConfig"
  record :=
    mk <$> ints "allowed_ports" []
  toJson c := .obj [("allowed_ports", jsonInts c.allowed)]

end BalancerPortConfig

structure MinNodeCountConfig where
  minCount : Int

namespace MinNodeCountConfig

def schema : Schema MinNodeCountConfig where
  name := "MinNodeCountConfig"
  record :=
    mk <$> .field "min_count" Reader.int 2
  toJson c := .obj [("min_count", .int c.minCount)]

end MinNodeCountConfig

structure ApprovedRegionsConfig where
  approved : List String

namespace ApprovedRegionsConfig

def schema : Schema ApprovedRegionsConfig where
  name := "ApprovedRegionsConfig"
  record :=
    mk <$> strings "approved_regions" []
  toJson c := .obj [("approved_regions", jsonTexts c.approved)]

end ApprovedRegionsConfig

structure PlanTierConfig where
  tag : String
  tagValue : String
  approvedTiers : List String

namespace PlanTierConfig

def schema : Schema PlanTierConfig where
  name := "PlanTierByTagConfig"
  record :=
    mk <$> .field "tag" Reader.string ""
      <*> .field "tag_value" Reader.string ""
      <*> strings "approved_tiers" []
  toJson c := .obj [
    ("tag", .str c.tag), ("tag_value", .str c.tagValue),
    ("approved_tiers", jsonTexts c.approvedTiers)]

end PlanTierConfig

structure TfaUsersConfig where
  excludedTypes : List String

namespace TfaUsersConfig

def schema : Schema TfaUsersConfig where
  name := "TfaUsersConfig"
  record :=
    mk <$> strings "exclude_user_types" ["proxy"]
  toJson c := .obj [("exclude_user_types", jsonTexts c.excludedTypes)]

end TfaUsersConfig

structure LoginIpsConfig where
  allowedIps : List String

namespace LoginIpsConfig

def schema : Schema LoginIpsConfig where
  name := "LoginAllowedIpsConfig"
  record :=
    mk <$> strings "allowed_ips" []
  toJson c := .obj [("allowed_ips", jsonTexts c.allowedIps)]

end LoginIpsConfig

/-- How a rule combines the findings of other rules. -/
structure CompositeConfig where
  operator : String
  ruleIds : List String
  ifRuleId : Option String
  thenRuleId : Option String

namespace CompositeConfig

def schema : Schema CompositeConfig where
  name := "CompositeConfig"
  record :=
    mk <$> .field "operator" Reader.string "AND"
      <*> strings "rule_ids" []
      <*> optionalText "if_rule_id" none
      <*> optionalText "then_rule_id" none
  toJson c := .obj [
    ("operator", .str c.operator), ("rule_ids", jsonTexts c.ruleIds),
    ("if_rule_id", .ofOption c.ifRuleId), ("then_rule_id", .ofOption c.thenRuleId)]

end CompositeConfig

end CloudAudit
