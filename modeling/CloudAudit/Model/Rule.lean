import CloudAudit.Json.Walk
import CloudAudit.Schema.Reader

namespace CloudAudit

inductive Severity where
  | critical
  | warning
  | info
  deriving DecidableEq, Repr

namespace Severity

def text : Severity → String
  | critical => "critical"
  | warning => "warning"
  | info => "info"

def ofText? (s : String) : Option Severity := [critical, warning, info].find? (·.text == s)

end Severity

/-- A rule: a kind of condition with its configuration, for the resources of some types. -/
structure Rule where
  id : String
  name : String
  description : String := ""
  resourceTypes : List String := []
  conditionType : String
  config : Fields := []
  severity : Severity := .warning
  isActive : Bool := true
  /-- The account that owns the rule; a global rule has none. -/
  accountId : Option String := none
  isBuiltin : Bool := false

namespace Rule

def toJson (r : Rule) : Json := .obj [
  ("id", .str r.id), ("name", .str r.name), ("description", .str r.description),
  ("resource_types", .arr (r.resourceTypes.map .str)), ("condition_type", .str r.conditionType),
  ("condition_config", .obj (finiteFields r.config)), ("severity", .str r.severity.text),
  ("is_active", .bool r.isActive), ("account_id", .ofOption r.accountId),
  ("is_builtin", .bool r.isBuiltin)]

/-- The fields of a rule; `id` stands in for a missing identifier. -/
def schema (id : String) : Schema Rule where
  name := "ComplianceRule"
  record :=
    mk <$> .field "id" Reader.string id
      <*> .required "name" Reader.string
      <*> .field "description" Reader.string ""
      <*> .field "resource_types" (Reader.list Reader.string) []
      <*> .required "condition_type" Reader.string
      <*> .field "condition_config" Reader.object []
      <*> .field "severity" (Reader.listed Severity.ofText?) .warning
      <*> .field "is_active" Reader.bool true
      <*> .field "account_id" (Reader.optional Reader.string) none
      <*> .field "is_builtin" Reader.bool false
  toJson := toJson

def isGlobal (r : Rule) : Bool := r.accountId.isNone

def isComposite (r : Rule) : Bool := r.conditionType == "composite"

/-- Whether the configuration can be copied with that many calls under way at once. -/
def canBeCopied (calls : Nat) (r : Rule) : Bool := (Json.obj r.config).copyCalls ≤ calls

def configAs {α : Type} (schema : Schema α) (r : Rule) : Except Rejection α :=
  schema.read (.obj r.config)

/-- The first rule with an identifier. -/
def byId? (rules : List Rule) (id : String) : Option Rule := rules.find? (·.id == id)

/-- The last rule with an identifier. -/
def lastById? (rules : List Rule) (id : String) : Option Rule := byId? rules.reverse id

end Rule

end CloudAudit
