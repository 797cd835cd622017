import CloudAudit.Model.Rule
import CloudAudit.Model.Id
import CloudAudit.Time.Text

namespace CloudAudit

open Time (Moment)

structure Override where
  accountId : String
  ruleId : String
  isActive : Bool
  appliedByProfileId : Option String := none
  updatedAt : Moment
  deriving DecidableEq, Repr

namespace Override

def toJson (o : Override) : Json := .obj [
  ("account_id", .str o.accountId), ("rule_id", .str o.ruleId), ("is_active", .bool o.isActive),
  ("applied_by_profile_id", .ofOption o.appliedByProfileId),
  ("updated_at", .str o.updatedAt.recordText)]

/-- The fields of an override; `now` stands in for a missing time. -/
def schema (now : Moment) : Schema Override where
  name := "AccountRuleOverride"
  record :=
    mk <$> .required "account_id" Reader.string
      <*> .required "rule_id" Reader.string
      <*> .required "is_active" Reader.bool
      <*> .field "applied_by_profile_id" (Reader.optional Reader.string) none
      <*> .field "updated_at" Reader.moment now
  toJson := toJson

/-- The overrides of an account, one a rule: of two for one rule the later counts. -/
def forAccount (overrides : List Override) (accountId : String) : List Override :=
  Table.ofList ruleId (overrides.filter (·.accountId == accountId))

def find? (rows : List Override) (id : String) : Option Override := Table.find? ruleId rows id

end Override

structure Profile where
  id : String
  name : String
  slug : String := ""
  description : String := ""
  tier : String := ""
  conditionTypes : List String := []
  isBuiltin : Bool := false
  deriving DecidableEq, Repr

namespace Profile

def toJson (p : Profile) : Json := .obj [
  ("id", .str p.id), ("name", .str p.name), ("slug", .str p.slug),
  ("description", .str p.description), ("tier", .str p.tier),
  ("rule_condition_types", .arr (p.conditionTypes.map .str)), ("is_builtin", .bool p.isBuiltin)]

/-- The fields of a profile; `id` stands in for a missing identifier. -/
def schema (id : String) : Schema Profile where
  name := "ComplianceProfile"
  record :=
    mk <$> .field "id" Reader.string id
      <*> .required "name" Reader.string
      <*> .field "slug" Reader.string ""
      <*> .field "description" Reader.string ""
      <*> .field "tier" Reader.string ""
      <*> .field "rule_condition_types" (Reader.list Reader.string) []
      <*> .field "is_builtin" Reader.bool false
  toJson := toJson

end Profile

namespace Rule

def visibleTo (accountId : String) (r : Rule) : Bool := r.accountId.all (· == accountId)

/-- Whether the rule is active under an override, if there is one. -/
def activeUnder (override : Option Override) (r : Rule) : Bool :=
  override.elim r.isActive Override.isActive

def visible (rules : List Rule) (accountId : String) : List Rule :=
  rules.filter (visibleTo accountId)

def effective (rules : List Rule) (overrides : List Override) (accountId : String) : List Rule :=
  let rows := Override.forAccount overrides accountId
  (visible rules accountId).filter fun r => r.activeUnder (Override.find? rows r.id)

/-- The override that switches a rule for an account, unless the rule is another account's. -/
def toggle? (r : Rule) (accountId : String) (isActive : Bool) (now : Moment) : Option Override :=
  if r.visibleTo accountId then some { accountId, ruleId := r.id, isActive, updatedAt := now }
  else none

end Rule

/-- What a profile implies for an account: an override for every rule that the account sees. -/
structure ProfileApplication where
  profileId : String
  overrides : List Override
  enabled : Nat
  disabled : Nat

/-- Switches on the rules whose kind the profile names and switches off the others. -/
def Profile.apply (p : Profile) (rules : List Rule) (accountId : String) (now : Moment) :
    ProfileApplication :=
  let overrides := (Rule.visible rules accountId).map fun r =>
    { accountId, ruleId := r.id, isActive := p.conditionTypes.contains r.conditionType
      appliedByProfileId := some p.id, updatedAt := now : Override }
  { profileId := p.id, overrides
    enabled := overrides.countP (·.isActive), disabled := overrides.countP (!·.isActive) }

end CloudAudit
