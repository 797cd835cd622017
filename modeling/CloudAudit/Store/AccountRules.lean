import CloudAudit.Store.Basic

namespace CloudAudit

open Time (Moment)

structure AccountRule where
  rule : Rule
  isActive : Bool
  isOverridden : Bool
  appliedByProfileId : Option String := none

namespace AccountRule

def toJson (v : AccountRule) : Json := .obj [
  ("rule", v.rule.toJson), ("effective_is_active", .bool v.isActive),
  ("overridden", .bool v.isOverridden), ("applied_by_profile_id", .ofOption v.appliedByProfileId)]

def ofRule (r : Rule) (override : Option Override) : AccountRule where
  rule := r
  isActive := r.activeUnder override
  isOverridden := override.isSome
  appliedByProfileId := override.bind (·.appliedByProfileId)

end AccountRule

namespace Store

def accountRules (s : Store) (accountId : String) : List AccountRule :=
  let rows := Override.forAccount (s.overridesOf accountId) accountId
  (Rule.visible s.rules accountId).map fun r => .ofRule r (Override.find? rows r.id)

def effectiveRules (s : Store) (accountId : String) : List Rule :=
  Rule.effective s.rules (s.overridesOf accountId) accountId

def toggleRule (s : Store) (accountId ruleId : String) (isActive : Bool) (now : Moment) :
    Except StoreFault (AccountRule × Store) := do
  let r ← s.rule ruleId
  match r.toggle? accountId isActive now with
  | some o => return (.ofRule r (some o), s.putOverride o)
  | none => .error (.hiddenRule r.id accountId)

/-- Replaces the overrides of an account by those of a profile. -/
def applyProfile (s : Store) (accountId profileId : String) (now : Moment) :
    Except StoreFault (ProfileApplication × Store) := do
  let p ← s.profile profileId
  let application := p.apply s.rules accountId now
  return (application, s.replaceOverrides accountId application.overrides)

def registrationFault? (s : Store) (accountId : String) (r : Rule) : Option StoreFault :=
  if r.accountId ≠ some accountId then some (.foreignRule r.id r.accountId accountId)
  else
    match Table.find? Rule.id s.rules r.id with
    | some known => if known.accountId = some accountId then none else some (.takenRuleId r.id)
    | none => none

/-- Files an account's own rules one after the other. The first that may not be registered ends it;
those before it stay. -/
def registerRules (s : Store) (accountId : String) : List Rule → Except StoreFault Unit × Store
  | [] => (.ok (), s)
  | r :: rest =>
    match s.registrationFault? accountId r with
    | some f => (.error f, s)
    | none => (s.putRule r).registerRules accountId rest

/-- Whether a rule can be copied, and so can the rule whose place it takes. -/
def canCopy (s : Store) (calls : Nat) (r : Rule) : Bool :=
  r.canBeCopied calls && (Table.find? Rule.id s.rules r.id).all (·.canBeCopied calls)

/-- The fault of filing a rule for which something cannot be copied. Another owner of the rule shows
before anything is copied, and that its identifier is taken only once the known rule is. -/
def copyFault (s : Store) (calls : Nat) (accountId : String) (r : Rule) : StoreFault :=
  match s.registrationFault? accountId r with
  | some (.foreignRule id owner accountId) => .foreignRule id owner accountId
  | some f =>
    if (Table.find? Rule.id s.rules r.id).all (·.canBeCopied calls) then f else .nestedTooDeep
  | none => .nestedTooDeep

/-- Files an account's own rules, copying each of them and the one that it replaces, and then reads
all rules back as copies. -/
def fileRules (s : Store) (calls : Nat) (accountId : String) (rules : List Rule) :
    Except StoreFault Unit × Store :=
  match s.registerRules accountId (rules.takeWhile (s.canCopy calls)) with
  | (.error f, s') => (.error f, s')
  | (.ok (), s') =>
    match rules.dropWhile (s.canCopy calls) with
    | r :: _ => (.error (s'.copyFault calls accountId r), s')
    | [] => (if s'.rules.all (·.canBeCopied calls) then .ok () else .error .nestedTooDeep, s')

end Store

end CloudAudit
