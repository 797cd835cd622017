import CloudAudit.Model.Finding
import CloudAudit.Model.Id
import CloudAudit.Model.Rule

namespace CloudAudit

open Time (Moment)

structure StatusCounts where
  compliant : Nat := 0
  nonCompliant : Nat := 0
  notApplicable : Nat := 0
  deriving DecidableEq, Repr

namespace StatusCounts

def ofFindings (findings : List Finding) : StatusCounts where
  compliant := findings.countP (·.status == .compliant)
  nonCompliant := findings.countP (·.status == .nonCompliant)
  notApplicable := findings.countP (·.status == .notApplicable)

def count (c : StatusCounts) : Status → Nat
  | .compliant => c.compliant
  | .nonCompliant => c.nonCompliant
  | .notApplicable => c.notApplicable

def fields (c : StatusCounts) : Fields := Status.all.map fun s => (s.text, .int (c.count s))

end StatusCounts

/-- The share of compliant findings among those with a verdict, in percent with two decimals. -/
def complianceScore (compliant nonCompliant : Int) : Option Float :=
  let scoreable := compliant + nonCompliant
  if scoreable = 0 then none
  else some (Number.roundPlaces 2 (Number.floatOfQuotient compliant scoreable * 100.0))

structure RuleBreakdown where
  ruleId : String
  ruleName : String
  severity : Severity
  compliant : Int := 0
  nonCompliant : Int := 0
  notApplicable : Int := 0

namespace RuleBreakdown

def toJson (b : RuleBreakdown) : Json := .obj [
  ("rule_id", .str b.ruleId), ("rule_name", .str b.ruleName), ("severity", .str b.severity.text),
  ("compliant", .int b.compliant), ("non_compliant", .int b.nonCompliant),
  ("not_applicable", .int b.notApplicable)]

def schema : Schema RuleBreakdown where
  name := "RuleBreakdownEntry"
  record :=
    mk <$> .required "rule_id" Reader.string
      <*> .required "rule_name" Reader.string
      <*> .required "severity" (Reader.listed Severity.ofText?)
      <*> .field "compliant" Reader.int 0
      <*> .field "non_compliant" Reader.int 0
      <*> .field "not_applicable" Reader.int 0
  toJson := toJson

end RuleBreakdown

structure ScoreEntry where
  id : String
  accountId : String
  evaluatedAt : Moment
  totalResults : Int := 0
  compliantCount : Int := 0
  nonCompliantCount : Int := 0
  notApplicableCount : Int := 0
  acknowledgedCount : Int := 0
  score : Option Float := none
  totalRules : Int := 0
  breakdown : List RuleBreakdown := []

namespace ScoreEntry

def toJson (e : ScoreEntry) : Json := .obj [
  ("id", .str e.id), ("account_id", .str e.accountId),
  ("evaluated_at", .str e.evaluatedAt.recordText), ("total_results", .int e.totalResults),
  ("compliant_count", .int e.compliantCount), ("non_compliant_count", .int e.nonCompliantCount),
  ("not_applicable_count", .int e.notApplicableCount),
  ("acknowledged_count", .int e.acknowledgedCount),
  ("compliance_score", e.score.elim .null .float), ("total_rules_evaluated", .int e.totalRules),
  ("rule_breakdown", .arr (e.breakdown.map RuleBreakdown.toJson))]

/-- The fields of an entry; `id` stands in for a missing identifier. -/
def schema (id : String) : Schema ScoreEntry where
  name := "ScoreHistoryEntry"
  record :=
    mk <$> .field "id" Reader.string id
      <*> .required "account_id" Reader.string
      <*> .required "evaluated_at" Reader.moment
      <*> .field "total_results" Reader.int 0
      <*> .field "compliant_count" Reader.int 0
      <*> .field "non_compliant_count" Reader.int 0
      <*> .field "not_applicable_count" Reader.int 0
      <*> .field "acknowledged_count" Reader.int 0
      <*> .field "compliance_score" (Reader.optional Reader.float) none
      <*> .field "total_rules_evaluated" Reader.int 0
      <*> .field "rule_breakdown" (Reader.list RuleBreakdown.schema.record.reader) []
  toJson := toJson

/-- The numbers of a run over its findings and the rules that were active. -/
def ofFindings (id : String) (findings : List Finding) (rules : List Rule) (accountId : String)
    (now : Moment) : ScoreEntry :=
  let opened := findings.filter (!·.acknowledged)
  let counts := StatusCounts.ofFindings opened
  { id, accountId, evaluatedAt := now
    totalResults := opened.length
    compliantCount := counts.compliant
    nonCompliantCount := counts.nonCompliant
    notApplicableCount := counts.notApplicable
    acknowledgedCount := (findings.length : Int) - opened.length
    score := complianceScore counts.compliant counts.nonCompliant
    totalRules := rules.length
    breakdown := rules.map fun rule =>
      let own := StatusCounts.ofFindings (opened.filter (·.ruleId == rule.id))
      { ruleId := rule.id, ruleName := rule.name, severity := rule.severity
        compliant := own.compliant, nonCompliant := own.nonCompliant
        notApplicable := own.notApplicable } }

end ScoreEntry

structure ResourceResult where
  ruleId : String
  ruleName : String := ""
  severity : Severity := .info
  status : Status
  detail : Option String := none
  acknowledged : Bool := false
  deriving DecidableEq, Repr

namespace ResourceResult

def toJson (r : ResourceResult) : Json := .obj [
  ("rule_id", .str r.ruleId), ("rule_name", .str r.ruleName), ("severity", .str r.severity.text),
  ("status", .str r.status.text), ("detail", .ofOption r.detail),
  ("acknowledged", .bool r.acknowledged)]

def schema : Schema ResourceResult where
  name := "ResourceHistoryResult"
  record :=
    mk <$> .required "rule_id" Reader.string
      <*> .field "rule_name" Reader.string ""
      <*> .field "severity" (Reader.listed Severity.ofText?) .info
      <*> .required "status" (Reader.listed Status.ofText?)
      <*> .field "detail" (Reader.optional Reader.string) none
      <*> .field "acknowledged" Reader.bool false
  toJson := toJson

end ResourceResult

structure ResourceEntry where
  id : String
  accountId : String
  resourceId : String
  evaluatedAt : Moment
  results : List ResourceResult := []
  deriving DecidableEq, Repr

namespace ResourceEntry

def toJson (e : ResourceEntry) : Json := .obj [
  ("id", .str e.id), ("account_id", .str e.accountId), ("resource_id", .str e.resourceId),
  ("evaluated_at", .str e.evaluatedAt.recordText),
  ("results", .arr (e.results.map ResourceResult.toJson))]

/-- The fields of an entry; `id` stands in for a missing identifier. -/
def schema (id : String) : Schema ResourceEntry where
  name := "ResourceComplianceHistoryEntry"
  record :=
    mk <$> .field "id" Reader.string id
      <*> .required "account_id" Reader.string
      <*> .required "resource_id" Reader.string
      <*> .required "evaluated_at" Reader.moment
      <*> .field "results" (Reader.list ResourceResult.schema.record.reader) []
  toJson := toJson

def resultOf (rules : List Rule) (f : Finding) : ResourceResult :=
  let rule := Rule.lastById? rules f.ruleId
  { ruleId := f.ruleId, ruleName := rule.elim "" Rule.name
    severity := rule.elim .info Rule.severity
    status := f.status, detail := some f.detail, acknowledged := f.acknowledged }

/-- The resources that findings are about, each once, in the order in which they appear. -/
def resourceIds (findings : List Finding) : List String :=
  (findings.filterMap (·.resourceId)).foldl
    (fun ids id => if ids.contains id then ids else ids ++ [id]) []

def ofFindings (findings : List Finding) (rules : List Rule) (accountId : String) (now : Moment)
    (ids : IdSupply) : List ResourceEntry × IdSupply :=
  ids.label
    (fun id resourceId =>
      { id, accountId, resourceId, evaluatedAt := now
        results := (findings.filter (·.resourceId == some resourceId)).map (resultOf rules) })
    (resourceIds findings)

end ResourceEntry

end CloudAudit
