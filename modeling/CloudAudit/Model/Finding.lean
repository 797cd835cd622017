import CloudAudit.Schema.Reader
import CloudAudit.Time.Text

namespace CloudAudit

open Time (Moment)

def Json.ofMoment? (m : Option Moment) : Json := m.elim .null fun m => .str m.recordText

/-- What a rule says. -/
inductive Status where
  | compliant
  | nonCompliant
  | notApplicable
  deriving DecidableEq, Repr

namespace Status

def all : List Status := [compliant, nonCompliant, notApplicable]

def text : Status → String
  | compliant => "compliant"
  | nonCompliant => "non_compliant"
  | notApplicable => "not_applicable"

def ofText? (s : String) : Option Status := all.find? (·.text == s)

end Status

/-- What a run says about a rule: the part of a finding that the evaluation decides. -/
structure Verdict where
  ruleId : String
  /-- The resource; a verdict on the whole account has none. -/
  resourceId : Option String
  status : Status
  detail : String
  deriving DecidableEq, Repr

/-- A stored finding: a verdict and whether people have acknowledged it. -/
structure Finding where
  id : String
  ruleId : String
  resourceId : Option String := none
  accountId : String
  status : Status
  detail : String
  evaluatedAt : Moment
  acknowledged : Bool := false
  acknowledgedAt : Option Moment := none
  acknowledgedNote : Option String := none
  acknowledgedBy : Option String := none
  deriving DecidableEq, Repr

/-- The key under which acknowledgements of a rule and a resource are remembered. -/
def ledgerKey (ruleId : String) (resourceId : Option String) : String :=
  ruleId ++ ":" ++ resourceId.getD ""

namespace Finding

def toJson (f : Finding) : Json := .obj [
  ("id", .str f.id), ("rule_id", .str f.ruleId), ("resource_id", .ofOption f.resourceId),
  ("account_id", .str f.accountId), ("status", .str f.status.text), ("detail", .str f.detail),
  ("evaluated_at", .str f.evaluatedAt.recordText), ("acknowledged", .bool f.acknowledged),
  ("acknowledged_at", .ofMoment? f.acknowledgedAt),
  ("acknowledged_note", .ofOption f.acknowledgedNote),
  ("acknowledged_by", .ofOption f.acknowledgedBy)]

/-- The fields of a finding; `id` and `now` stand in for a missing identifier and time. -/
def schema (id : String) (now : Moment) : Schema Finding where
  name := "Finding"
  record :=
    mk <$> .field "id" Reader.string id
      <*> .required "rule_id" Reader.string
      <*> .field "resource_id" (Reader.optional Reader.string) none
      <*> .required "account_id" Reader.string
      <*> .required "status" (Reader.listed Status.ofText?)
      <*> .required "detail" Reader.string
      <*> .field "evaluated_at" Reader.moment now
      <*> .field "acknowledged" Reader.bool false
      <*> .field "acknowledged_at" (Reader.optional Reader.moment) none
      <*> .field "acknowledged_note" (Reader.optional Reader.string) none
      <*> .field "acknowledged_by" (Reader.optional Reader.string) none
  toJson := toJson

def ledgerKey (f : Finding) : String := CloudAudit.ledgerKey f.ruleId f.resourceId

def verdict (f : Finding) : Verdict := ⟨f.ruleId, f.resourceId, f.status, f.detail⟩

def ofVerdict (accountId : String) (now : Moment) (id : String) (v : Verdict) : Finding where
  id := id
  ruleId := v.ruleId
  resourceId := v.resourceId
  accountId := accountId
  status := v.status
  detail := v.detail
  evaluatedAt := now

end Finding

end CloudAudit
