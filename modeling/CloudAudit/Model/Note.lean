import CloudAudit.Model.Finding

namespace CloudAudit

open Time (Moment)

structure Note where
  id : String
  findingId : String
  accountId : String
  ruleId : String
  resourceId : Option String := none
  text : String
  createdBy : Option String := none
  createdAt : Moment
  deriving DecidableEq, Repr

namespace Note

def toJson (n : Note) : Json := .obj [
  ("id", .str n.id), ("finding_id", .str n.findingId), ("account_id", .str n.accountId),
  ("rule_id", .str n.ruleId), ("resource_id", .ofOption n.resourceId), ("note", .str n.text),
  ("created_by", .ofOption n.createdBy), ("created_at", .str n.createdAt.recordText)]

/-- The fields of a note; `id` and `now` stand in for a missing identifier and time. -/
def schema (id : String) (now : Moment) : Schema Note where
  name := "FindingNote"
  record :=
    mk <$> .field "id" Reader.string id
      <*> .required "finding_id" Reader.string
      <*> .required "account_id" Reader.string
      <*> .required "rule_id" Reader.string
      <*> .field "resource_id" (Reader.optional Reader.string) none
      <*> .required "note" Reader.string
      <*> .field "created_by" (Reader.optional Reader.string) none
      <*> .field "created_at" Reader.moment now
  toJson := toJson

def ledgerKey (n : Note) : String := CloudAudit.ledgerKey n.ruleId n.resourceId

/-- Whether the note belongs to a finding, or to an earlier one on the same rule and resource. -/
def belongsTo (n : Note) (f : Finding) : Bool :=
  n.findingId == f.id || (n.accountId == f.accountId && n.ledgerKey == f.ledgerKey)

def create? (f : Finding) (text : String) (author : Option String) (id : String) (now : Moment) :
    Option Note :=
  let body := Text.trim text
  if body = "" then none
  else some ⟨id, f.id, f.accountId, f.ruleId, f.resourceId, body, author, now⟩

/-- The notes of a finding, oldest first; `none` if their times cannot be compared. -/
def thread? (notes : List Note) (f : Finding) : Option (List Note) :=
  Time.sortByMoment? createdAt (notes.filter (·.belongsTo f))

end Note

end CloudAudit
