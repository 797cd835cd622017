import CloudAudit.Service.Evaluation

namespace CloudAudit

/-- A run for the record: its summary, its numbers rule by rule, its findings and its rules. -/
structure Review where
  summary : Summary
  score : ScoreEntry
  findings : List Finding
  rules : List Rule

namespace Review

def toJson (r : Review) : Json := .obj [
  ("summary", r.summary.toJson), ("score", r.score.toJson),
  ("findings", .arr (r.findings.map Finding.toJson))]

def scoreText (score : Option Float) : String :=
  score.elim "n/a" fun x => Number.twoPlaces x ++ "%"

def findingLine (f : Finding) : String :=
  let target := f.resourceId.getD ""
  "  - [" ++ f.status.text ++ "] " ++ (if target = "" then "account" else target) ++ ": " ++
    f.detail

def countsLine (b : RuleBreakdown) : String :=
  "- compliant=" ++ toString b.compliant ++ " non_compliant=" ++ toString b.nonCompliant ++
    " not_applicable=" ++ toString b.notApplicable

def descriptionLines (rules : List Rule) (ruleId : String) : List String :=
  match Rule.lastById? rules ruleId with
  | some r => if r.description = "" then [] else [r.description]
  | none => []

def sectionLines (r : Review) (b : RuleBreakdown) : List String :=
  ["", "### " ++ b.ruleName ++ " (" ++ b.severity.text ++ ")"] ++
    descriptionLines r.rules b.ruleId ++ [countsLine b] ++
    (r.findings.filter (·.ruleId == b.ruleId)).map findingLine

def head (r : Review) : List String := [
  "# Compliance Review " ++ r.summary.accountId, "",
  "Evaluated at: " ++ r.summary.evaluatedAt.isoText,
  "Compliance score: " ++ scoreText r.score.score, "", "## Totals",
  "- compliant: " ++ toString r.summary.compliant,
  "- non_compliant: " ++ toString r.summary.nonCompliant,
  "- not_applicable: " ++ toString r.summary.notApplicable,
  "- acknowledged: " ++ toString r.summary.acknowledged, "", "## Rules"]

def lines (r : Review) : List String := r.head ++ r.score.breakdown.flatMap r.sectionLines

def markdown (r : Review) : String := "\n".intercalate r.lines ++ "\n"

end Review

end CloudAudit
