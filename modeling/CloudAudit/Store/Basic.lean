import CloudAudit.Model.Activation
import CloudAudit.Model.History
import CloudAudit.Model.Note
import CloudAudit.Model.Id

namespace CloudAudit

open Time (Moment)

inductive StoreFault where
  | noRule (id : String)
  | noProfile (id : String)
  | noFinding (id : String)
  | noNote (id : String)
  | hiddenRule (id accountId : String)
  | foreignRule (id : String) (owner : Option String) (accountId : String)
  | takenRuleId (id : String)
  | blankNote
  | incomparableTimes
  /-- The configuration of a rule is too high to be copied. -/
  | nestedTooDeep
  deriving DecidableEq, Repr

namespace StoreFault

def message : StoreFault → String
  | noRule id => "Rule '" ++ id ++ "' not found"
  | noProfile id => "Profile '" ++ id ++ "' not found"
  | noFinding id => "Finding '" ++ id ++ "' not found"
  | noNote id => "Note '" ++ id ++ "' not found"
  | hiddenRule id accountId => "Rule " ++ id ++ " is not visible to account " ++ accountId
  | foreignRule id owner accountId =>
    "Rule '" ++ id ++ "' is owned by account '" ++ owner.getD "None" ++ "', not '" ++
      accountId ++ "'"
  | takenRuleId id => "Rule id '" ++ id ++ "' is already used by another rule"
  | blankNote => "Note text must not be blank"
  | incomparableTimes => "can't compare offset-naive and offset-aware datetimes"
  | nestedTooDeep => "maximum recursion depth exceeded while calling a Python object"

def isAbsence : StoreFault → Bool
  | noRule _ | noProfile _ | noFinding _ | noNote _ | hiddenRule .. => true
  | _ => false

/-- Whether the fault is one of the store itself, and not of what was asked of it. -/
def isInternal : StoreFault → Bool
  | incomparableTimes | nestedTooDeep => true
  | _ => false

end StoreFault

structure Store where
  rules : List Rule := []
  profiles : List Profile := []
  overrides : List Override := []
  /-- The findings of every account that has been evaluated, the accounts in order of their first
  run. -/
  findings : List (String × List Finding) := []
  scores : List ScoreEntry := []
  resourceEntries : List ResourceEntry := []
  notes : List Note := []
  lastRuns : List (String × Moment) := []

namespace Store

/-- A store with rules and profiles; of two with one identifier the later counts. -/
def ofCatalogue (rules : List Rule) (profiles : List Profile) : Store where
  rules := Table.ofList Rule.id rules
  profiles := Table.ofList Profile.id profiles

def rule (s : Store) (id : String) : Except StoreFault Rule :=
  (Table.find? Rule.id s.rules id).elim (.error (.noRule id)) .ok

def putRule (s : Store) (r : Rule) : Store := { s with rules := Table.upsert Rule.id r s.rules }

def profile (s : Store) (id : String) : Except StoreFault Profile :=
  (Table.find? Profile.id s.profiles id).elim (.error (.noProfile id)) .ok

def putProfile (s : Store) (p : Profile) : Store :=
  { s with profiles := Table.upsert Profile.id p s.profiles }

def overridesOf (s : Store) (accountId : String) : List Override :=
  s.overrides.filter (·.accountId == accountId)

def putOverride (s : Store) (o : Override) : Store :=
  { s with overrides := Table.upsert (fun o => (o.accountId, o.ruleId)) o s.overrides }

/-- Replaces all overrides of an account; rows of other accounts are left out. -/
def replaceOverrides (s : Store) (accountId : String) (rows : List Override) : Store :=
  { s with overrides :=
      s.overrides.filter (·.accountId != accountId) ++ Override.forAccount rows accountId }

def findingsOf (s : Store) (accountId : String) : List Finding :=
  (s.findings.lookup accountId).getD []

def replaceFindings (s : Store) (accountId : String) (rows : List Finding) : Store :=
  { s with findings := Table.upsert Prod.fst (accountId, rows) s.findings }

/-- The finding with an identifier, of whatever account. -/
def finding (s : Store) (id : String) : Except StoreFault Finding :=
  (Table.find? Finding.id (s.findings.flatMap (·.2)) id).elim (.error (.noFinding id)) .ok

/-- Replaces the finding of its account that has the same identifier. -/
def updateFinding (s : Store) (f : Finding) : Except StoreFault Store :=
  let rows := s.findingsOf f.accountId
  if (Table.find? Finding.id rows f.id).isSome then
    .ok (s.replaceFindings f.accountId (Table.upsert Finding.id f rows))
  else .error (.noFinding f.id)

def appendScore (s : Store) (e : ScoreEntry) : Store := { s with scores := s.scores ++ [e] }

/-- The last `limit` entries of an account by time, earliest first. -/
def scoreHistory (s : Store) (accountId : String) (limit : Int) :
    Except StoreFault (List ScoreEntry) :=
  match Time.sortByMoment? ScoreEntry.evaluatedAt (s.scores.filter (·.accountId == accountId)) with
  | some entries => .ok (entries.drop (entries.length - limit.toNat))
  | none => .error .incomparableTimes

def appendResourceEntries (s : Store) (es : List ResourceEntry) : Store :=
  { s with resourceEntries := s.resourceEntries ++ es }

/-- The first `limit` entries of a resource by time, earliest first. -/
def resourceHistory (s : Store) (resourceId : String) (limit : Int) :
    Except StoreFault (List ResourceEntry) :=
  match Time.sortByMoment? ResourceEntry.evaluatedAt
      (s.resourceEntries.filter (·.resourceId == resourceId)) with
  | some entries => .ok (entries.take limit.toNat)
  | none => .error .incomparableTimes

def putNote (s : Store) (n : Note) : Store := { s with notes := Table.upsert Note.id n s.notes }

def notesOf (s : Store) (accountId : String) : List Note :=
  s.notes.filter (·.accountId == accountId)

def deleteNote (s : Store) (id : String) : Except StoreFault Store :=
  if (Table.find? Note.id s.notes id).isSome then
    .ok { s with notes := s.notes.filter (·.id != id) }
  else .error (.noNote id)

/-- Records the time of an account's last run. -/
def putLastRun (s : Store) (accountId : String) (at_ : Moment) : Store :=
  { s with lastRuns := Table.upsert Prod.fst (accountId, at_) s.lastRuns }

def lastRun? (s : Store) (accountId : String) : Option Moment := s.lastRuns.lookup accountId

end Store

end CloudAudit
