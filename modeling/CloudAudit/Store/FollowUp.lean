import CloudAudit.Model.Id
import CloudAudit.Model.Ledger
import CloudAudit.Store.Basic

namespace CloudAudit

open Time (Moment)

/-- How many findings there are, and how many of each status. -/
def summaryFields (findings : List Finding) : Fields :=
  ("total", .int findings.length) :: (StatusCounts.ofFindings findings).fields

namespace Store

def acknowledge (s : Store) (findingId : String) (note author : Option String) (now : Moment) :
    Except StoreFault (Finding × Store) := do
  let f := (← s.finding findingId).acknowledge note author now
  return (f, ← s.updateFinding f)

def unacknowledge (s : Store) (findingId : String) : Except StoreFault (Finding × Store) := do
  let f := (← s.finding findingId).unacknowledge
  return (f, ← s.updateFinding f)

def addNote (s : Store) (findingId text : String) (author : Option String) (id : String)
    (now : Moment) : Except StoreFault (Note × Store) := do
  let f ← s.finding findingId
  match Note.create? f text author id now with
  | some n => return (n, s.putNote n)
  | none => .error .blankNote

/-- The notes of a finding and of earlier ones on the same rule and resource, oldest first. -/
def notesOn (s : Store) (findingId : String) : Except StoreFault (List Note) := do
  let f ← s.finding findingId
  match Note.thread? (s.notesOf f.accountId) f with
  | some notes => return notes
  | none => .error .incomparableTimes

end Store

end CloudAudit
