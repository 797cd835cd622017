import CloudAudit.Model.Finding
import CloudAudit.Model.Id
import CloudAudit.Text.Blank

namespace CloudAudit

open Time (Moment)

structure Acknowledgement where
  at? : Option Moment
  note : Option String
  author : Option String
  deriving DecidableEq, Repr

namespace Finding

def acknowledgement? (f : Finding) : Option Acknowledgement :=
  if f.acknowledged then some ⟨f.acknowledgedAt, f.acknowledgedNote, f.acknowledgedBy⟩ else none

/-- The finding with an acknowledgement, or without one. -/
def withAcknowledgement (f : Finding) (ack : Option Acknowledgement) : Finding :=
  { f with
    acknowledged := ack.isSome
    acknowledgedAt := ack.bind (·.at?)
    acknowledgedNote := ack.bind (·.note)
    acknowledgedBy := ack.bind (·.author) }

/-- Acknowledges a finding. A blank note counts as none. -/
def acknowledge (f : Finding) (note author : Option String) (now : Moment) : Finding :=
  let body := Text.trim (note.getD "")
  f.withAcknowledgement (some ⟨some now, if body = "" then none else some body, author⟩)

def unacknowledge (f : Finding) : Finding := f.withAcknowledgement none

end Finding

/-- Acknowledgements by the keys of rules and resources, each key once. -/
structure Ledger where
  entries : List (String × Acknowledgement) := []

namespace Ledger

def get? (l : Ledger) (key : String) : Option Acknowledgement := l.entries.lookup key

def contains (l : Ledger) (key : String) : Bool := (l.get? key).isSome

def size (l : Ledger) : Nat := l.entries.length

/-- The acknowledgements of findings; of two under one key the later counts. -/
def capture (findings : List Finding) : Ledger :=
  ⟨Table.ofList Prod.fst (findings.filterMap fun f => f.acknowledgement?.map (f.ledgerKey, ·))⟩

/-- Gives every finding the acknowledgement under its key and takes away any other. -/
def restamp (l : Ledger) (findings : List Finding) : List Finding :=
  findings.map fun f => f.withAcknowledgement (l.get? f.ledgerKey)

end Ledger

end CloudAudit
