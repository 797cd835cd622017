import CloudAudit.Service.Evaluation
import CloudAudit.Service.Request
import CloudAudit.Store.FollowUp

namespace CloudAudit

open Time (Moment)

inductive ApiFault where
  | run (fault : RunFault)
  | store (fault : StoreFault)
  /-- The response would hold a number that is infinite or undefined. -/
  | unwritable

def ApiFault.message : ApiFault → String
  | run f => f.message
  | store f => f.message
  | unwritable => "Out of range float values are not JSON compliant"

namespace Api

/-- Reads the body as a record; `none` stands for a missing one and for `null`. -/
def readBody {α : Type} (b : Bounds) (record : Record α) (text : String) :
    Except Response (Option α) :=
  if text = "" then .ok none
  else
    let document := match text.toList with
      | '\uFEFF' :: rest => String.ofList rest
      | _ => text
    match Json.parse b.nesting document with
    | .error .malformed => .error (.invalid [⟨[.field "body"], .isJson⟩])
    | .error (.numeralTooLong _) | .error (.nestedTooDeep _) =>
      .error (.failure 400 "There was an error parsing the body")
    | .ok .null => .ok none
    | .ok (.obj fields) =>
      ((record fields).mapError fun fs => .invalid (fs.map (Fault.under (.field "body")))).map some
    | .ok _ => .error (.invalid [⟨[.field "body"], .isRequestRecord⟩])

def requireBody {α : Type} (b : Bounds) (record : Record α) (text : String) :
    Except Response α := do
  match ← readBody b record text with
  | some a => return a
  | none => .error (.invalid [⟨[.field "body"], .present⟩])

def acknowledgeRecord : Record (Option String × Option String) :=
  Prod.mk <$> .field "note" (Reader.optional Reader.string) none
    <*> .field "by" (Reader.optional Reader.string) none

def noteRecord : Record (String × Option String) :=
  Prod.mk <$> .required "note" Reader.string <*> .field "by" (Reader.optional Reader.string) none

def toggleRecord : Record Bool := .required "is_active" Reader.bool

/-- How many entries of a history are wanted: 90, or from 1 to 1000. -/
def limit (query : List (String × String)) : Except Response Int :=
  let fail (broken : Requirement) : Except Response Int :=
    .error (.invalid [⟨[.field "query", .field "limit"], broken⟩])
  match query.reverse.lookup "limit" with
  | none => .ok 90
  | some text =>
    match Reader.intText text with
    | .error fs => .error (.invalid (fs.map fun f =>
        (f.under (.field "limit")).under (.field "query")))
    | .ok n => if n < 1 then fail .atLeast else if 1000 < n then fail .atMost else .ok n

def storeFailure (f : StoreFault) : Except ApiFault Response :=
  if f.isAbsence then .ok (.failure 404 f.message)
  else if f.isInternal then .error (.store f)
  else .ok (.failure 400 f.message)

def runFailure : RunFault → Except ApiFault Response
  | .alreadyRunning accountId => .ok (.failure 409 (RunFault.alreadyRunning accountId).message)
  | .inputs accountId cause => .ok (.failure 502 (RunFault.inputs accountId cause).message)
  | f => .error (.run f)

def written (status : Nat) (doc : Json) : Except ApiFault Response :=
  if doc.isWritable then .ok ⟨status, .document doc⟩ else .error .unwritable

def writtenList {α : Type} (toJson : α → Json) (items : List α) : Except ApiFault Response :=
  written 200 (.arr (items.map toJson))

/-- How often each status occurs, and the time of the last run. -/
def summaryDoc (store : Store) (accountId : String) : Json :=
  .obj (summaryFields (store.findingsOf accountId) ++
    [("last_evaluated_at", (store.lastRun? accountId).elim .null fun m => .str m.isoText)])

variable {σ : Type}

abbrev Answer (σ : Type) := Except ApiFault Response × Service σ

def reading (s : Service σ) (result : Except StoreFault (Except ApiFault Response)) : Answer σ :=
  match result with
  | .ok response => (response, s)
  | .error f => (storeFailure f, s)

def changing {α : Type} (s : Service σ) (result : Except StoreFault (α × Store)) (status : Nat)
    (toJson : α → Json) : Answer σ :=
  match result with
  | .ok (a, store) => (written status (toJson a), { s with store })
  | .error f => (storeFailure f, s)

def withInput {α : Type} (s : Service σ) (input : Except Response α) (next : α → Answer σ) :
    Answer σ :=
  match input with
  | .ok a => next a
  | .error response => (.ok response, s)

def answer (p : Pipeline σ) (now : Moment) (r : Request) (s : Service σ) : Route → Answer σ
  | .health => (.ok (.ok (.obj [("status", .str "ok")])), s)
  | .evaluate a =>
    match s.evaluate p a now with
    | (.ok summary, s) => (written 200 summary.toJson, s)
    | (.error f, s) => (runFailure f, s)
  | .findings a => (writtenList Finding.toJson (s.store.findingsOf a), s)
  | .summary a => (written 200 (summaryDoc s.store a), s)
  | .scoreHistory a => withInput s (limit r.query) fun n =>
    reading s ((s.store.scoreHistory a n).map (writtenList ScoreEntry.toJson))
  | .resourceHistory id => withInput s (limit r.query) fun n =>
    reading s ((s.store.resourceHistory id n).map (writtenList ResourceEntry.toJson))
  | .accountRules a => (writtenList AccountRule.toJson (s.store.accountRules a), s)
  | .toggleRule a id => withInput s (requireBody p.bounds toggleRecord r.body) fun isActive =>
    changing s (s.store.toggleRule a id isActive now) 200 AccountRule.toJson
  | .applyProfile a id =>
    changing s (s.store.applyProfile a id now) 200 fun application =>
      .obj [("enabled", .int application.enabled), ("disabled", .int application.disabled)]
  | .acknowledge id => withInput s (readBody p.bounds acknowledgeRecord r.body) fun body =>
    let (note, author) := body.getD (none, none)
    changing s (s.store.acknowledge id note author now) 200 Finding.toJson
  | .unacknowledge id => changing s (s.store.unacknowledge id) 200 Finding.toJson
  | .notes id => reading s ((s.store.notesOn id).map (writtenList Note.toJson))
  | .addNote id => withInput s (requireBody p.bounds noteRecord r.body) fun (text, author) =>
    let s' := { s with ids := s.ids.advance }
    changing s' (s.store.addNote id text author s.ids.peek now) 201 Note.toJson
  | .deleteNote id =>
    match s.store.deleteNote id with
    | .ok store => (.ok ⟨204, .empty⟩, { s with store })
    | .error f => (storeFailure f, s)

/-- A response without a body where the method asks for none. -/
def withoutBody (method : String) (response : Response) : Response :=
  if Text.upper method = "HEAD" then { response with body := .empty } else response

def handle (p : Pipeline σ) (now : Moment) (r : Request) (s : Service σ) : Answer σ :=
  match Route.find r.method r.path with
  | .ok route => answer p now r s route
  | .error miss => (.ok (withoutBody r.method miss.response), s)

end Api

end CloudAudit
