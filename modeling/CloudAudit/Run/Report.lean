import CloudAudit.Model.Id
import CloudAudit.Run.Composite
import CloudAudit.Run.FirstPass

namespace CloudAudit

open Time (Moment)

/-- The report of one run, before earlier acknowledgements are carried over. -/
structure Report where
  id : String
  accountId : String
  evaluatedAt : Moment
  findings : List Finding
  rules : List Rule
  /-- How often each status occurs, for the statuses that do. -/
  totals : List (Status × Int)

namespace Report

def tally (totals : List (Status × Int)) (s : Status) : List (Status × Int) :=
  match totals with
  | [] => [(s, 1)]
  | (t, n) :: rest => if t = s then (t, n + 1) :: rest else (t, n) :: tally rest s

/-- How often each status occurs, in the order in which they first do. -/
def totalsOf (verdicts : List Verdict) : List (Status × Int) :=
  verdicts.foldl (fun totals v => tally totals v.status) []

def toJson (r : Report) : Json := .obj [
  ("run_id", .str r.id), ("account_id", .str r.accountId),
  ("evaluated_at", .str r.evaluatedAt.recordText),
  ("findings", .arr (r.findings.map Finding.toJson)),
  ("rules_evaluated", .arr (r.rules.map Rule.toJson)),
  ("totals", .obj (r.totals.map fun (s, n) => (s.text, .int n)))]

/-- The count of one status, by the word for it. -/
def countRecord (word : String) : Record (Status × Int) :=
  let status : Record Status := fun _ =>
    (Record.readField "[key]" (Reader.listed Status.ofText?) (.str word)).mapError
      (·.map (Fault.under (.field word)))
  Prod.mk <$> status <*> .required word Reader.int

def totalsReader : Reader (List (Status × Int)) := fun v => do
  let fields ← Reader.object v
  let counts : Record (List (Status × Int)) :=
    fields.foldr (fun field rest => List.cons <$> countRecord field.1 <*> rest) (pure [])
  counts fields

/-- The fields of a report; `id` and `now` stand in for missing identifiers and times. -/
def schema (id : String) (now : Moment) : Schema Report where
  name := "EvaluationReport"
  record :=
    mk <$> .field "run_id" Reader.string id
      <*> .required "account_id" Reader.string
      <*> .required "evaluated_at" Reader.moment
      <*> .field "findings" (Reader.list (Finding.schema id now).record.reader) []
      <*> .field "rules_evaluated" (Reader.list (Rule.schema id).record.reader) []
      <*> .field "totals" totalsReader []
  toJson := toJson

end Report

namespace Run

/-- The rules of a run: all, or those with a selected identifier. -/
def select (rules : List Rule) (ids : Option (List String)) : List Rule :=
  rules.filter fun r => ids.all (·.contains r.id)

def verdicts {σ : Type} (limits : LiveLimits) (provider : Option (Provider σ)) (inv : Inventory)
    (selected : List Rule) : ExceptT CheckFault (StateM (LivePool σ)) (List Verdict) := do
  let base ← FirstPass.run limits provider inv selected
  let ctx : CompositeContext := ⟨selected, ⟨base⟩⟩
  return base ++ ctx.resolve (selected.filter (·.isComposite))

/-- The report of verdicts, whose findings get fresh identifiers. -/
def report (inv : Inventory) (selected : List Rule) (found : List Verdict) (ids : IdSupply) :
    Report × IdSupply :=
  let (findings, ids') := ids.advance.label (Finding.ofVerdict inv.accountId inv.now) found
  ({ id := ids.peek, accountId := inv.accountId, evaluatedAt := inv.now, findings, rules := selected
     totals := Report.totalsOf found }, ids')

/-- Runs rules over an account. -/
def run {σ : Type} (limits : LiveLimits) (provider : Option (Provider σ)) (inv : Inventory)
    (rules : List Rule) (ruleIds : Option (List String)) (ids : IdSupply) (state : σ) :
    Except CheckFault (Report × IdSupply) × σ :=
  let selected := select rules ruleIds
  let (found, pool) := (verdicts limits provider inv selected).run ⟨state, 0⟩
  (found.map fun vs => report inv selected vs ids, pool.state)

end Run

end CloudAudit
