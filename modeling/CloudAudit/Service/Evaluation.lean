import CloudAudit.Model.Ledger
import CloudAudit.Run.Report
import CloudAudit.Settings.Environment
import CloudAudit.Source.Inputs
import CloudAudit.Store.AccountRules

namespace CloudAudit

open Time (Moment)

inductive InputFault where
  | load (fault : LoadFault)
  | store (fault : StoreFault)
  | settings (fault : SettingFault)
  | provider (fault : ProviderFault)

namespace InputFault

def message : InputFault → String
  | load f => f.message
  | store f => f.message
  | settings f => f.message
  | provider f => f.message

/-- Whether the fault is reported as one of loading; any other ends the run as it is. -/
def isReported : InputFault → Bool
  | load (.notMapping _) | load (.unreadableJson (.nestedTooDeep _)) => false
  | store .nestedTooDeep => false
  | settings .infiniteNumber | settings (.tokenNotText _) => false
  | provider (.broken kind _) =>
    match kind with
    | .runtime | .type | .lookup | .incompleteRead | .badStatusLine | .other _ => false
    | _ => true
  | provider (.refused _) => false
  | _ => true

end InputFault

inductive RunFault where
  | alreadyRunning (accountId : String)
  | inputs (accountId : String) (cause : InputFault)
  | unreported (cause : InputFault)
  | check (fault : CheckFault)
  | snapshotTime

def RunFault.message : RunFault → String
  | alreadyRunning accountId => "An evaluation is already running for account '" ++ accountId ++ "'"
  | inputs accountId cause =>
    "Could not load evaluation inputs for account '" ++ accountId ++ "': " ++ cause.message
  | unreported cause => cause.message
  | check f => f.message
  | snapshotTime => "date value out of range"

structure Summary where
  accountId : String
  evaluatedAt : Moment
  evaluated : Int
  compliant : Int
  nonCompliant : Int
  notApplicable : Int
  acknowledged : Int
  score : Option Float
  rulesEvaluated : Int

namespace Summary

def toJson (s : Summary) : Json := .obj [
  ("account_id", .str s.accountId), ("evaluated_at", .str s.evaluatedAt.recordText),
  ("evaluated", .int s.evaluated), ("compliant", .int s.compliant),
  ("non_compliant", .int s.nonCompliant), ("not_applicable", .int s.notApplicable),
  ("acknowledged", .int s.acknowledged), ("compliance_score", s.score.elim .null .float),
  ("rules_evaluated", .int s.rulesEvaluated)]

/-- The summary of a run, from its findings and its entry in the history. -/
def ofRun (findings : List Finding) (e : ScoreEntry) : Summary where
  accountId := e.accountId
  evaluatedAt := e.evaluatedAt
  evaluated := findings.length
  compliant := e.compliantCount
  nonCompliant := e.nonCompliantCount
  notApplicable := e.notApplicableCount
  acknowledged := e.acknowledgedCount
  score := e.score
  rulesEvaluated := e.totalRules

end Summary

/-- How a service loads and runs. A factory makes a provider from a token, or none where live checks
cannot be made; it may change what is outside. -/
structure Pipeline (σ : Type) where
  inventory : InventorySource
  bounds : Bounds := {}
  limits : LiveLimits := {}
  factory : Json → σ → Except InputFault (Option (Provider σ)) × σ
  snapshotFolder : Option Path := none

/-- A service: the store, the accounts that are being evaluated, fresh identifiers, the reports that
were kept, and the state of what is outside. -/
structure Service (σ : Type) where
  store : Store := {}
  held : List String := []
  ids : IdSupply := {}
  snapshots : List (Path × Json) := []
  outside : σ

/-- The folder name of a run: its time by the clock of universal time. A time without an offset is
taken to be universal. -/
def runFolder? (m : Moment) : Option String := m.assumeUniversal.toUniversal?.map Moment.stampText

structure RunInputs (σ : Type) where
  resources : List Resource
  rules : List Rule
  provider : Option (Provider σ)

namespace Service

variable {σ : Type}

def isHeld (s : Service σ) (accountId : String) : Bool := s.held.contains accountId

def hold (s : Service σ) (accountId : String) : Service σ := { s with held := accountId :: s.held }

def release (s : Service σ) (accountId : String) : Service σ :=
  { s with held := s.held.erase accountId }

/-- The provider for a token, if the token counts as something. -/
def providerFor (p : Pipeline σ) (token : Json) (s : Service σ) :
    Except InputFault (Option (Provider σ)) × Service σ :=
  if token.truthy then
    let (provider, outside) := p.factory token s.outside
    (provider, { s with outside })
  else (.ok none, s)

/-- Loads the inputs of an account, registers the rules they bring along, and picks the rules that
are active. -/
def gather (p : Pipeline σ) (accountId : String) (s : Service σ) :
    Except InputFault (RunInputs σ) × Service σ :=
  match (p.inventory accountId).run s.ids with
  | (.error f, ids) => (.error (.load f), { s with ids })
  | (.ok inputs, ids) =>
    match s.store.fileRules p.bounds.copying accountId inputs.extraRules with
    | (.error f, store) => (.error (.store f), { s with ids, store })
    | (.ok (), store) =>
      let (provider, s) := providerFor p inputs.token { s with ids, store }
      (provider.map (⟨inputs.resources, store.effectiveRules accountId, ·⟩), s)

def record (report : Report) (s : Service σ) : List Finding × ScoreEntry × Service σ :=
  let findings := (Ledger.capture (s.store.findingsOf report.accountId)).restamp report.findings
  let e := ScoreEntry.ofFindings s.ids.peek findings report.rules report.accountId
    report.evaluatedAt
  let (entries, ids) := ResourceEntry.ofFindings findings report.rules report.accountId
    report.evaluatedAt s.ids.advance
  let store := (((s.store.replaceFindings report.accountId findings).putLastRun report.accountId
    report.evaluatedAt).appendScore e).appendResourceEntries entries
  (findings, e, { s with store, ids })

def keep (p : Pipeline σ) (report : Report) (s : Service σ) : Except RunFault Unit × Service σ :=
  match p.snapshotFolder with
  | none => (.ok (), s)
  | some root =>
    match runFolder? report.evaluatedAt with
    | none => (.error .snapshotTime, s)
    | some name =>
      let path := ((root.child report.accountId).child name).child "evaluation_report.json"
      (.ok (), { s with snapshots := Table.upsert Prod.fst (path, report.toJson) s.snapshots })

def evaluateHeld (p : Pipeline σ) (accountId : String) (now : Moment) (s : Service σ) :
    Except RunFault Summary × Service σ :=
  match gather p accountId s with
  | (.error f, s) =>
    (.error (if f.isReported then .inputs accountId f else .unreported f), s)
  | (.ok run, s) =>
    match Run.run p.limits run.provider ⟨accountId, run.resources, now⟩ run.rules none s.ids
        s.outside with
    | (.error f, outside) => (.error (.check f), { s with outside })
    | (.ok (report, ids), outside) =>
      let (findings, e, s) := record report { s with ids, outside }
      match keep p { report with findings } s with
      | (.error f, s) => (.error f, s)
      | (.ok (), s) => (.ok (.ofRun findings e), s)

/-- Evaluates an account unless that is under way already. -/
def evaluate (p : Pipeline σ) (accountId : String) (now : Moment) (s : Service σ) :
    Except RunFault Summary × Service σ :=
  if s.isHeld accountId then (.error (.alreadyRunning accountId), s)
  else
    let (result, s) := evaluateHeld p accountId now (s.hold accountId)
    (result, s.release accountId)

end Service

end CloudAudit
