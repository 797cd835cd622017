import CloudAudit.Command.Options
import CloudAudit.Json.Printer
import CloudAudit.Review.Document
import CloudAudit.Service.Defaults

namespace CloudAudit

open Time (Moment)

inductive ReviewFault where
  | options (exit : OptionExit)
  | unknownProfile (name : String)
  | input (fault : InputFault)
  | run (fault : RunFault)
  /-- The store knows of no run of the account. -/
  | noScore (accountId : String)
  | noFolder (path : Path)

namespace ReviewFault

def message : ReviewFault → String
  | options exit => toString exit.code
  | unknownProfile name => "Unknown profile '" ++ name ++ "'."
  | input f => f.message
  | run f => f.message
  | noScore accountId => "No run of account '" ++ accountId ++ "' is recorded"
  | noFolder path => "[Errno 2] No such file or directory: " ++ Text.quoted path.text

/-- Whether the command ends with the sentence; any other fault ends it as it is. -/
def isTold : ReviewFault → Bool
  | options _ | unknownProfile _ | run (.inputs ..) => true
  | _ => false

end ReviewFault

structure ReviewOptions where
  fixturesFolder : String
  accountId : String
  outFolder : String := ""
  asJson : Bool := false
  profile : String := ""

namespace ReviewOptions

def specs : List OptionSpec := [
  { name := "--fixtures-dir", isRequired := true },
  { name := "--account-id", isRequired := true },
  { name := "--out-dir" },
  { name := "--format", choices := ["markdown", "json"] },
  { name := "--profile" },
  { name := "--verbose", takesValue := false }]

def read (args : List String) : Except OptionExit ReviewOptions := do
  let options ← Options.read specs args
  let value (name : String) : String := (options.lookup name).getD ""
  return {
    fixturesFolder := value "--fixtures-dir"
    accountId := value "--account-id"
    outFolder := value "--out-dir"
    asJson := value "--format" == "json"
    profile := value "--profile" }

/-- The folder with the accounts, seen from the current folder. -/
def fixturesPath (o : ReviewOptions) (current : Path) : Path :=
  (current.child o.fixturesFolder).resolved

/-- The folder for the review, seen from the current folder. -/
def outPath (o : ReviewOptions) (current : Path) : Path := (current.child o.outFolder).resolved

def reviewPath (o : ReviewOptions) (current : Path) (at_ : Moment) : Path :=
  (o.outPath current).child
    ("compliance_" ++ o.accountId ++ "_" ++ at_.stampText ++ if o.asJson then ".json" else ".md")

end ReviewOptions

/-- What the command writes: the review, and the reports that the settings ask for. -/
structure ReviewFiles where
  path : Path
  text : String
  reports : List (Path × String) := []

namespace Reviewing

/-- Applies a built-in profile, named by its slug or its identifier; no name applies none. -/
def applyProfile (store : Store) (accountId name : String) (now : Moment) :
    Except ReviewFault Store :=
  if name = "" then .ok store
  else
    match store.profiles.find? fun p => p.slug == name || p.id == name with
    | none => .error (.unknownProfile name)
    | some p =>
      ((store.applyProfile accountId p.id now).mapError fun f => .input (.store f)).map (·.2)

/-- The store before the run: the built-in rules, those of the account, and the profile applied. -/
def prepare (b : Bounds) (inventory : InventorySource) (accountId profile : String) (now : Moment)
    (s : Service Wire) : Except ReviewFault (Service Wire) := do
  match (inventory accountId).run s.ids with
  | (.error f, _) => .error (.input (.load f))
  | (.ok inputs, ids) =>
    match s.store.fileRules b.copying accountId inputs.extraRules with
    | (.error f, _) => .error (.input (.store f))
    | (.ok (), store) =>
      return { s with ids, store := ← applyProfile store accountId profile now }

/-- Evaluates an account, and gathers its review and the reports that were kept. -/
def review (b : Bounds) (env : Environment) (web : WebService) (inventory : InventorySource)
    (accountId profile : String) (now : Moment) (ids : IdSupply) :
    Except ReviewFault (Review × List (Path × Json)) := do
  let s ← prepare b inventory accountId profile now (.builtin ids {})
  let p ← (Pipeline.ofEnvironment b env inventory web).mapError fun f => .input (.settings f)
  match s.evaluate p accountId now with
  | (.error f, _) => .error (.run f)
  | (.ok summary, s) =>
    let scores ← (s.store.scoreHistory accountId 1).mapError fun f => .input (.store f)
    match scores.getLast? with
    | none => .error (.noScore accountId)
    | some score =>
      return (⟨summary, score, s.store.findingsOf accountId, s.store.effectiveRules accountId⟩,
        s.snapshots)

def run (b : Bounds) (o : ReviewOptions) (current : Path) (folderExists : Path → Bool)
    (env : Environment) (web : WebService) (files : Path → AccountFiles) (now : Moment)
    (ids : IdSupply) : Except ReviewFault ReviewFiles := do
  let inventory := InventorySource.ofFiles b (o.fixturesPath current) files
  let (r, reports) ← review b env web inventory o.accountId o.profile now ids
  let path := o.reviewPath current r.summary.evaluatedAt
  if folderExists path.folder then
    return {
      path, text := if o.asJson then r.toJson.indented 0 else r.markdown
      reports := reports.map fun (at_, doc) => (current.join at_, doc.indented 0) }
  else .error (.noFolder path)

def notice (path : Path) : String := "Wrote " ++ path.text ++ "\n"

end Reviewing

end CloudAudit
