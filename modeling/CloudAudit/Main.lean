import CloudAudit.Catalogue.Entry
import CloudAudit.Command.Reviewing
import CloudAudit.Time.Rfc3339
import Std.Time.DateTime.Timestamp

namespace CloudAudit.Program

open Time (Moment)

def settingNames : List String := [
  "LINODE_API_TOKEN", "LINODE_API_BASE_URL", "LINODE_API_TIMEOUT_SECONDS", "LINODE_API_MAX_RETRIES",
  "LINODE_API_PAGE_SIZE", "COMPLIANCE_LIVE_CHECK_CONCURRENCY",
  "COMPLIANCE_LIVE_CHECK_TIMEOUT_SECONDS", "COMPLIANCE_SNAPSHOT_DIR"]

def environment : IO Environment :=
  settingNames.filterMapM fun name => return (← IO.getEnv name).map (name, ·)

def clock : IO Moment := do
  let nanos := (← Std.Time.Timestamp.now).toNanosecondsSinceUnixEpoch.val
  match Time.Rfc3339.ofMicros (nanos / 1000) with
  | .ok now => return now
  | .error _ => throw (.userError "the clock is outside the calendar")

def freshIds : IO IdSupply := do
  let bytes ← IO.getRandomBytes 16
  return { seed := bytes.toList.foldl (fun n b => n * 256 + b.toNat) 0 }

/-- This program cannot reach the web service, so every request is lost. -/
def unreachable : WebService := fun _ _ => .broken .url "no connection"

def fileState (path : Path) : IO FileState := do
  let file := (← IO.currentDir) / path.text
  if ← file.isDir then return .folder
  else if ← file.pathExists then return .content (← IO.FS.readBinFile file).toList
  else return .missing

def accountFiles (folder : Path) : IO AccountFiles :=
  return {
    resources := ← fileState (folder.child "resources.json")
    account := ← fileState (folder.child "account.json")
    rules := ← fileState (folder.child "rules.json") }

def complain (sentence : String) : IO UInt32 := do
  IO.eprintln sentence
  return 1

def writeFiles (files : ReviewFiles) : IO UInt32 := do
  for (path, text) in files.reports do
    IO.FS.createDirAll path.folder.text
    IO.FS.writeFile path.text text
  IO.FS.writeFile files.path.text files.text
  IO.print (Reviewing.notice files.path)
  return 0

def review (o : ReviewOptions) : IO UInt32 := do
  let current := Path.ofText (← IO.currentDir).toString
  IO.FS.createDirAll (o.outPath current).text
  let now ← clock
  let files ← accountFiles ((o.fixturesPath current).child o.accountId)
  let target ← fileState (o.reviewPath current now).folder
  match Reviewing.run {} o current (fun _ => target = .folder) (← environment) unreachable
      (fun _ => files) now (← freshIds) with
  | .ok files => writeFiles files
  | .error f => if f.isTold then complain f.message else throw (.userError f.message)

def usage : String := "usage: list [options] | review --fixtures-dir DIR --account-id ID [options]"

def exit (e : OptionExit) : IO UInt32 := do
  if e = .help then IO.println usage else IO.eprintln usage
  return e.code.toUInt32

/-- Runs the command that the first word names. -/
def run : List String → IO UInt32
  | "list" :: args =>
    match Listing.output args with
    | .ok text => do IO.print text; return 0
    | .error e => exit e
  | "review" :: args =>
    match ReviewOptions.read args with
    | .ok o => review o
    | .error e => exit e
  | _ => exit .misuse

end CloudAudit.Program

def main (args : List String) : IO UInt32 := CloudAudit.Program.run args
