import CloudAudit.Files.Path
import CloudAudit.Json.Loose
import CloudAudit.Provider.Client

namespace CloudAudit

abbrev Environment := List (String × String)

inductive SettingFault where
  | missing (name : String)
  | notNumber (name value : String)
  | notPositive (name : String)
  | undefinedNumber
  | infiniteNumber
  | tokenNotText (shape : Shape)
  deriving DecidableEq, Repr

def SettingFault.message : SettingFault → String
  | missing name => "Missing required environment variable: " ++ name
  | notNumber name value => name ++ " must be a number, got " ++ Text.quoted value
  | notPositive name => name ++ " must be > 0"
  | undefinedNumber => DataFault.undefinedNumber.message
  | infiniteNumber => DataFault.infiniteNumber.message
  | tokenNotText shape => "'" ++ shape.text ++ "' object has no attribute 'strip'"

namespace Environment

/-- The value of a variable without blanks around it; a missing one is empty. -/
def value (env : Environment) (name : String) (default : String := "") : String :=
  Text.trim ((env.lookup name).getD default)

def positive (env : Environment) (name : String) (default : Float) : Except SettingFault Float :=
  let raw := env.value name
  if raw = "" then .ok default
  else
    match Number.ofText? raw.toList with
    | none => .error (.notNumber name raw)
    | some x => if x ≤ 0.0 then .error (.notPositive name) else .ok x

def wholePart (x : Float) : Except SettingFault Int :=
  match Number.Binary.ofFloat x with
  | .nan => .error .undefinedNumber
  | .infinite _ => .error .infiniteNumber
  | .finite .. => .ok ((Number.truncate? x).getD 0)

def required (env : Environment) (name : String) : Except SettingFault String :=
  let v := env.value name
  if v = "" then .error (.missing name) else .ok v

/-- The token to use: the one given if it is not blank, otherwise that of the environment. -/
def token (env : Environment) (given : Json) : Except SettingFault String :=
  match given.orElse (.str "") with
  | .str s => if Text.trim s = "" then env.required "LINODE_API_TOKEN" else .ok (Text.trim s)
  | v => .error (.tokenNotText v.shape)

end Environment

/-- The web service's address unless the environment gives another. -/
def defaultBaseUrl : String := "https://api.linode.com/v4"

def ClientConfig.ofEnvironment (env : Environment) (token : Json) :
    Except SettingFault ClientConfig := do
  let token ← env.token token
  let timeoutSeconds ← env.positive "LINODE_API_TIMEOUT_SECONDS" 15.0
  let maxRetries ← Environment.wholePart (← env.positive "LINODE_API_MAX_RETRIES" 3.0)
  let pageSize ← Environment.wholePart (← env.positive "LINODE_API_PAGE_SIZE" 500.0)
  return {
    baseUrl := Text.dropTrailing '/' (env.value "LINODE_API_BASE_URL" defaultBaseUrl)
    token, timeoutSeconds, maxRetries, pageSize }

/-- How the runs of a service are bounded, and where it keeps their reports. -/
structure EvaluationSettings where
  workers : Int := 4
  timeoutSeconds : Float := 30.0
  snapshotFolder : Option Path := none

def EvaluationSettings.ofEnvironment (env : Environment) :
    Except SettingFault EvaluationSettings := do
  let workers ← env.positive "COMPLIANCE_LIVE_CHECK_CONCURRENCY" 4.0
  let timeoutSeconds ← env.positive "COMPLIANCE_LIVE_CHECK_TIMEOUT_SECONDS" 30.0
  let folder := env.value "COMPLIANCE_SNAPSHOT_DIR"
  return {
    workers := ← Environment.wholePart workers
    timeoutSeconds
    snapshotFolder := if folder = "" then none else some (Path.ofText folder) }

end CloudAudit
