import CloudAudit.Provider.Call
import CloudAudit.Provider.Http
import CloudAudit.Text.Blank
import CloudAudit.Text.Percent

namespace CloudAudit

structure ClientConfig where
  baseUrl : String
  token : String
  timeoutSeconds : Float := 15.0
  maxRetries : Int := 3
  pageSize : Int := 500

namespace Client

def query (params : Fields) : String :=
  "&".intercalate (params.map fun (name, v) =>
    Text.queryEncode name ++ "=" ++ Text.queryEncode v.text)

/-- The URL of a path under a base, with a query if there are parameters. -/
def url (base path : String) (params : Fields) : String :=
  let path := if path.toList.head? = some '/' then path else "/" ++ path
  Text.dropTrailing '/' base ++ path ++ (if params.isEmpty then "" else "?" ++ query params)

def retryStatuses : List Int := [429, 500, 502, 503, 504]

def decode (bytes : List UInt8) : Except ProviderFault String :=
  match String.fromUTF8? ⟨bytes.toArray⟩ with
  | some s => .ok s
  | none => .error .unreadableText

/-- The document in a body; an empty body is an empty object. -/
def document (b : Bounds) (body : List UInt8) : Except ProviderFault Json := do
  let s ← decode body
  if s = "" then return .obj []
  else (Json.parse b.nesting s).mapError .unreadableJson

def settle (b : Bounds) : HttpOutcome → Except ProviderFault Json
  | .success body => document b body
  | .refusal status reason body => do
    let text ← decode body
    .error (.refused ⟨status, reason, some text⟩)
  | .truncated _ _ kind message => .error (.broken kind message)
  | .broken kind message =>
    if kind.isConnection then .error (.refused ⟨0, kind.sentence message, none⟩)
    else .error (.broken kind message)

/-- Whether the failure may pass. A refusal whose body is no text, or does not arrive whole, is not
tried again. -/
def isTransient : HttpOutcome → Bool
  | .success _ => false
  | .refusal status _ body => retryStatuses.contains status && (decode body).toBool
  | .truncated .. => false
  | .broken kind _ => kind.isConnection

/-- Sends a request until it ends for good, at most `retries` times more. -/
def attempt (b : Bounds) (service : WebService) (r : HttpRequest) :
    (retries : Nat) → (halfSeconds : Nat) → StateM Wire (Except ProviderFault Json)
  | 0, _ => do return settle b (← Wire.send service r)
  | retries + 1, halfSeconds => do
    let outcome ← Wire.send service r
    if isTransient outcome then
      Wire.pause halfSeconds
      attempt b service r retries (2 * halfSeconds)
    else return settle b outcome

/-- Fetches a document. Nothing is sent to a URL without a scheme. -/
def get (b : Bounds) (service : WebService) (config : ClientConfig) (path : String)
    (params : Fields) : StateM Wire (Except ProviderFault Json) :=
  match Url.normalize (url config.baseUrl path params) with
  | .error message => return .error (.broken .value message)
  | .ok url =>
    attempt b service ⟨url, config.token, config.timeoutSeconds⟩ config.maxRetries.toNat 1

def pageItems (page : Json) : List Json :=
  match page.get? "data" with
  | some (.arr items) => items.filter fun item => item.shape = .obj
  | _ => []

/-- The number of pages that a page reports, if it is a number. -/
def pageCount? (page : Json) : Option Int :=
  match page with
  | .obj fields =>
    match Fields.get? fields "pages" with
    | none => some 1
    | some (.int n) => some n
    | some (.bool b) => some (if b then 1 else 0)
    | some _ => none
  | _ => some 1

def isLastPage (number : Nat) (page : Json) : Bool := (pageCount? page).all (· ≤ (number : Int))

def pageParams (config : ClientConfig) (number : Nat) : Fields :=
  [("page", .int number), ("page_size", .int config.pageSize)]

/-- Reads pages from a number on. A list that has not ended after `budget` pages is still under
way. -/
def getPages (b : Bounds) (service : WebService) (config : ClientConfig) (path : String) :
    (budget number : Nat) → List Json → StateM Wire Reply
  | 0, _, _ => return .pending
  | budget + 1, number, found => do
    match ← get b service config path (pageParams config number) with
    | .error f => return .fault f
    | .ok page =>
      let found := found ++ pageItems page
      if isLastPage number page then return .answer (.arr found)
      else getPages b service config path budget (number + 1) found

/-- Reads all pages of a list, unless the call is cut off before. -/
def getAll (b : Bounds) (service : WebService) (config : ClientConfig) (path : String) :
    StateM Wire Reply :=
  getPages b service config path b.pages 1 []

/-- The path of the access list of a cluster's control plane. -/
def aclPath (cluster : String) : String :=
  "/lke/clusters/" ++ Text.percentEncode cluster ++ "/control_plane_acl"

def call (b : Bounds) (service : WebService) (config : ClientConfig) :
    LiveCall → StateM Wire Reply
  | .users => getAll b service config "/account/users"
  | .logins => getAll b service config "/account/logins"
  | .controlPlaneAcl cluster => return .ofResult (← get b service config (aclPath cluster) [])

def provider (b : Bounds) (service : WebService) (config : ClientConfig) : Provider Wire where
  call := call b service config

end Client

end CloudAudit
