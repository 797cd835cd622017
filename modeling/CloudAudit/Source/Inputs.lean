import CloudAudit.Files.Path
import CloudAudit.Model.Id
import CloudAudit.Model.Resource
import CloudAudit.Model.Rule
import CloudAudit.Provider.Call
import CloudAudit.Text.Case

namespace CloudAudit

/-- The inputs of a run. Only a token that counts as something lets live checks ask the provider. -/
structure Inputs where
  accountId : String
  resources : List Resource := []
  token : Json := .null
  extraRules : List Rule := []

namespace Inputs

def toJson (i : Inputs) : Json := .obj [
  ("account_id", .str i.accountId), ("resources", .arr (i.resources.map Resource.toJson)),
  ("api_token", i.token), ("extra_rules", .arr (i.extraRules.map Rule.toJson))]

end Inputs

inductive LoadFault where
  | noInventory (accountId : String)
  | missingFile (path : Path)
  | isFolder (path : Path)
  | unreadableText
  | unreadableJson (fault : Json.ParseFault)
  | notList (path : Path) (what : String)
  | rejected (r : Rejection)
  | notMapping (shape : Shape)
  deriving DecidableEq, Repr

def LoadFault.message : LoadFault → String
  | noInventory accountId => "No inventory for account '" ++ accountId ++ "'"
  | missingFile path => "Missing inventory fixture: " ++ path.text
  | isFolder path => "[Errno 21] Is a directory: " ++ Text.quoted path.text
  | unreadableText => ProviderFault.unreadableText.message
  | unreadableJson f => f.message
  | notList path what => path.text ++ " must contain a list of " ++ what
  | rejected r => r.message
  | notMapping shape => (DataFault.notMapping shape).message

inductive FileState where
  | missing
  | folder
  | content (bytes : List UInt8)
  deriving DecidableEq, Repr

/-- The files of an account: its resources, its token, and its rules. -/
structure AccountFiles where
  resources : FileState := .missing
  account : FileState := .missing
  rules : FileState := .missing

abbrev Load (α : Type) := ExceptT LoadFault (StateM IdSupply) α

abbrev InventorySource := String → Load Inputs

namespace AccountFiles

def document? (b : Bounds) (path : Path) : FileState → Except LoadFault (Option Json)
  | .missing => .ok none
  | .folder => .error (.isFolder path)
  | .content bytes =>
    match String.fromUTF8? ⟨bytes.toArray⟩ with
    | none => .error .unreadableText
    | some s =>
      match Json.parse b.nesting s with
      | .ok v => .ok (some v)
      | .error f => .error (.unreadableJson f)

/-- The resources of a document: a list, or an object that holds the list. -/
def resourcesOf (path : Path) (doc : Json) : Except LoadFault (List Resource) :=
  let found := match doc with
    | .obj fields => (Fields.get? fields "resources").getD (.arr [])
    | v => v
  match found with
  | .arr items => items.mapM fun item => (Resource.schema.read item).mapError .rejected
  | _ => .error (.notList path "resources")

def tokenOf (doc : Json) : Json := ((doc.get? "api_token").getD .null).orElse .null

/-- Reads a rule. Unless it says otherwise it belongs to the account. -/
def ruleOf (accountId : String) : Json → Load Rule
  | .obj fields => do
    let owned := if (Fields.get? fields "account_id").isSome then fields
      else ("account_id", .str accountId) :: fields
    let ids ← get
    set ids.advance
    (((Rule.schema ids.peek).read (.obj owned)).mapError .rejected : Except LoadFault Rule)
  | v => throw (.notMapping v.shape)

def rulesOf (path : Path) (accountId : String) : Json → Load (List Rule)
  | .arr items => items.mapM (ruleOf accountId)
  | _ => throw (.notList path "rules")

/-- Loads the inputs of an account from the files in its folder. -/
def load (b : Bounds) (files : AccountFiles) (folder : Path) (accountId : String) :
    Load Inputs := do
  let resourcesPath := folder.child "resources.json"
  match ← (document? b resourcesPath files.resources : Except LoadFault (Option Json)) with
  | none => throw (.missingFile resourcesPath)
  | some doc =>
    let resources ← (resourcesOf resourcesPath doc : Except LoadFault (List Resource))
    let account ← (document? b (folder.child "account.json") files.account :
      Except LoadFault (Option Json))
    let rulesPath := folder.child "rules.json"
    let rules ← (document? b rulesPath files.rules : Except LoadFault (Option Json))
    let extraRules ← rules.elim (pure []) (rulesOf rulesPath accountId)
    return { accountId, resources, token := account.elim .null tokenOf, extraRules }

end AccountFiles

/-- The source that reads every account's folder under a root. -/
def InventorySource.ofFiles (b : Bounds) (root : Path) (files : Path → AccountFiles) :
    InventorySource := fun accountId =>
  let folder := root.child accountId
  (files folder).load b folder accountId

structure InventoryTable where
  resources : List (String × List Resource) := []
  tokens : List (String × Json) := []
  extraRules : List (String × List Rule) := []

namespace InventoryTable

def source (t : InventoryTable) : InventorySource := fun accountId =>
  match t.resources.lookup accountId with
  | none => throw (.noInventory accountId)
  | some resources => return {
      accountId, resources
      token := (t.tokens.lookup accountId).getD .null
      extraRules := (t.extraRules.lookup accountId).getD [] }

end InventoryTable

/-- Whether a name stands for the source that reads files; no name does, too. -/
def isFileSourceName (name : String) : Bool :=
  let word := Text.lower (Text.trim name)
  word == "fixtures" || word == ""

/-- The sentence for a name that stands for no source. -/
def unknownSourceMessage (name : String) : String :=
  "Unknown inventory source '" ++ name ++ "' (expected 'fixtures')."

end CloudAudit
