import CloudAudit.Json.Value
import CloudAudit.Schema.Reader
import CloudAudit.Text.Case
import CloudAudit.Text.Percent

namespace CloudAudit

/-- A request. An empty body is none. -/
structure Request where
  method : String
  path : String
  query : List (String × String) := []
  body : String := ""

namespace Request

/-- A text of a query: a plus stands for a space, and characters may be percent-encoded. -/
def queryText (cs : List Char) : String :=
  let s := String.ofList (cs.map fun c => if c = '+' then ' ' else c)
  (Text.percentDecode? s).getD s

/-- Reads a query: names and values with an equals sign between them, separated by ampersands. A
name may stand alone. -/
def queryOf (cs : List Char) : List (String × String) :=
  ((Text.splitOnChar '&' cs).filter (!·.isEmpty)).map fun item =>
    match Text.cutAt? '=' item with
    | some (name, value) => (queryText name, queryText value)
    | none => (queryText item, "")

/-- The names of a path without those that only lead back: `.` stands for where it is, and `..` for
the name before it. -/
def settle (names : List (List Char)) : List (List Char) :=
  names.foldl (fun settled name =>
    if name = ['.'] then settled
    else if name = ['.', '.'] then settled.dropLast
    else settled ++ [name]) []

/-- The path that a client asks for: it starts at the root, and a host before it is left out. -/
def sentPath (cs : List Char) : String :=
  let path := match cs with
    | '/' :: '/' :: rest => rest.dropWhile (· != '/')
    | cs => cs
  let names := settle (Text.splitOnChar '/' (path.dropWhile (· == '/')))
  "/" ++ "/".intercalate (names.map String.ofList)

/-- The path and the query of an address. What follows a number sign stays with the client. -/
def target (address : String) : String × List (String × String) :=
  let cs := address.toList.takeWhile (· != '#')
  match Text.cutAt? '?' cs with
  | some (path, query) => (sentPath path, queryOf query)
  | none => (sentPath cs, [])

end Request

inductive Body where
  | empty
  | document (doc : Json)
  | faults (faults : List Fault)

structure Response where
  status : Nat
  body : Body

namespace Place

def toJson : Place → Json
  | field name => .str name
  | index i => .int i

end Place

namespace Body

/-- The body as a value; faults are told by their kind and place. -/
def toJson : Body → Json
  | empty => .null
  | document doc => doc
  | faults fs => .arr (fs.map fun f =>
      .obj [("type", .str f.broken.code), ("loc", .arr (f.path.map Place.toJson))])

end Body

namespace Response

def ok (doc : Json) : Response := ⟨200, .document doc⟩

def failure (status : Nat) (detail : String) : Response :=
  ⟨status, .document (.obj [("detail", .str detail)])⟩

def invalid (faults : List Fault) : Response := ⟨422, .faults faults⟩

end Response

inductive Route where
  | health
  | evaluate (accountId : String)
  | findings (accountId : String)
  | summary (accountId : String)
  | scoreHistory (accountId : String)
  | resourceHistory (resourceId : String)
  | accountRules (accountId : String)
  | toggleRule (accountId ruleId : String)
  | applyProfile (accountId profileId : String)
  | acknowledge (findingId : String)
  | unacknowledge (findingId : String)
  | notes (findingId : String)
  | addNote (findingId : String)
  | deleteNote (noteId : String)
  deriving DecidableEq, Repr

namespace Route

def ofSegments : List String → List (String × Route)
  | ["health"] => [("GET", health)]
  | ["compliance", "accounts", a, "evaluate"] => [("POST", evaluate a)]
  | ["compliance", "accounts", a, "findings"] => [("GET", findings a)]
  | ["compliance", "accounts", a, "summary"] => [("GET", summary a)]
  | ["compliance", "accounts", a, "score-history"] => [("GET", scoreHistory a)]
  | ["compliance", "resources", r, "history"] => [("GET", resourceHistory r)]
  | ["compliance", "accounts", a, "rules"] => [("GET", accountRules a)]
  | ["compliance", "accounts", a, "rules", r] => [("PUT", toggleRule a r)]
  | ["compliance", "accounts", a, "profiles", p, "apply"] => [("POST", applyProfile a p)]
  | ["compliance", "findings", f, "acknowledge"] =>
    [("POST", acknowledge f), ("DELETE", unacknowledge f)]
  | ["compliance", "findings", f, "notes"] => [("GET", notes f), ("POST", addNote f)]
  | ["compliance", "notes", n] => [("DELETE", deleteNote n)]
  | _ => []

/-- The routes of a path, by the names between its slashes. An empty name leads nowhere. -/
def ofPath (path : String) : List (String × Route) :=
  match Text.splitOnChar '/' path.toList with
  | [] :: names => if names.any List.isEmpty then [] else ofSegments (names.map String.ofList)
  | _ => []

/-- The path without a line end that closes it. -/
def dropLineEnd (path : String) : String :=
  match path.toList.reverse with
  | '\n' :: cs => String.ofList cs.reverse
  | _ => path

/-- The routes of a path. A line end may follow the path, unless it belongs to a name. -/
def candidates (path : String) : List (String × Route) :=
  match ofPath path with
  | [] => ofPath (dropLineEnd path)
  | routes => routes

inductive Miss where
  | unknownPath
  | wrongMethod
  /-- The path without the slashes at its end has a route. -/
  | endsInSlash
  deriving DecidableEq, Repr

def Miss.response : Miss → Response
  | unknownPath => .failure 404 "Not Found"
  | wrongMethod => .failure 405 "Method Not Allowed"
  | endsInSlash => ⟨307, .empty⟩

def find (method path : String) : Except Miss Route :=
  let decoded := (Text.percentDecode? path).getD path
  match candidates decoded with
  | [] =>
    if decoded.toList.getLast? = some '/' ∧ candidates (Text.dropTrailing '/' decoded) ≠ [] then
      .error .endsInSlash
    else .error .unknownPath
  | routes => (routes.lookup (Text.upper method)).elim (.error .wrongMethod) .ok

end Route

end CloudAudit
