namespace CloudAudit

inductive Json where
  | null
  | bool (b : Bool)
  | int (n : Int)
  | float (x : Float)
  | str (s : String)
  | arr (items : List Json)
  | obj (fields : List (String × Json))
  deriving Inhabited

abbrev Fields := List (String × Json)

def Fields.get? (fields : Fields) (name : String) : Option Json := fields.lookup name

/-- Sets a field: a known name keeps its place, a new one comes last. -/
def Fields.put (fields : Fields) (name : String) (value : Json) : Fields :=
  match fields with
  | [] => [(name, value)]
  | (n, v) :: rest => if n = name then (n, value) :: rest else (n, v) :: Fields.put rest name value

/-- The value of a field, `null` standing in for a missing one. -/
def Fields.getD (fields : Fields) (name : String) : Json := (fields.get? name).getD .null

namespace Json

def get? : Json → String → Option Json
  | .obj fields, name => Fields.get? fields name
  | _, _ => none

def ofOption (s : Option String) : Json := s.elim .null .str

def isNull : Json → Bool
  | .null => true
  | _ => false

def isText (v : Json) (s : String) : Bool :=
  match v with
  | .str t => t == s
  | _ => false

end Json

end CloudAudit
