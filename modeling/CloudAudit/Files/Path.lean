import CloudAudit.Text.Blank

namespace CloudAudit

/-- A path. The root of an absolute path is one slash, or two if the text began with exactly two. -/
structure Path where
  root : String := ""
  names : List String := []
  deriving DecidableEq, Repr

namespace Path

def rootOf : List Char → String
  | '/' :: '/' :: '/' :: _ => "/"
  | '/' :: '/' :: _ => "//"
  | '/' :: _ => "/"
  | _ => ""

def ofText (s : String) : Path where
  root := rootOf s.toList
  names := ((Text.splitOnChar '/' s.toList).map String.ofList).filter fun name =>
    name != "" && name != "."

def text (p : Path) : String :=
  if p.root = "" ∧ p.names = [] then "." else p.root ++ "/".intercalate p.names

/-- A path seen from a folder; an absolute one does not depend on the folder. -/
def join (folder p : Path) : Path :=
  if p.root = "" then { folder with names := folder.names ++ p.names } else p

def child (folder : Path) (s : String) : Path := folder.join (ofText s)

/-- One step of resolving: `..` leads back to the folder above. -/
def step (names : List String) (name : String) : List String :=
  if name = ".." then names.dropLast else names ++ [name]

/-- The path without `..`, for an absolute path. -/
def resolved (p : Path) : Path := ⟨"/", p.names.foldl step []⟩

def folder (p : Path) : Path := { p with names := p.names.dropLast }

def inside? (folder p : Path) : Option (List String) :=
  if folder.root = p.root ∧ folder.names.isPrefixOf p.names then
    some (p.names.drop folder.names.length)
  else none

end Path

end CloudAudit
