import CloudAudit.Text.Numeral

namespace CloudAudit

/-- An option: its name with both dashes, and what values it takes. -/
structure OptionSpec where
  name : String
  takesValue : Bool := true
  /-- The values to choose from; no list admits any value. -/
  choices : List String := []
  isRequired : Bool := false
  deriving DecidableEq, Repr

inductive OptionExit where
  | help
  | misuse
  deriving DecidableEq, Repr

namespace OptionExit

def code : OptionExit → Nat
  | help => 0
  | misuse => 2

end OptionExit

namespace Options

inductive Word where
  /-- A value, or a word with no place. -/
  | plain (s : String)
  /-- A known option, perhaps with a value after an equals sign. -/
  | known (spec : OptionSpec) (value : Option String)
  | unknown
  deriving DecidableEq, Repr

def helpSpec : OptionSpec := { name := "--help", takesValue := false }

/-- Whether a text is a negative number, which is no option. -/
def isNegativeNumber : List Char → Bool
  | '-' :: cs =>
    match cs.dropWhile Text.isDecimalDigit with
    | [] => !cs.isEmpty
    | '.' :: rest => !rest.isEmpty && rest.all Text.isDecimalDigit
    | _ => false
  | _ => false

def candidates (specs : List OptionSpec) (name : String) : List OptionSpec :=
  specs.filter fun spec => name.toList.isPrefixOf spec.name.toList

/-- The meaning of a word that starts with a dash and is longer than it. -/
def dashed (specs : List OptionSpec) (s : String) : Except OptionExit Word :=
  let (name, value) := match Text.cutAt? '=' s.toList with
    | some (before, after) => (String.ofList before, some (String.ofList after))
    | none => (s, none)
  match specs.find? (·.name == s), specs.find? (·.name == name) with
  | some spec, _ => .ok (.known spec none)
  | none, some spec => .ok (.known spec value)
  | none, none =>
    match if ['-', '-'].isPrefixOf s.toList then candidates specs name else [] with
    | [spec] => .ok (.known spec value)
    | [] => .ok (if isNegativeNumber s.toList || s.contains ' ' then .plain s else .unknown)
    | _ => .error .misuse

def shortHelp (cs : List Char) : Word :=
  match cs.dropWhile (· == 'h') with
  | '=' :: _ | '-' :: _ => .known helpSpec (some "")
  | _ => .known helpSpec none

def word (specs : List OptionSpec) (s : String) : Except OptionExit Word :=
  match s.toList with
  | '-' :: 'h' :: cs => .ok (shortHelp cs)
  | '-' :: _ :: _ => dashed (helpSpec :: specs) s
  | _ => .ok (.plain s)

/-- The meanings of the words; after two dashes all words are plain. -/
def words (specs : List OptionSpec) : List String → Except OptionExit (List Word)
  | [] => .ok []
  | "--" :: rest => .ok (.unknown :: rest.map .plain)
  | s :: rest => do return (← word specs s) :: (← words specs rest)

def checked (spec : OptionSpec) (value : String) : Except OptionExit (String × String) :=
  if spec.choices.isEmpty || spec.choices.contains value then .ok (spec.name, value)
  else .error .misuse

/-- Gathers the options in order, and whether some word had no place. -/
def gather : List Word → Except OptionExit (List (String × String) × Bool)
  | [] => .ok ([], false)
  | .known spec value :: rest =>
    if spec = helpSpec then
      if value.isSome then .error .misuse else .error .help
    else if spec.takesValue then
      match value, rest with
      | some v, rest => do
        let o ← checked spec v
        let (os, stray) ← gather rest
        return (o :: os, stray)
      | none, .plain v :: rest => do
        let o ← checked spec v
        let (os, stray) ← gather rest
        return (o :: os, stray)
      | none, _ => .error .misuse
    else if value.isSome then .error .misuse
    else do
      let (os, stray) ← gather rest
      return ((spec.name, "") :: os, stray)
  | _ :: rest => do return ((← gather rest).1, true)

/-- Reads a command line. Of two values for one option the later counts. -/
def read (specs : List OptionSpec) (args : List String) :
    Except OptionExit (List (String × String)) := do
  let (os, stray) ← gather (← words specs args)
  if stray || specs.any fun spec => spec.isRequired && (os.lookup spec.name).isNone then
    .error .misuse
  else return os.reverse

end Options

end CloudAudit
