import CloudAudit.Json.Value
import CloudAudit.Number.Text
import CloudAudit.Text.Numeral

namespace CloudAudit.Yaml

def width : Nat := 80

def margin (indent : Nat) : String := String.ofList (List.replicate indent ' ')

/-- Writes a text from a column on, breaking lines at single spaces. -/
def fold (indent : Nat) : (afterSpace : Bool) → (column : Nat) → List Char → List Char
  | _, _, [] => []
  | afterSpace, column, ' ' :: c :: cs =>
    if !afterSpace && c != ' ' && width < column then
      '\n' :: List.replicate indent ' ' ++ fold indent false indent (c :: cs)
    else ' ' :: fold indent true (column + 1) (c :: cs)
  | _, column, c :: cs => c :: fold indent false (column + 1) cs

/-- Characters that a text without quotes may not start with. -/
def isIndicator (c : Char) : Bool := "#,[]\x7b\x7d&*!|>'\"%@\x60".toList.contains c

/-- Whether a text holds a mark that would end it: a colon before a space or at the end, or a number
sign after a space. -/
def holdsMark : List Char → Bool
  | [] => false
  | [':'] => true
  | ':' :: ' ' :: _ => true
  | ' ' :: '#' :: _ => true
  | _ :: cs => holdsMark cs

def startsWithMark : List Char → Bool
  | [] => true
  | [c] => isIndicator c || c == '-' || c == '?' || c == ':'
  | c :: d :: cs =>
    isIndicator c || ((c == '-' || c == '?' || c == ':') && d == ' ') ||
      ['-', '-', '-'].isPrefixOf (c :: d :: cs) || ['.', '.', '.'].isPrefixOf (c :: d :: cs)

def reservedWords : List String := [
  "~", "null", "Null", "NULL", "true", "True", "TRUE", "false", "False", "FALSE", "yes", "Yes",
  "YES", "no", "No", "NO", "on", "On", "ON", "off", "Off", "OFF", "<<", "=", ".inf", ".Inf", ".INF",
  ".nan", ".NaN", ".NAN"]

/-- Whether a text without quotes would be read as something else than a text. -/
def readsAsOther (s : String) : Bool :=
  reservedWords.contains s || (Text.readDecimal? s.toList).isSome

def isPlain (s : String) : Bool :=
  let cs := s.toList
  !startsWithMark cs && !holdsMark cs && cs.head? != some ' ' && cs.getLast? != some ' ' &&
    !readsAsOther s

def text (indent column : Nat) (s : String) : String :=
  if isPlain s then String.ofList (fold indent false column s.toList)
  else
    let doubled := s.toList.flatMap fun c => if c = '\'' then ['\'', '\''] else [c]
    "'" ++ String.ofList (fold indent false (column + 1) doubled) ++ "'"

def scalar (indent column : Nat) : Json → String
  | .null => "null"
  | .bool b => if b then "true" else "false"
  | .int n => toString n
  | .float x => Number.plain x
  | .str s => text indent column s
  | .arr _ => "[]"
  | .obj _ => "\x7b\x7d"

mutual

def item (indent : Nat) : Json → String
  | .obj ((k, v) :: fields) =>
    " " ++ k ++ ":" ++ value (indent + 2) (indent + k.length + 4) v ++
      moreFields (indent + 2) fields
  | .arr (v :: rest) => " -" ++ item (indent + 2) v ++ moreItems (indent + 2) rest
  | v => " " ++ scalar (indent + 2) (indent + 2) v ++ "\n"

/-- A value after the name of a field at a margin, from a column on. -/
def value (indent column : Nat) : Json → String
  | .obj ((k, v) :: fields) =>
    "\n" ++ margin (indent + 2) ++ k ++ ":" ++ value (indent + 2) (indent + k.length + 4) v ++
      moreFields (indent + 2) fields
  | .arr (v :: rest) => "\n" ++ margin indent ++ "-" ++ item indent v ++ moreItems indent rest
  | v => " " ++ scalar (indent + 2) column v ++ "\n"

def moreItems (indent : Nat) : List Json → String
  | [] => ""
  | v :: rest => margin indent ++ "-" ++ item indent v ++ moreItems indent rest

def moreFields (indent : Nat) : List (String × Json) → String
  | [] => ""
  | (k, v) :: rest =>
    margin indent ++ k ++ ":" ++ value indent (indent + k.length + 2) v ++ moreFields indent rest

end

def document (items : List Json) : String := if items.isEmpty then "[]\n" else moreItems 0 items

end CloudAudit.Yaml
