import CloudAudit.Json.Value
import CloudAudit.Number.Text
import CloudAudit.Text.Quoted

namespace CloudAudit.Json

private def unitEscape (n : Nat) : List Char := '\\' :: 'u' :: Text.hexDigits 4 n

def escapeChar (c : Char) : List Char :=
  if c = '"' then ['\\', '"']
  else if c = '\\' then ['\\', '\\']
  else if c = '\n' then ['\\', 'n']
  else if c = '\r' then ['\\', 'r']
  else if c = '\t' then ['\\', 't']
  else if c = '\x08' then ['\\', 'b']
  else if c = '\x0c' then ['\\', 'f']
  else if 0x20 ≤ c.toNat ∧ c.toNat < 0x7F then [c]
  else if c.toNat < 0x10000 then unitEscape c.toNat
  else
    unitEscape (0xD800 + (c.toNat - 0x10000) / 0x400) ++
      unitEscape (0xDC00 + (c.toNat - 0x10000) % 0x400)

def quote (s : String) : String := String.ofList ('"' :: s.toList.flatMap escapeChar ++ ['"'])

/-- A double as a JSON number, with words for what JSON has no numbers for. -/
def writeFloat (x : Float) : String :=
  match Number.Binary.ofFloat x with
  | .nan => "NaN"
  | .infinite negative => if negative then "-Infinity" else "Infinity"
  | .finite .. => Number.plain x

def writeScalar : Json → String
  | .null => "null"
  | .bool b => if b then "true" else "false"
  | .int n => toString n
  | .float x => writeFloat x
  | .str s => quote s
  | .arr _ => "[]"
  | .obj _ => "\x7b\x7d"

mutual

def compact : Json → String
  | .arr items => "[" ++ compactItems items ++ "]"
  | .obj fields => "\x7b" ++ compactFields fields ++ "\x7d"
  | v => writeScalar v

def compactItems : List Json → String
  | [] => ""
  | [v] => compact v
  | v :: rest => compact v ++ ", " ++ compactItems rest

def compactFields : List (String × Json) → String
  | [] => ""
  | [(k, v)] => quote k ++ ": " ++ compact v
  | (k, v) :: rest => quote k ++ ": " ++ compact v ++ ", " ++ compactFields rest

end

private def newline (level : Nat) : String :=
  "\n" ++ String.ofList (List.replicate (2 * level) ' ')

mutual

def indented (level : Nat) : Json → String
  | .arr (v :: rest) =>
    "[" ++ newline (level + 1) ++ indented (level + 1) v ++ indentedItems (level + 1) rest ++
      newline level ++ "]"
  | .obj ((k, v) :: rest) =>
    "\x7b" ++ newline (level + 1) ++ quote k ++ ": " ++ indented (level + 1) v ++
      indentedFields (level + 1) rest ++ newline level ++ "\x7d"
  | v => writeScalar v

/-- The later items of a list, each on its line. -/
def indentedItems (level : Nat) : List Json → String
  | [] => ""
  | v :: rest => "," ++ newline level ++ indented level v ++ indentedItems level rest

/-- The later fields of an object, each on its line. -/
def indentedFields (level : Nat) : List (String × Json) → String
  | [] => ""
  | (k, v) :: rest =>
    "," ++ newline level ++ quote k ++ ": " ++ indented level v ++ indentedFields level rest

end

private def insertField (field : String × Json) : Fields → Fields
  | [] => [field]
  | f :: rest => if field.1 < f.1 then field :: f :: rest else f :: insertField field rest

mutual

/-- The document with the fields of every object in the order of their names. -/
def sortFields : Json → Json
  | .arr items => .arr (sortItems items)
  | .obj fields => .obj (sortObject fields)
  | v => v

private def sortItems : List Json → List Json
  | [] => []
  | v :: rest => sortFields v :: sortItems rest

private def sortObject : List (String × Json) → Fields
  | [] => []
  | (k, v) :: rest => insertField (k, sortFields v) (sortObject rest)

end

end CloudAudit.Json
