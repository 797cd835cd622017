import CloudAudit.Json.Value
import CloudAudit.Number.Text
import CloudAudit.Text.Numeral
import CloudAudit.Text.Quoted

namespace CloudAudit

namespace Json

mutual

/-- The value as it stands inside a list or an object. -/
def inner : Json → String
  | .null => "None"
  | .bool b => if b then "True" else "False"
  | .int n => toString n
  | .float x => Number.plain x
  | .str s => Text.quoted s
  | .arr items => "[" ++ innerItems items ++ "]"
  | .obj fields => "\x7b" ++ innerFields fields ++ "\x7d"

def innerItems : List Json → String
  | [] => ""
  | [v] => inner v
  | v :: rest => inner v ++ ", " ++ innerItems rest

def innerFields : List (String × Json) → String
  | [] => ""
  | [(k, v)] => Text.quoted k ++ ": " ++ inner v
  | (k, v) :: rest => Text.quoted k ++ ": " ++ inner v ++ ", " ++ innerFields rest

end

def text : Json → String
  | .str s => s
  | v => inner v

end Json

inductive Shape where
  | null
  | bool
  | int
  | float
  | str
  | arr
  | obj
  deriving DecidableEq, Repr

def Shape.text : Shape → String
  | null => "NoneType"
  | bool => "bool"
  | int => "int"
  | float => "float"
  | str => "str"
  | arr => "list"
  | obj => "dict"

/-- A value of a shape that an operation has no use for, or a number out of reach. -/
inductive DataFault where
  | notIterable (shape : Shape)
  | notSpreadable (shape : Shape)
  | notSized (shape : Shape)
  | notHashable (shape : Shape)
  | notIndexable (shape : Shape)
  | notMapping (shape : Shape)
  | notNumber (shape : Shape)
  | notNumeral (text : String)
  | numeralTooLong (digits : Nat)
  | infiniteNumber
  | undefinedNumber
  | notJoinable (index : Nat) (shape : Shape)
  | mixedOffsets
  deriving DecidableEq, Repr

def DataFault.message : DataFault → String
  | notIterable s => "'" ++ s.text ++ "' object is not iterable"
  | notSpreadable s => "Value after * must be an iterable, not " ++ s.text
  | notSized s => "object of type '" ++ s.text ++ "' has no len()"
  | notHashable s => "unhashable type: '" ++ s.text ++ "'"
  | notIndexable s => "'" ++ s.text ++ "' object has no attribute 'get'"
  | notMapping s => "'" ++ s.text ++ "' object is not a mapping"
  | notNumber s =>
    "int() argument must be a string, a bytes-like object or a real number, not '" ++ s.text ++ "'"
  | notNumeral t =>
    "invalid literal for int() with base 10: " ++ String.ofList ((Text.quoted t).toList.take 200)
  | numeralTooLong n =>
    "Exceeds the limit (" ++ toString Text.maxNumeralDigits ++
      " digits) for integer string conversion: value has " ++ toString n ++
      " digits; use sys.set_int_max_str_digits() to increase the limit"
  | infiniteNumber => "cannot convert float infinity to integer"
  | undefinedNumber => "cannot convert float NaN to integer"
  | notJoinable i s =>
    "sequence item " ++ toString i ++ ": expected str instance, " ++ s.text ++ " found"
  | mixedOffsets => "can't subtract offset-naive and offset-aware datetimes"

namespace Json

def shape : Json → Shape
  | .null => .null
  | .bool _ => .bool
  | .int _ => .int
  | .float _ => .float
  | .str _ => .str
  | .arr _ => .arr
  | .obj _ => .obj

/-- Whether a value counts as something: not `null`, false, zero or empty. -/
def truthy : Json → Bool
  | .null => false
  | .bool b => b
  | .int n => n != 0
  | .float x => x != 0.0
  | .str s => s != ""
  | .arr items => !items.isEmpty
  | .obj fields => !fields.isEmpty

/-- The value if it counts as something, otherwise the given one. -/
def orElse (v w : Json) : Json := if v.truthy then v else w

/-- The items of a list, the names of an object or the characters of a text. -/
def elements? : Json → Option (List Json)
  | .arr items => some items
  | .obj fields => some (fields.map fun (name, _) => .str name)
  | .str s => some (s.toList.map fun c => .str (String.singleton c))
  | _ => none

def itemsOrNone (v : Json) : Except DataFault (List Json) :=
  if v.truthy then
    match v.elements? with
    | some items => .ok items
    | none => .error (.notIterable v.shape)
  else .ok []

/-- The whole number that a value stands for, fractions being cut off. -/
def toInt : Json → Except DataFault Int
  | .int n => .ok n
  | .bool b => .ok (if b then 1 else 0)
  | .float x =>
    match Number.Binary.ofFloat x with
    | .infinite _ => .error .infiniteNumber
    | .nan => .error .undefinedNumber
    | .finite .. => .ok ((Number.truncate? x).getD 0)
  | .str s =>
    match Text.readInt s.toList with
    | .ok n => .ok n
    | .error .malformed => .error (.notNumeral s)
    | .error (.tooLong n) => .error (.numeralTooLong n)
  | v => .error (.notNumber v.shape)

/-- The whole number that a value stands for, if any. An infinite number is a fault of its own. -/
def toInt? (v : Json) : Except DataFault (Option Int) :=
  match v.toInt with
  | .ok n => .ok (some n)
  | .error .infiniteNumber => .error .infiniteNumber
  | .error _ => .ok none

/-- Whether a value is one of the texts; lists and objects cannot be looked up. -/
def isAmong (v : Json) (texts : List String) : Except DataFault Bool :=
  match v with
  | .str s => .ok (texts.contains s)
  | .arr _ | .obj _ => .error (.notHashable v.shape)
  | _ => .ok false

/-- The value of a field of something that has to be an object. -/
def lookup (v : Json) (name : String) : Except DataFault Json :=
  match v with
  | .obj fields => .ok (Fields.getD fields name)
  | _ => .error (.notIndexable v.shape)

/-- Joins texts with a separator; anything else among them is a fault. -/
def joinTexts (sep : String) (items : List Json) : Except DataFault String := do
  let texts ← items.zipIdx.mapM fun (v, i) =>
    match v with
    | .str s => .ok s
    | v => .error (.notJoinable i v.shape)
  .ok (sep.intercalate texts)

end Json

end CloudAudit
