import CloudAudit.Json.Value
import CloudAudit.Number.Text
import CloudAudit.Schema.Fault
import CloudAudit.Schema.Numeral
import CloudAudit.Time.Rfc3339

namespace CloudAudit

abbrev Reader (α : Type) := Json → Except (List Fault) α

namespace Reader

def fail {α : Type} (broken : Requirement) : Except (List Fault) α := .error [⟨[], broken⟩]

def any : Reader Json := .ok

def string : Reader String
  | .str s => .ok s
  | _ => fail .isString

def optional {α : Type} (reader : Reader α) : Reader (Option α)
  | .null => .ok none
  | v => (reader v).map some

/-- Whole numbers that fit a signed word of 64 bits. -/
def fitsWord (n : Int) : Bool := -(Nat.pow 2 63 : Int) ≤ n && n < (Nat.pow 2 63 : Int)

def intText (s : String) : Except (List Fault) Int :=
  match Schema.Numeral.int s.toList with
  | .ok n => .ok n
  | .error .malformed => fail .parsesAsInt
  | .error .tooLong => fail .fitsWhenParsedAsInt

/-- Whole doubles that fit a signed word and are not its least value. -/
def exactWord? (x : Float) : Option Int :=
  (Number.exactInt? x).filter fun n => fitsWord n && n != -(Nat.pow 2 63 : Int)

def int : Reader Int
  | .int n => .ok n
  | .bool b => .ok (if b then 1 else 0)
  | .float x =>
    if !Number.isFinite x then fail .isFinite
    else if (Number.exactInt? x).isNone then fail .isWhole
    else (exactWord? x).elim (fail .fitsWhenParsedAsInt) .ok
  | .str s => intText s
  | _ => fail .isInt

/-- A number; a whole one must not lie beyond the doubles. -/
def float : Reader Float
  | .float x => .ok x
  | .int n =>
    let x := Number.floatOfInt n
    if Number.isFinite x then .ok x else fail .isFloat
  | .bool b => .ok (if b then 1.0 else 0.0)
  | .str s => (Schema.Numeral.float? s.toList).elim (fail .parsesAsFloat) .ok
  | _ => fail .isFloat

def boolText (s : String) : Except (List Fault) Bool :=
  let word := String.ofList (s.toList.map Char.toLower)
  if ["true", "yes", "on", "y", "t", "1"].contains word then .ok true
  else if ["false", "no", "off", "n", "f", "0"].contains word then .ok false
  else fail .parsesAsBool

def boolInt (n : Int) : Except (List Fault) Bool :=
  if n = 0 then .ok false else if n = 1 then .ok true else fail .parsesAsBool

def bool : Reader Bool
  | .bool b => .ok b
  | .int n => if fitsWord n then boolInt n else fail .isBool
  | .float x => (exactWord? x).elim (fail .isBool) boolInt
  | .str s => boolText s
  | _ => fail .isBool

/-- A moment, written out or as a number of seconds since 1970. -/
def moment : Reader Time.Moment
  | .str s =>
    match Time.Rfc3339.moment s.toList with
    | .ok m => .ok m
    | .error .malformed => fail .parsesAsMoment
    | .error .yearZero => fail .isMomentInRange
  | .int n =>
    if Number.isFinite (Number.floatOfInt n) then
      (Time.Rfc3339.ofTimestamp n).toOption.elim (fail .isMomentInRange) .ok
    else fail .isMoment
  | .float x => (Time.Rfc3339.ofFloat x).toOption.elim (fail .isMomentInRange) .ok
  | _ => fail .isMoment

def object : Reader Fields
  | .obj fields => .ok fields
  | _ => fail .isObject

def listed {α : Type} (ofText? : String → Option α) : Reader α
  | .str s => (ofText? s).elim (fail .isListed) .ok
  | _ => fail .isListed

/-- Reads the items from number `i` on, gathering the faults of all. -/
def itemsFrom {α : Type} (reader : Reader α) (i : Nat) : List Json → Except (List Fault) (List α)
  | [] => .ok []
  | v :: rest =>
    match (reader v).mapError (·.map (Fault.under (.index i))), itemsFrom reader (i + 1) rest with
    | .ok a, .ok as => .ok (a :: as)
    | .error e, .ok _ => .error e
    | .ok _, .error e => .error e
    | .error e, .error es => .error (e ++ es)

def list {α : Type} (reader : Reader α) : Reader (List α)
  | .arr items => itemsFrom reader 0 items
  | _ => fail .isList

end Reader

def Record (α : Type) := Fields → Except (List Fault) α

namespace Record

/-- Combines two parts; the faults of the first come before those of the second. -/
def seq {α β : Type} (f : Record (α → β)) (x : Unit → Record α) : Record β := fun fields =>
  match f fields, x () fields with
  | .ok f, .ok a => .ok (f a)
  | .error e, .ok _ => .error e
  | .ok _, .error e => .error e
  | .error e, .error e' => .error (e ++ e')

instance : Applicative Record where
  pure a := fun _ => .ok a
  seq := seq

def readField {α : Type} (name : String) (reader : Reader α) (v : Json) : Except (List Fault) α :=
  (reader v).mapError (·.map (Fault.under (.field name)))

def required {α : Type} (name : String) (reader : Reader α) : Record α := fun fields =>
  match fields.get? name with
  | some v => readField name reader v
  | none => .error [⟨[.field name], .present⟩]

/-- A field that may be missing; the default is taken as it is. -/
def field {α : Type} (name : String) (reader : Reader α) (default : α) : Record α := fun fields =>
  match fields.get? name with
  | some v => readField name reader v
  | none => .ok default

def reader {α : Type} (record : Record α) : Reader α
  | .obj fields => record fields
  | _ => Reader.fail .isRecord

end Record

/-- A record type by name: how its values are read from objects and written to them. -/
structure Schema (α : Type) where
  name : String
  record : Record α
  toJson : α → Json

namespace Schema

def read {α : Type} (schema : Schema α) (v : Json) : Except Rejection α :=
  (schema.record.reader v).mapError (⟨schema.name, ·⟩)

/-- The object in the form in which the type writes it, with every field and default. -/
def normalize {α : Type} (schema : Schema α) (v : Json) : Except Rejection Json :=
  (schema.read v).map schema.toJson

end Schema

end CloudAudit
