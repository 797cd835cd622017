namespace CloudAudit

inductive Place where
  | field (name : String)
  | index (i : Nat)
  deriving DecidableEq, Repr

inductive Requirement where
  | present
  | isString
  | isInt
  | parsesAsInt
  | fitsWhenParsedAsInt
  | isWhole
  | isFinite
  | isFloat
  | parsesAsFloat
  | isBool
  | parsesAsBool
  | isList
  | isObject
  | isRecord
  | isRequestRecord
  | isListed
  | isMoment
  | parsesAsMoment
  | isMomentInRange
  | isJson
  | atLeast
  | atMost
  deriving DecidableEq, Repr

def Requirement.code : Requirement → String
  | present => "missing"
  | isString => "string_type"
  | isInt => "int_type"
  | parsesAsInt => "int_parsing"
  | fitsWhenParsedAsInt => "int_parsing_size"
  | isWhole => "int_from_float"
  | isFinite => "finite_number"
  | isFloat => "float_type"
  | parsesAsFloat => "float_parsing"
  | isBool => "bool_type"
  | parsesAsBool => "bool_parsing"
  | isList => "list_type"
  | isObject => "dict_type"
  | isRecord => "model_type"
  | isRequestRecord => "model_attributes_type"
  | isListed => "enum"
  | isMoment => "datetime_type"
  | parsesAsMoment => "datetime_from_date_parsing"
  | isMomentInRange => "datetime_parsing"
  | isJson => "json_invalid"
  | atLeast => "greater_than_equal"
  | atMost => "less_than_equal"

structure Fault where
  path : List Place
  broken : Requirement
  deriving DecidableEq, Repr

def Fault.under (place : Place) (fault : Fault) : Fault :=
  { fault with path := place :: fault.path }

def Place.text : Place → String
  | field name => name
  | index i => toString i

def Fault.text (fault : Fault) : String :=
  let place := if fault.path.isEmpty then "(root)" else ".".intercalate (fault.path.map Place.text)
  place ++ " (" ++ fault.broken.code ++ ")"

/-- A value that is no record of the named type. -/
structure Rejection where
  model : String
  faults : List Fault
  deriving DecidableEq, Repr

def Rejection.message (r : Rejection) : String :=
  toString r.faults.length ++ " validation error(s) for " ++ r.model ++ ": " ++
    "; ".intercalate (r.faults.map Fault.text)

end CloudAudit
