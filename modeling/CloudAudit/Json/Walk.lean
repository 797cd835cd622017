import CloudAudit.Json.Value
import CloudAudit.Number.Binary

namespace CloudAudit

mutual

/-- The value with `null` for every number that is infinite or undefined. -/
def Json.finite : Json → Json
  | .float x => if Number.isFinite x then .float x else .null
  | .arr items => .arr (finiteItems items)
  | .obj fields => .obj (finiteFields fields)
  | v => v

/-- The items with `null` for every number that is infinite or undefined. -/
def finiteItems : List Json → List Json
  | [] => []
  | v :: rest => v.finite :: finiteItems rest

/-- The fields with `null` for every number that is infinite or undefined. -/
def finiteFields : List (String × Json) → Fields
  | [] => []
  | (name, v) :: rest => (name, v.finite) :: finiteFields rest

end

mutual

def Json.isWritable : Json → Bool
  | .float x => Number.isFinite x
  | .arr items => allWritable items
  | .obj fields => allFieldsWritable fields
  | _ => true

def allWritable : List Json → Bool
  | [] => true
  | v :: rest => v.isWritable && allWritable rest

/-- Whether all numbers in the fields of an object are finite. -/
def allFieldsWritable : List (String × Json) → Bool
  | [] => true
  | (_, v) :: rest => v.isWritable && allFieldsWritable rest

end

mutual

/-- How many calls are under way at once while a value is copied: one for an atom, and two for a
list or an object beside those for what stands in it. -/
def Json.copyCalls : Json → Nat
  | .arr items => 2 + mostCopyCalls items
  | .obj fields => 2 + mostFieldCopyCalls fields
  | _ => 1

def mostCopyCalls : List Json → Nat
  | [] => 0
  | v :: rest => max v.copyCalls (mostCopyCalls rest)

def mostFieldCopyCalls : List (String × Json) → Nat
  | [] => 0
  | (_, v) :: rest => max v.copyCalls (mostFieldCopyCalls rest)

end

end CloudAudit
