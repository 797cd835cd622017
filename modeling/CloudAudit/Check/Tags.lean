import CloudAudit.Check.Outcome
import CloudAudit.Text.Case

namespace CloudAudit

namespace Tags

/-- Whether a tag has the key, or is it. Both are in small letters. -/
def hasKey (key tag : String) : Bool := tag == key || (key ++ ":").toList.isPrefixOf tag.toList

/-- The first tag with a key. -/
def find? (tags : List String) (key : String) : Option String :=
  tags.find? fun tag => hasKey (Text.lower key) (Text.lower tag)

/-- The value of a tag: what follows the first colon, without blanks at its ends. -/
def value? (tag : String) : Option String :=
  (Text.cutAt? ':' tag.toList).map fun (_, v) => String.ofList (Text.trimChars v)

def ofResource (r : Resource) : Except DataFault (List String) := do
  return (← (r.spec "tags").itemsOrNone).map Json.text

end Tags

namespace RequiredTag

def isWildcard (t : RequiredTag) : Bool :=
  match t.value with
  | none => true
  | some v => v == "" || v == "*"

def describe (t : RequiredTag) : String :=
  t.key ++ ":" ++ (if t.isWildcard then "*" else t.value.getD "")

inductive Verdict where
  | met
  | missing
  | wrongValue (found : String)
  deriving DecidableEq, Repr

/-- Compares the first tag with the required key. -/
def check (t : RequiredTag) (tags : List String) : Verdict :=
  match Tags.find? tags t.key with
  | none => .missing
  | some tag =>
    if t.isWildcard then .met
    else
      match Tags.value? tag with
      | none => .wrongValue tag
      | some found =>
        if Text.lower found = Text.lower (t.value.getD "") then .met else .wrongValue found

end RequiredTag

namespace Check

open Outcome

def missingKeys (required : List RequiredTag) (tags : List String) : List String :=
  (required.filter fun t => t.check tags == .missing).map (·.key)

def wrongValues (required : List RequiredTag) (tags : List String) : List String :=
  required.filterMap fun t =>
    match t.check tags with
    | .wrongValue found =>
      some (t.key ++ " (expected \"" ++ t.value.getD "" ++ "\", found \"" ++ found ++ "\")")
    | _ => none

def hasTags : ResourceCheck := fun rule r _ => do
  let cfg ← rule.configAs HasTagsConfig.schema
  let tags ← Tags.ofResource r
  let required := cfg.requiredTags.filter (·.key != "")
  let count := toString tags.length
  if required.isEmpty then
    if cfg.minTags ≤ tags.length then
      return compliant ("Has " ++ count ++ " tag(s): " ++ commaList tags)
    return nonCompliant ("Has " ++ count ++ " tag(s). At least " ++ toString cfg.minTags ++
      " tag(s) required.")
  let missing := missingKeys required tags
  let wrong := wrongValues required tags
  if missing.isEmpty && wrong.isEmpty then
    return compliant ("All required tags present: " ++
      commaList (required.map RequiredTag.describe))
  return nonCompliant (". ".intercalate (
    (if missing.isEmpty then [] else ["Missing tags: " ++ commaList missing]) ++
    (if wrong.isEmpty then [] else ["Wrong values: " ++ "; ".intercalate wrong])))

end Check

end CloudAudit
