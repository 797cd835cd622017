import CloudAudit.Check.Tags

namespace CloudAudit

namespace Plan

/-- Drops a class such as `g6-` at the start of a plan. -/
def dropClass (cs : List Char) : List Char :=
  match cs with
  | 'g' :: rest =>
    match rest.takeWhile Text.isDecimalDigit, rest.dropWhile Text.isDecimalDigit with
    | _ :: _, '-' :: tail => tail
    | _, _ => cs
  | _ => cs

/-- Drops a size such as `-8` at the end of a line. -/
def dropSizeAtEnd (cs : List Char) : List Char :=
  let back := cs.reverse
  match back.takeWhile Text.isDecimalDigit, back.dropWhile Text.isDecimalDigit with
  | _ :: _, '-' :: rest => rest.reverse
  | _, _ => cs

/-- Drops a size such as `-8` at the end of a plan, before its last line end if it has one. -/
def dropSize (cs : List Char) : List Char :=
  match cs.getLast? with
  | some '\n' => dropSizeAtEnd cs.dropLast ++ ['\n']
  | _ => dropSizeAtEnd cs

/-- The tier of a plan: `dedicated` for `g6-dedicated-8`. -/
def tier (plan : String) : String := String.ofList (dropSize (dropClass plan.toList))

end Plan

namespace Check

open Outcome

def approvedRegions : ResourceCheck := fun rule r _ => do
  let cfg ← rule.configAs ApprovedRegionsConfig.schema
  if cfg.approved.isEmpty then
    return notApplicable "No approved regions configured for this rule."
  if r.region = "" then return notApplicable "Resource has no region information."
  if cfg.approved.contains r.region then
    return compliant ("Region \"" ++ r.region ++ "\" is approved.")
  return nonCompliant ("Region \"" ++ r.region ++ "\" is not in the approved list: " ++
    commaList cfg.approved ++ ".")

/-- Whether tags in small letters hold a key, with a value if one is wanted. -/
def hasWantedTag (key value : String) (tags : List String) : Bool :=
  if value = "" then tags.any (Tags.hasKey key) else tags.contains (key ++ ":" ++ value)

def planTierByTag : ResourceCheck := fun rule r _ => do
  let cfg ← rule.configAs PlanTierConfig.schema
  let key := Text.lower (Text.trim cfg.tag)
  let wanted := Text.lower (Text.trim cfg.tagValue)
  if key = "" ∨ cfg.approvedTiers.isEmpty then
    return notApplicable "Rule is not fully configured (tag key or approved tiers missing)."
  let tags := (← Tags.ofResource r).map Text.lower
  if !hasWantedTag key wanted tags then
    return notApplicable ("Linode does not have the tag \"" ++
      (if wanted = "" then key else key ++ ":" ++ wanted) ++ "\"; rule does not apply.")
  let tier := Plan.tier r.plan
  let shown := "Plan \"" ++ r.plan ++ "\" (tier: " ++ tier ++ ") is "
  if cfg.approvedTiers.any fun approved => approved.toList.isPrefixOf tier.toList then
    return compliant (shown ++ "in the approved tiers: " ++ commaList cfg.approvedTiers ++ ".")
  return nonCompliant (shown ++ "not in the approved tiers: " ++ commaList cfg.approvedTiers ++
    ". Upgrade to a " ++ " or ".intercalate cfg.approvedTiers ++ " instance.")

end Check

end CloudAudit
