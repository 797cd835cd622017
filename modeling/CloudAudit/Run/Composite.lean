import CloudAudit.Check.Config
import CloudAudit.Check.Outcome
import CloudAudit.Text.Case

namespace CloudAudit

/-- The verdicts of the first pass, to look up. -/
structure Arena where
  verdicts : List Verdict

namespace Arena

def ofRule (a : Arena) (ruleId : String) : List Verdict := a.verdicts.filter (·.ruleId == ruleId)

/-- The verdicts of a rule on a resource, or on the account. -/
def cell (a : Arena) (ruleId : String) (resourceId : Option String) : List Verdict :=
  a.verdicts.filter fun v => v.ruleId == ruleId && v.resourceId == resourceId

def addNew (ids new : List String) : List String :=
  new.foldl (fun ids id => if ids.contains id then ids else ids ++ [id]) ids

/-- The resources that some rules judged, each once: rule by rule, in the order of the verdicts. -/
def resourceIds (a : Arena) (ruleIds : List String) : List String :=
  addNew [] (ruleIds.flatMap fun id => (a.ofRule id).filterMap (·.resourceId))

end Arena

namespace Status

/-- All hold: compliant if there are some and all are, violated if one is, otherwise open. -/
def allOf (statuses : List Status) : Status :=
  if !statuses.isEmpty && statuses.all (· == compliant) then compliant
  else if statuses.any (· == nonCompliant) then nonCompliant
  else notApplicable

/-- One holds: compliant if one is, violated if there are some and none is open, otherwise open. -/
def anyOf (statuses : List Status) : Status :=
  if statuses.any (· == compliant) then compliant
  else if !statuses.isEmpty && !statuses.any (· == notApplicable) then nonCompliant
  else notApplicable

/-- The opposite; what is open stays open. -/
def negate : Status → Status
  | compliant => nonCompliant
  | nonCompliant => compliant
  | notApplicable => notApplicable

end Status

/-- The rules that composites may name, and the verdicts to combine. -/
structure CompositeContext where
  rules : List Rule
  arena : Arena

namespace CompositeContext

def isKnown (ctx : CompositeContext) (id : String) : Bool := ctx.rules.any (·.id == id)

def name (ctx : CompositeContext) (id : String) : String :=
  ((Rule.lastById? ctx.rules id).map Rule.name).getD id

/-- The verdicts that count for a group: those on its resource, or else those on the account. -/
def relevant (ctx : CompositeContext) (ruleId : String) (group : Option String) : List Verdict :=
  let own := if group.isSome then ctx.arena.cell ruleId group else []
  if own.isEmpty then ctx.arena.cell ruleId none else own

def status (ctx : CompositeContext) (ruleId : String) (group : Option String) : Status :=
  Status.allOf ((ctx.relevant ruleId group).map (·.status))

/-- The groups to judge: the resources, or the account if no rule judged a resource. -/
def groups (ctx : CompositeContext) (ruleIds : List String) : List (Option String) :=
  let resources := ctx.arena.resourceIds ruleIds
  if !resources.isEmpty then resources.map some
  else if ruleIds.any fun id => !(ctx.arena.cell id none).isEmpty then [none]
  else []

/-- A single verdict that says why there is nothing to combine. -/
def openVerdict (rule : Rule) (detail : String) : List Verdict :=
  [⟨rule.id, none, .notApplicable, detail⟩]

private def unknownSubRules (ids : List String) : String :=
  "Composite rule references unknown sub-rule(s): " ++ commaList ids ++ "."

inductive Junction where
  | and
  | or
  deriving DecidableEq, Repr

def Junction.text : Junction → String
  | and => "AND"
  | or => "OR"

def Junction.combine : Junction → List Status → Status
  | and => Status.allOf
  | or => Status.anyOf

def Junction.detail (j : Junction) (passed : Bool) (names : List String) (statuses : List Status) :
    String :=
  if passed then
    match j with
    | and => "All conditions passed: " ++ commaList names
    | or => "OR passed, at least one condition met: " ++ commaList names
  else
    j.text ++ " not satisfied. Sub-rule statuses: " ++
      "; ".intercalate ((names.zip statuses).map fun (n, s) => n ++ ": " ++ s.text)

def junctionVerdict (ctx : CompositeContext) (rule : Rule) (ruleIds : List String) (j : Junction)
    (group : Option String) : Verdict :=
  let statuses := ruleIds.map (ctx.status · group)
  let status := j.combine statuses
  ⟨rule.id, group, status, j.detail (status == .compliant) (ruleIds.map ctx.name) statuses⟩

def junction (ctx : CompositeContext) (rule : Rule) (ruleIds : List String) (j : Junction) :
    List Verdict :=
  if ruleIds.isEmpty then openVerdict rule (j.text ++ " composite rule has no sub-rules specified.")
  else
    let unknown := ruleIds.filter (!ctx.isKnown ·)
    if !unknown.isEmpty then openVerdict rule (unknownSubRules unknown)
    else
      match ctx.groups ruleIds with
      | [] => openVerdict rule "No sub-rule results to combine."
      | groups => groups.map (ctx.junctionVerdict rule ruleIds j)

/-- Turns every verdict of the first rule named around. -/
def negation (ctx : CompositeContext) (rule : Rule) (ruleIds : List String) : List Verdict :=
  match ruleIds with
  | [] => openVerdict rule "NOT composite rule has no sub-rule specified."
  | target :: _ =>
    if !ctx.isKnown target then openVerdict rule (unknownSubRules [target])
    else
      match ctx.arena.ofRule target with
      | [] => openVerdict rule "No results found for sub-rule."
      | found => found.map fun v =>
        ⟨rule.id, v.resourceId, v.status.negate, "NOT(" ++ v.detail ++ ")"⟩

/-- The verdict on one group of a rule that binds where another is violated. -/
def conditionalVerdict (ctx : CompositeContext) (rule : Rule) (ifId thenId : String)
    (group : Option String) : Verdict :=
  let condition := "IF condition (" ++ ctx.name ifId ++ ")"
  let consequence := "THEN condition (" ++ ctx.name thenId ++ ")"
  if ctx.status ifId group ≠ .nonCompliant then
    ⟨rule.id, group, .notApplicable, condition ++ " not triggered; rule does not apply."⟩
  else if ctx.status thenId group = .compliant then
    ⟨rule.id, group, .compliant, condition ++ " triggered and " ++ consequence ++ " is satisfied."⟩
  else
    ⟨rule.id, group, .nonCompliant, condition ++ " triggered but " ++ consequence ++ " failed."⟩

/-- Where the first rule is violated the second has to hold, group by group. -/
def conditional (ctx : CompositeContext) (rule : Rule) (ifId thenId : Option String) :
    List Verdict :=
  let ifId := ifId.getD ""
  let thenId := thenId.getD ""
  if ifId = "" ∨ thenId = "" ∨ !ctx.isKnown ifId ∨ !ctx.isKnown thenId then
    openVerdict rule "IF_THEN composite rule references missing sub-rules."
  else
    match ctx.groups [ifId, thenId] with
    | [] => openVerdict rule "No resources to evaluate for IF_THEN composite rule."
    | groups => groups.map (ctx.conditionalVerdict rule ifId thenId)

/-- The operator in capital letters; an empty one means "and". -/
def operatorOf (cfg : CompositeConfig) : String :=
  Text.upper (if cfg.operator = "" then "AND" else cfg.operator)

/-- The verdicts of a composite rule. -/
def resolveRule (ctx : CompositeContext) (rule : Rule) : List Verdict :=
  match rule.configAs CompositeConfig.schema with
  | .error _ => openVerdict rule "Composite rule configuration is invalid."
  | .ok cfg =>
    match operatorOf cfg with
    | "IF_THEN" => ctx.conditional rule cfg.ifRuleId cfg.thenRuleId
    | "NOT" => ctx.negation rule cfg.ruleIds
    | "AND" => ctx.junction rule cfg.ruleIds .and
    | "OR" => ctx.junction rule cfg.ruleIds .or
    | _ => openVerdict rule ("Unknown composite operator \"" ++ cfg.operator ++ "\".")

def resolve (ctx : CompositeContext) (composites : List Rule) : List Verdict :=
  composites.flatMap ctx.resolveRule

end CompositeContext

end CloudAudit
