import CloudAudit.Proofs.Run.Coverage
import CloudAudit.Proofs.Run.Junction
import CloudAudit.Proofs.Run.Mention

namespace CloudAudit.CompositeContext

/-- The ways to use the verdicts of other rules. -/
inductive Operator where
  | junction (j : Junction)
  | negation
  | conditional

namespace Operator

/-- Whether the word in a configuration stands for the operator, in letters of either case. -/
def SpelledBy (op : Operator) (word : String) : Prop :=
  match op with
  | junction j => j.SpelledBy word
  | negation => Text.upper word = "NOT"
  | conditional => Text.upper word = "IF_THEN"

/-- The rules that the operator reads. A negation reads the first one named and no other. -/
def operands (op : Operator) (cfg : CompositeConfig) : List String :=
  match op with
  | junction _ => cfg.ruleIds
  | negation => cfg.ruleIds.take 1
  | conditional => [cfg.ifRuleId.getD "", cfg.thenRuleId.getD ""]

/-- Whether the configuration leaves out a rule that the operator needs. -/
def Lacks (op : Operator) (cfg : CompositeConfig) : Prop :=
  match op with
  | junction _ | negation => cfg.ruleIds = []
  | conditional => cfg.ifRuleId.getD "" = "" ∨ cfg.thenRuleId.getD "" = ""

def apply (op : Operator) (ctx : CompositeContext) (rule : Rule) (cfg : CompositeConfig) :
    List Verdict :=
  match op with
  | junction j => ctx.junction rule cfg.ruleIds j
  | negation => ctx.negation rule cfg.ruleIds
  | conditional => ctx.conditional rule cfg.ifRuleId cfg.thenRuleId

end Operator

/-- A rule or a configuration that the operator can do nothing with: an operand is left out or
unknown, or no operand has verdicts. -/
def Flawed (ctx : CompositeContext) (op : Operator) (cfg : CompositeConfig) : Prop :=
  op.Lacks cfg ∨ (∃ id ∈ op.operands cfg, ∀ r ∈ ctx.rules, r.id ≠ id) ∨
    ∀ v ∈ ctx.arena.verdicts, v.ruleId ∉ op.operands cfg

def IsOpen (rule : Rule) (out : List Verdict) : Prop :=
  ∃ detail, out = [⟨rule.id, none, .notApplicable, detail⟩]

/-- Two verdicts on one resource, one of them good where the other is bad. -/
structure Opposite (v w : Verdict) : Prop where
  resource : w.resourceId = v.resourceId
  compliant : w.status = .compliant ↔ v.status = .nonCompliant
  nonCompliant : w.status = .nonCompliant ↔ v.status = .compliant
  notApplicable : w.status = .notApplicable ↔ v.status = .notApplicable

/-- Each resource is judged once, and only where an operand judged it. -/
structure Grouped (ctx : CompositeContext) (ids : List String) (out : List Verdict) : Prop where
  distinct : (out.map (·.resourceId)).Nodup
  judged : ∀ v ∈ out, ∀ r, v.resourceId = some r →
    ∃ w ∈ ctx.arena.verdicts, w.ruleId ∈ ids ∧ w.resourceId = some r

/-- What the verdicts of a composite rule have to satisfy, for any configuration. -/
structure Resolved (ctx : CompositeContext) (rule : Rule) (out : List Verdict) : Prop where
  nonempty : out ≠ []
  own : ∀ v ∈ out, v.ruleId = rule.id
  invalid : (∀ cfg, rule.configAs CompositeConfig.schema ≠ .ok cfg) → IsOpen rule out
  unspelled : ∀ cfg, rule.configAs CompositeConfig.schema = .ok cfg →
    (∀ op : Operator, ¬ op.SpelledBy cfg.operator) → IsOpen rule out
  flawed : ∀ cfg (op : Operator), rule.configAs CompositeConfig.schema = .ok cfg →
    op.SpelledBy cfg.operator → ctx.Flawed op cfg → IsOpen rule out
  grouped : ∀ cfg (op : Operator), rule.configAs CompositeConfig.schema = .ok cfg →
    op.SpelledBy cfg.operator → op ≠ .negation → ctx.Grouped (op.operands cfg) out
  negated : ∀ cfg target rest, rule.configAs CompositeConfig.schema = .ok cfg →
    Operator.negation.SpelledBy cfg.operator → cfg.ruleIds = target :: rest →
    (∃ r ∈ ctx.rules, r.id = target) → (∃ v ∈ ctx.arena.verdicts, v.ruleId = target) →
    List.Forall₂ Opposite (ctx.arena.verdicts.filter (·.ruleId == target)) out

variable {ctx : CompositeContext} {rule : Rule} {ids : List String} {cfg : CompositeConfig}
  {op : Operator}

theorem isOpen_openVerdict (detail : String) : IsOpen rule (openVerdict rule detail) :=
  ⟨detail, rfl⟩

/-! ### The operator decides -/

theorem operatorOf_of_ne (h : cfg.operator ≠ "") : operatorOf cfg = Text.upper cfg.operator := by
  rw [operatorOf, if_neg h]

theorem resolveRule_of_spelled (hcfg : rule.configAs CompositeConfig.schema = .ok cfg)
    (hop : op.SpelledBy cfg.operator) : ctx.resolveRule rule = op.apply ctx rule cfg := by
  rw [resolveRule, hcfg]
  dsimp only
  have hne {word : String} (hw : word ≠ "") (h : Text.upper cfg.operator = word) :
      cfg.operator ≠ "" := by
    intro he
    rw [he] at h
    exact hw h.symm
  cases op with
  | junction j =>
    rw [Junction.SpelledBy.operatorOf hop]
    cases j <;> rfl
  | negation =>
    rw [operatorOf_of_ne (hne (by decide) hop), show Text.upper cfg.operator = "NOT" from hop]
    rfl
  | conditional =>
    rw [operatorOf_of_ne (hne (by decide) hop), show Text.upper cfg.operator = "IF_THEN" from hop]
    rfl

theorem isOpen_of_unspelled (hcfg : rule.configAs CompositeConfig.schema = .ok cfg)
    (hno : ∀ op : Operator, ¬ op.SpelledBy cfg.operator) : IsOpen rule (ctx.resolveRule rule) := by
  have hne : cfg.operator ≠ "" := fun he => hno (.junction .and) (.inr ⟨he, rfl⟩)
  rw [resolveRule, hcfg]
  dsimp only
  rw [operatorOf_of_ne hne]
  split
  case h_1 h => exact absurd h (hno .conditional)
  case h_2 h => exact absurd h (hno .negation)
  case h_3 h => exact absurd (.inl h) (hno (.junction .and))
  case h_4 h => exact absurd (.inl h) (hno (.junction .or))
  case h_5 => exact isOpen_openVerdict _

theorem isOpen_of_invalid (h : ∀ cfg, rule.configAs CompositeConfig.schema ≠ .ok cfg) :
    IsOpen rule (ctx.resolveRule rule) := by
  rw [resolveRule]
  split
  case h_1 => exact isOpen_openVerdict _
  case h_2 cfg hcfg => exact absurd hcfg (h cfg)

/-! ### Flawed configurations -/

theorem isKnown_eq_false {id : String} (h : ∀ r ∈ ctx.rules, r.id ≠ id) :
    ctx.isKnown id = false := by
  rw [← Bool.not_eq_true, isKnown_iff]
  rintro ⟨r, hr, he⟩
  exact h r hr he

theorem junction_isOpen {j : Junction} (h : ctx.Flawed (.junction j) cfg) :
    IsOpen rule (ctx.junction rule cfg.ruleIds j) := by
  rw [junction]
  split
  case isTrue => exact isOpen_openVerdict _
  case isFalse hne =>
    dsimp only
    split
    case isTrue => exact isOpen_openVerdict _
    case isFalse hall =>
      split
      case h_1 => exact isOpen_openVerdict _
      case h_2 hg =>
        exfalso
        obtain hl | ⟨id, hid, hu⟩ | hno := h
        · exact hne (List.isEmpty_iff.mpr hl)
        · have hm : id ∈ cfg.ruleIds.filter (!ctx.isKnown ·) :=
            List.mem_filter.mpr ⟨hid, by rw [isKnown_eq_false hu]; rfl⟩
          simp only [Bool.not_eq_true', Bool.not_eq_false, List.isEmpty_iff] at hall
          rw [hall] at hm
          cases hm
        · exact hg (groups_eq_nil.mpr hno)

theorem negation_isOpen (h : ctx.Flawed .negation cfg) :
    IsOpen rule (ctx.negation rule cfg.ruleIds) := by
  obtain ⟨operator, ruleIds, ifId, thenId⟩ := cfg
  cases ruleIds with
  | nil => exact isOpen_openVerdict _
  | cons target rest =>
    rw [negation]
    split
    case isTrue => exact isOpen_openVerdict _
    case isFalse hknown =>
      split
      case h_1 => exact isOpen_openVerdict _
      case h_2 hf =>
        exfalso
        obtain hl | ⟨id, hid, hu⟩ | hno := h
        · cases hl
        · obtain rfl : id = target := List.mem_singleton.mp hid
          exact hknown (by rw [isKnown_eq_false hu]; rfl)
        · refine hf (List.filter_eq_nil_iff.mpr fun v hv he => ?_)
          exact hno v hv (List.mem_singleton.mpr (beq_iff_eq.mp he))

theorem conditional_isOpen (h : ctx.Flawed .conditional cfg) :
    IsOpen rule (ctx.conditional rule cfg.ifRuleId cfg.thenRuleId) := by
  rw [conditional]
  split
  case isTrue => exact isOpen_openVerdict _
  case isFalse hok =>
    split
    case h_1 => exact isOpen_openVerdict _
    case h_2 hg =>
      exfalso
      obtain (hl | hl) | ⟨id, hid, hu⟩ | hno := h
      · exact hok (.inl hl)
      · exact hok (.inr (.inl hl))
      · have hk := isKnown_eq_false hu
        obtain rfl | hid := List.mem_cons.mp hid
        · exact hok (.inr (.inr (.inl (by rw [hk]; rfl))))
        · obtain rfl := List.mem_singleton.mp hid
          exact hok (.inr (.inr (.inr (by rw [hk]; rfl))))
      · exact hg (groups_eq_nil.mpr hno)

theorem apply_isOpen (h : ctx.Flawed op cfg) : IsOpen rule (op.apply ctx rule cfg) := by
  cases op with
  | junction j => exact junction_isOpen h
  | negation => exact negation_isOpen h
  | conditional => exact conditional_isOpen h

/-! ### Judging group by group -/

theorem grouped_openVerdict (detail : String) : ctx.Grouped ids (openVerdict rule detail) where
  distinct := List.nodup_singleton _
  judged := by
    intro v hv r hr
    rw [List.mem_singleton.mp hv] at hr
    cases hr

theorem grouped_map {judge : Option String → Verdict}
    (h : ∀ group, (judge group).resourceId = group) :
    ctx.Grouped ids ((ctx.groups ids).map judge) where
  distinct := by
    have hids : ((ctx.groups ids).map judge).map (·.resourceId) = ctx.groups ids := by
      rw [List.map_map]
      exact List.map_id'' h _
    rw [hids]
    exact groups_nodup ctx ids
  judged := by
    intro v hv r hr
    obtain ⟨group, hg, rfl⟩ := List.mem_map.mp hv
    rw [h] at hr
    obtain ⟨⟨w, hw, hid, hwr⟩, -⟩ := mem_groups.mp hg
    exact ⟨w, hw, hid, hwr.trans hr⟩

theorem junction_grouped (j : Junction) : ctx.Grouped ids (ctx.junction rule ids j) := by
  rw [junction]
  split
  case isTrue => exact grouped_openVerdict _
  dsimp only
  split
  case isTrue => exact grouped_openVerdict _
  split
  case h_1 => exact grouped_openVerdict _
  case h_2 => exact grouped_map fun _ => rfl

theorem resourceId_conditionalVerdict (ifId thenId : String) (group : Option String) :
    (ctx.conditionalVerdict rule ifId thenId group).resourceId = group := by
  rw [conditionalVerdict]
  split
  · rfl
  · split <;> rfl

theorem conditional_grouped (ifId thenId : Option String) :
    ctx.Grouped [ifId.getD "", thenId.getD ""] (ctx.conditional rule ifId thenId) := by
  rw [conditional]
  split
  case isTrue => exact grouped_openVerdict _
  split
  case h_1 => exact grouped_openVerdict _
  case h_2 => exact grouped_map (resourceId_conditionalVerdict _ _)

theorem apply_grouped (h : op ≠ .negation) :
    ctx.Grouped (op.operands cfg) (op.apply ctx rule cfg) := by
  cases op with
  | junction j => exact junction_grouped j
  | negation => exact absurd rfl h
  | conditional => exact conditional_grouped _ _

/-! ### Turning verdicts around -/

theorem opposite_negate (v : Verdict) :
    Opposite v ⟨rule.id, v.resourceId, v.status.negate, "NOT(" ++ v.detail ++ ")"⟩ where
  resource := rfl
  compliant := by cases v.status <;> simp [Status.negate]
  nonCompliant := by cases v.status <;> simp [Status.negate]
  notApplicable := by cases v.status <;> simp [Status.negate]

theorem negation_opposite {target : String} {rest : List String}
    (hknown : ∃ r ∈ ctx.rules, r.id = target)
    (hfound : ∃ v ∈ ctx.arena.verdicts, v.ruleId = target) :
    List.Forall₂ Opposite (ctx.arena.ofRule target) (ctx.negation rule (target :: rest)) := by
  rw [negation, isKnown_iff.mpr hknown]
  split
  case isTrue h => cases h
  split
  case h_1 hnil =>
    obtain ⟨v, hv, hid⟩ := hfound
    have hm : v ∈ ctx.arena.ofRule target := Arena.mem_ofRule.mpr ⟨hv, hid⟩
    rw [hnil] at hm
    cases hm
  case h_2 =>
    rw [List.forall₂_map_right_iff, List.forall₂_same]
    exact fun v _ => opposite_negate v

/-! ### The whole -/

theorem resolveRule_resolved (ctx : CompositeContext) (rule : Rule) :
    ctx.Resolved rule (ctx.resolveRule rule) where
  nonempty := resolveRule_ne_nil ctx rule
  own := fun _ => ruleId_of_mem_resolveRule
  invalid := isOpen_of_invalid
  unspelled := fun _ => isOpen_of_unspelled
  flawed := by
    intro cfg op hcfg hop h
    rw [resolveRule_of_spelled hcfg hop]
    exact apply_isOpen h
  grouped := by
    intro cfg op hcfg hop h
    rw [resolveRule_of_spelled hcfg hop]
    exact apply_grouped h
  negated := by
    intro cfg target rest hcfg hop hids hknown hfound
    rw [resolveRule_of_spelled hcfg hop, Operator.apply, hids]
    exact negation_opposite hknown hfound

theorem resolve_singleton (rule : Rule) : ctx.resolve [rule] = ctx.resolveRule rule :=
  List.flatMap_singleton _ _

/-- Any composites over any verdicts: each gives what it gives alone, one after the other. -/
theorem resolve_resolved (ctx : CompositeContext) (composites : List Rule) :
    (∀ rule, ctx.Resolved rule (ctx.resolve [rule])) ∧
      ctx.resolve composites = composites.flatMap fun rule => ctx.resolve [rule] := by
  constructor
  · intro rule
    rw [resolve_singleton]
    exact resolveRule_resolved ctx rule
  · rw [resolve]
    exact List.flatMap_congr fun rule _ => (resolve_singleton rule).symm

/-- A negation does not look at the second rule that it names. -/
example :
    let rule : Rule := ⟨"a", "A", "", [], "has_tags", [], .warning, true, none, false⟩
    let composite : Rule := ⟨"c", "C", "", [], "composite",
      [("operator", .str "Not"), ("rule_ids", .arr [.str "a", .str "gone"])], .warning, true, none,
      false⟩
    resolve ⟨[rule], ⟨[⟨"a", some "r", .compliant, "x"⟩, ⟨"a", none, .notApplicable, "y"⟩]⟩⟩
        [composite] =
      [⟨"c", some "r", .nonCompliant, "NOT(x)"⟩, ⟨"c", none, .notApplicable, "NOT(y)"⟩] := rfl

end CloudAudit.CompositeContext
