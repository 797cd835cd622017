import Mathlib.Data.List.TakeWhile
import CloudAudit.Proofs.Store.Activation

namespace CloudAudit.Store

variable {s : Store} {a id : String} {r x : Rule} {f : StoreFault}

/-- Why an account may not register a rule: the rule is not its own, or a rule of another owner has
the identifier. -/
inductive Barred (s : Store) (a : String) (r : Rule) : StoreFault → Prop
  | foreign (h : r.accountId ≠ some a) : Barred s a r (.foreignRule r.id r.accountId a)
  | taken {known : Rule} (ha : r.accountId = some a) (hk : s.rule r.id = .ok known)
    (ho : known.accountId ≠ some a) : Barred s a r (.takenRuleId r.id)

theorem rule_eq_ok : s.rule id = .ok r ↔ Table.find? Rule.id s.rules id = some r :=
  Table.lookup_eq_ok

theorem registrationFault?_eq_some : s.registrationFault? a r = some f ↔ s.Barred a r f := by
  rw [registrationFault?]
  constructor
  · intro h
    split at h
    case isTrue ha =>
      cases h
      exact .foreign ha
    case isFalse ha =>
      split at h
      case h_1 known hf =>
        split at h
        case isTrue => cases h
        case isFalse ho =>
          cases h
          exact .taken (not_not.mp ha) (rule_eq_ok.mpr hf) ho
      case h_2 => cases h
  · intro h
    cases h with
    | foreign ha => rw [if_pos ha]
    | taken ha hk ho =>
      rw [if_neg (not_not.mpr ha), rule_eq_ok.mp hk]
      exact if_neg ho

theorem registrationFault?_eq_none : s.registrationFault? a r = none ↔ ∀ f, ¬ s.Barred a r f := by
  simp only [Option.eq_none_iff_forall_ne_some, ne_eq, registrationFault?_eq_some]

theorem rule_putRule : (s.putRule r).rule id = if id = r.id then .ok r else s.rule id := by
  rw [rule, putRule, Table.find?_upsert]
  split <;> rfl

theorem barred_putRule (h : ∀ f, ¬ s.Barred a r f) :
    (s.putRule r).Barred a x f ↔ s.Barred a x f := by
  have hown : r.accountId = some a := by
    by_contra hne
    exact h _ (.foreign hne)
  have hknown {known : Rule} (hk : s.rule r.id = .ok known) : known.accountId = some a := by
    by_contra hne
    exact h _ (.taken hown hk hne)
  constructor
  · intro hb
    cases hb with
    | foreign ha => exact .foreign ha
    | taken ha hk ho =>
      rw [rule_putRule] at hk
      split at hk
      · cases hk
        exact absurd hown ho
      · exact .taken ha hk ho
  · intro hb
    cases hb with
    | foreign ha => exact .foreign ha
    | taken ha hk ho =>
      have hid : x.id ≠ r.id := by
        intro he
        rw [he] at hk
        exact ho (hknown hk)
      refine .taken ha ?_ ho
      rw [rule_putRule, if_neg hid, hk]

/-- The store with some rules put in, one after the other. -/
def filed (s : Store) (rules : List Rule) : Store :=
  { s with rules := Table.insertAll Rule.id s.rules rules }

theorem registerRules_ok_iff (s : Store) (a : String) (rules : List Rule) :
    (∃ s', s.registerRules a rules = (.ok (), s')) ↔ ∀ r ∈ rules, ∀ f, ¬ s.Barred a r f := by
  induction rules generalizing s with
  | nil => simp [registerRules]
  | cons r rules ih =>
    rw [registerRules, List.forall_mem_cons]
    cases hf : s.registrationFault? a r with
    | some f =>
      rw [registrationFault?_eq_some] at hf
      constructor
      · rintro ⟨s', h⟩
        cases h
      · intro h
        exact absurd hf (h.1 f)
    | none =>
      rw [registrationFault?_eq_none] at hf
      rw [ih]
      simp only [barred_putRule hf]
      exact ⟨fun h => ⟨hf, h⟩, fun h => h.2⟩

variable {calls : Nat} {rules : List Rule} {s' : Store}

/-- How filing ends: at a rule that is barred, at one for which something cannot be copied, or with
all rules registered and read back if they can be. -/
theorem fileRules_cases {x : Except StoreFault Unit} (h : s.fileRules calls a rules = (x, s')) :
    (∃ f, s.registerRules a (rules.takeWhile (s.canCopy calls)) = (.error f, s') ∧ x = .error f) ∨
    (∃ r ∈ rules, s.canCopy calls r = false ∧
      s.registerRules a (rules.takeWhile (s.canCopy calls)) = (.ok (), s') ∧
      x = .error (s'.copyFault calls a r)) ∨
    (∀ r ∈ rules, s.canCopy calls r = true) ∧ s.registerRules a rules = (.ok (), s') ∧
      x = if s'.rules.all (·.canBeCopied calls) then .ok () else .error .nestedTooDeep := by
  rw [fileRules] at h
  cases hreg : s.registerRules a (rules.takeWhile (s.canCopy calls)) with
  | mk result s₁ =>
    rw [hreg] at h
    cases result with
    | error f =>
      cases h
      exact .inl ⟨f, rfl, rfl⟩
    | ok u =>
      dsimp only at h
      cases hdrop : rules.dropWhile (s.canCopy calls) with
      | cons r rest =>
        rw [hdrop] at h
        cases h
        have hfirst : rules.find? (!s.canCopy calls ·) = some r := by
          rw [List.find?_not_eq_head?_dropWhile, hdrop, List.head?_cons]
        have hstuck := List.find?_some hfirst
        rw [Bool.not_eq_true'] at hstuck
        exact .inr (.inl ⟨r, List.mem_of_find?_eq_some hfirst, hstuck, rfl, rfl⟩)
      | nil =>
        rw [hdrop] at h
        cases h
        have hcopy := List.dropWhile_eq_nil_iff.mp hdrop
        rw [List.takeWhile_eq_self_iff.mpr hcopy] at hreg
        exact .inr (.inr ⟨hcopy, hreg, rfl⟩)

/-- What is filed are the rules before the first for which something cannot be copied, up to the
first of them that is barred. -/
theorem fileRules_store (s : Store) (calls : Nat) (a : String) (rules : List Rule) :
    (s.fileRules calls a rules).2 =
      (s.registerRules a (rules.takeWhile (s.canCopy calls))).2 := by
  rcases hfile : s.fileRules calls a rules with ⟨x, s'⟩
  obtain ⟨f, hreg, -⟩ | ⟨r, -, -, hreg, -⟩ | ⟨hcopy, hreg, -⟩ := fileRules_cases hfile
  · rw [hreg]
  · rw [hreg]
  · rw [List.takeWhile_eq_self_iff.mpr hcopy, hreg]

theorem fileRules_frame (s : Store) (calls : Nat) (a : String) (rules : List Rule) :
    (s.fileRules calls a rules).2 = { s with rules := (s.fileRules calls a rules).2.rules } := by
  rw [fileRules_store]
  exact registerRules_store s a _

theorem fileRules_eq_ok : s.fileRules calls a rules = (.ok (), s') ↔
    s.registerRules a rules = (.ok (), s') ∧ (∀ r ∈ rules, s.canCopy calls r = true) ∧
      ∀ r ∈ s'.rules, r.canBeCopied calls = true := by
  constructor
  · intro h
    obtain ⟨f, -, hx⟩ | ⟨r, -, -, -, hx⟩ | ⟨hcopy, hreg, hx⟩ := fileRules_cases h
    · cases hx
    · cases hx
    · split at hx
      case isTrue hall => exact ⟨hreg, hcopy, List.all_eq_true.mp hall⟩
      case isFalse => cases hx
  · rintro ⟨hreg, hcopy, hall⟩
    rw [fileRules, List.takeWhile_eq_self_iff.mpr hcopy, hreg]
    dsimp only
    rw [List.dropWhile_eq_nil_iff.mpr hcopy]
    dsimp only
    rw [if_pos (List.all_eq_true.mpr hall)]

/-- Rules that can be registered are filed where the rules of the store can be copied, and they as
well. -/
theorem fileRules_of_registerRules (h : s.registerRules a rules = (.ok (), s'))
    (hs : ∀ r ∈ s.rules, r.canBeCopied calls = true)
    (hrules : ∀ r ∈ rules, r.canBeCopied calls = true) :
    s.fileRules calls a rules = (.ok (), s') := by
  refine fileRules_eq_ok.mpr ⟨h, fun r hr => ?_, fun r hr => ?_⟩
  · rw [canCopy, hrules r hr, Bool.true_and, Option.all_eq_true]
    exact fun known hk => hs known (Table.mem_of_find? hk).1
  · rw [registerRules_ok h] at hr
    obtain hr | hr := Table.mem_insertAll hr
    · exact hs r hr
    · exact hrules r hr

theorem Barred.ne_nestedTooDeep (h : s.Barred a r f) : f ≠ .nestedTooDeep := by
  cases h with
  | foreign => exact nofun
  | taken => exact nofun

theorem registerRules_ne_nestedTooDeep (s : Store) (a : String) (rules : List Rule) :
    (s.registerRules a rules).1 ≠ .error .nestedTooDeep := by
  induction rules generalizing s with
  | nil => exact nofun
  | cons r rules ih =>
    rw [registerRules]
    cases hf : s.registrationFault? a r with
    | some f =>
      rintro ⟨⟩
      exact (registrationFault?_eq_some.mp hf).ne_nestedTooDeep rfl
    | none => exact ih (s.putRule r)

theorem exists_of_not_canCopy (h : s.canCopy calls r = false) :
    ∃ x, (x ∈ s.rules ∨ x = r) ∧ x.canBeCopied calls = false := by
  rw [canCopy, Bool.and_eq_false_iff] at h
  obtain hown | hknown := h
  · exact ⟨r, .inr rfl, hown⟩
  · cases hk : Table.find? Rule.id s.rules r.id with
    | none =>
      rw [hk] at hknown
      cases hknown
    | some known =>
      rw [hk] at hknown
      exact ⟨known, .inl (Table.mem_of_find? hk).1, hknown⟩

/-- Filing fails for want of room only where a rule of the store or of the list is too high. -/
theorem exists_of_fileRules (h : s.fileRules calls a rules = (.error .nestedTooDeep, s')) :
    ∃ r, (r ∈ s.rules ∨ r ∈ rules) ∧ r.canBeCopied calls = false := by
  obtain ⟨f, hreg, hx⟩ | ⟨r, hr, hstuck, -, -⟩ | ⟨-, hreg, hx⟩ := fileRules_cases h
  · cases hx
    exact absurd (congrArg Prod.fst hreg) (registerRules_ne_nestedTooDeep s a _)
  · obtain ⟨x, hx, hcopy⟩ := exists_of_not_canCopy hstuck
    refine ⟨x, hx.imp_right ?_, hcopy⟩
    rintro rfl
    exact hr
  · split at hx
    case isTrue => cases hx
    case isFalse hall =>
      rw [Bool.not_eq_true, List.all_eq_false] at hall
      obtain ⟨r, hr, hcopy⟩ := hall
      rw [registerRules_ok hreg] at hr
      exact ⟨r, Table.mem_insertAll hr, Bool.not_eq_true _ ▸ hcopy⟩

end CloudAudit.Store
