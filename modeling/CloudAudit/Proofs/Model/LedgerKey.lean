import CloudAudit.Model.Finding

namespace CloudAudit

/-- What a finding is about: a rule, and a resource or the account. -/
structure Pair where
  rule : String
  resource : Option String

def Pair.key (p : Pair) : String := ledgerKey p.rule p.resource

/-- Two different pairs with one key. -/
inductive Pair.Clash : Pair → Pair → Prop
  /-- The account, and a resource without a name. -/
  | blank (rule : String) : Clash ⟨rule, none⟩ ⟨rule, some ""⟩
  /-- The words between two colons end the one rule's identifier or begin the other resource's. -/
  | shift (rule middle : String) (resource : Option String) :
    Clash ⟨rule ++ ":" ++ middle, resource⟩ ⟨rule, some (middle ++ ":" ++ resource.getD "")⟩

namespace Pair

variable {p q : Pair}

theorem Clash.key_eq (h : p.Clash q) : p.key = q.key := by
  cases h with
  | blank rule => rfl
  | shift rule middle resource =>
    rw [key, key, ledgerKey, ledgerKey, Option.getD_some]
    simp only [String.append_assoc]

theorem Clash.marked (h : p.Clash q) : ':' ∈ p.rule.toList ∨ q.resource = some "" := by
  cases h with
  | blank rule => exact .inr rfl
  | shift rule middle resource =>
    left
    simp only [String.toList_append, List.mem_append]
    exact .inl (.inr (by decide))

/-- Where two texts with a colon are the same, the colons stand in one place, or the first part of
one text goes on beyond the colon of the other. -/
theorem split_cases {a b c d : List Char} (h : a ++ ':' :: b = c ++ ':' :: d) :
    a = c ∧ b = d ∨ (∃ m, c = a ++ ':' :: m ∧ b = m ++ ':' :: d) ∨
      ∃ m, a = c ++ ':' :: m ∧ d = m ++ ':' :: b := by
  obtain ⟨m, hc, hb⟩ | ⟨m, ha, hd⟩ := List.append_eq_append_iff.mp h
  · cases m with
    | nil =>
      rw [List.append_nil] at hc
      exact .inl ⟨hc.symm, (List.cons.inj hb).2⟩
    | cons x m =>
      obtain ⟨rfl, rfl⟩ := List.cons.inj hb
      exact .inr (.inl ⟨m, hc, rfl⟩)
  · cases m with
    | nil =>
      rw [List.append_nil] at ha
      exact .inl ⟨ha, (List.cons.inj hd).2.symm⟩
    | cons x m =>
      obtain ⟨rfl, rfl⟩ := List.cons.inj hd
      exact .inr (.inr ⟨m, ha, rfl⟩)

theorem toList_joined (s t : String) : (s ++ ":" ++ t).toList = s.toList ++ ':' :: t.toList := by
  rw [String.toList_append, String.toList_append, List.append_assoc]
  rfl

theorem clash_of_split {p q : Pair} {m : List Char} (h : p.rule.toList = q.rule.toList ++ ':' :: m)
    (h' : (q.resource.getD "").toList = m ++ ':' :: (p.resource.getD "").toList) : p.Clash q := by
  obtain ⟨rule, resource⟩ := p
  obtain ⟨rule', resource'⟩ := q
  have hr : rule = rule' ++ ":" ++ String.ofList m := by
    rw [← String.toList_inj, toList_joined, String.toList_ofList]
    exact h
  have hx : resource'.getD "" = String.ofList m ++ ":" ++ resource.getD "" := by
    rw [← String.toList_inj, toList_joined, String.toList_ofList]
    exact h'
  cases resource' with
  | none =>
    exact absurd (congrArg List.length h') (by simp)
  | some resource' =>
    rw [Option.getD_some] at hx
    rw [hr, hx]
    exact .shift rule' (String.ofList m) resource

/-- Pairs with one key are the same, or they clash. -/
theorem key_eq_iff : p.key = q.key ↔ p = q ∨ p.Clash q ∨ q.Clash p := by
  constructor
  · intro h
    have hl := congrArg String.toList h
    rw [key, key, ledgerKey, ledgerKey, toList_joined, toList_joined] at hl
    obtain ⟨hr, hx⟩ | ⟨m, hr, hx⟩ | ⟨m, hr, hx⟩ := split_cases hl
    · obtain ⟨rule, resource⟩ := p
      obtain ⟨rule', resource'⟩ := q
      obtain rfl := String.toList_inj.mp hr
      have hx := String.toList_inj.mp hx
      match resource, resource', hx with
      | none, none, _ => exact .inl rfl
      | none, some _, rfl => exact .inr (.inl (.blank rule))
      | some _, none, rfl => exact .inr (.inr (.blank rule))
      | some _, some _, rfl => exact .inl rfl
    · exact .inr (.inr (clash_of_split hr hx))
    · exact .inr (.inl (clash_of_split hr hx))
  · rintro (rfl | h | h)
    · rfl
    · exact h.key_eq
    · exact h.key_eq.symm

end Pair

end CloudAudit
