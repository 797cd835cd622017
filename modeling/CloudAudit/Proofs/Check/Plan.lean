import Mathlib.Data.List.TakeWhile
import CloudAudit.Check.Placement

namespace CloudAudit.Plan

open Text

variable {cs ds stop front tail : List Char}

/-- One or more decimal digits, of any script. -/
structure IsNumber (ds : List Char) : Prop where
  nonempty : ds ≠ []
  digits : ∀ c ∈ ds, isDecimalDigit c = true

theorem IsNumber.reverse (h : IsNumber ds) : IsNumber ds.reverse where
  nonempty := by
    intro he
    exact h.nonempty (List.reverse_eq_nil_iff.mp he)
  digits := by
    intro c hc
    exact h.digits c (List.mem_reverse.mp hc)

theorem IsNumber.not_mem {c : Char} (h : IsNumber ds) (hc : isDecimalDigit c = false) : c ∉ ds := by
  intro hm
  rw [h.digits c hm] at hc
  cases hc

theorem span_number (h : IsNumber ds) (rest : List Char) :
    (ds ++ '-' :: rest).takeWhile isDecimalDigit = ds ∧
      (ds ++ '-' :: rest).dropWhile isDecimalDigit = '-' :: rest := by
  have hhyphen : ¬ isDecimalDigit '-' = true := by decide
  constructor
  · rw [List.takeWhile_append_of_pos h.digits, List.takeWhile_cons_of_neg hhyphen, List.append_nil]
  · rw [List.dropWhile_append_of_pos h.digits, List.dropWhile_cons_of_neg hhyphen]

theorem number_of_span {c : Char} (ht : cs.takeWhile isDecimalDigit = c :: ds)
    (hd : cs.dropWhile isDecimalDigit = '-' :: tail) :
    IsNumber (c :: ds) ∧ cs = c :: ds ++ '-' :: tail := by
  constructor
  · constructor
    · exact List.cons_ne_nil _ _
    · intro x hx
      rw [← ht] at hx
      exact List.mem_takeWhile_imp hx
  · rw [← ht, ← hd]
    exact List.takeWhile_append_dropWhile.symm

def Classed (cs : List Char) : Prop :=
  ∃ ds tail, IsNumber ds ∧ cs = 'g' :: (ds ++ '-' :: tail)

/-- The plan ends in a size, perhaps with a line end behind it. -/
def Sized (cs : List Char) : Prop :=
  ∃ front ds stop, IsNumber ds ∧ (stop = [] ∨ stop = ['\n']) ∧ cs = front ++ '-' :: (ds ++ stop)

theorem dropClass_classed (h : IsNumber ds) : dropClass ('g' :: (ds ++ '-' :: tail)) = tail := by
  obtain ⟨ht, hd⟩ := span_number h tail
  obtain ⟨c, ds', hc⟩ := List.exists_cons_of_ne_nil h.nonempty
  rw [dropClass, ht, hd, hc]
  rfl

theorem dropClass_of_not_classed (h : ¬ Classed cs) : dropClass cs = cs := by
  unfold dropClass
  split
  case h_1 rest =>
    split
    case h_1 c ds tail ht hd =>
      obtain ⟨hn, rfl⟩ := number_of_span ht hd
      exact absurd ⟨_, _, hn, rfl⟩ h
    case h_2 => rfl
  case h_2 => rfl

theorem classed_iff : Classed cs ↔ dropClass cs ≠ cs := by
  constructor
  · rintro ⟨ds, tail, hn, rfl⟩ he
    rw [dropClass_classed hn] at he
    have hlength := congrArg List.length he
    simp only [List.length_cons, List.length_append] at hlength
    omega
  · intro h
    by_contra hn
    exact h (dropClass_of_not_classed hn)

instance : DecidablePred Classed := fun _ => decidable_of_iff _ classed_iff.symm

theorem dropSizeAtEnd_sized (h : IsNumber ds) : dropSizeAtEnd (front ++ '-' :: ds) = front := by
  have hback : (front ++ '-' :: ds).reverse = ds.reverse ++ '-' :: front.reverse := by
    rw [List.reverse_append, List.reverse_cons, List.append_assoc, List.singleton_append]
  obtain ⟨ht, hd⟩ := span_number h.reverse front.reverse
  obtain ⟨c, ds', hc⟩ := List.exists_cons_of_ne_nil h.reverse.nonempty
  rw [dropSizeAtEnd, hback, ht, hd, hc]
  exact List.reverse_reverse front

theorem dropSizeAtEnd_cases (cs : List Char) : dropSizeAtEnd cs = cs ∨
    ∃ front ds, IsNumber ds ∧ cs = front ++ '-' :: ds := by
  unfold dropSizeAtEnd
  dsimp only
  split
  case h_1 c ds rest ht hd =>
    obtain ⟨hn, hback⟩ := number_of_span ht hd
    right
    refine ⟨rest.reverse, (c :: ds).reverse, hn.reverse, ?_⟩
    rw [← List.reverse_reverse cs, hback, List.reverse_append, List.reverse_cons, List.append_assoc,
      List.singleton_append]
  case h_2 => exact .inl rfl

theorem dropSize_sized (h : IsNumber ds) (hstop : stop = [] ∨ stop = ['\n']) :
    dropSize (front ++ '-' :: (ds ++ stop)) = front ++ stop := by
  unfold dropSize
  cases hstop with
  | inl hstop =>
    subst hstop
    have hlast : (front ++ '-' :: (ds ++ [])).getLast? ≠ some '\n' := by
      intro hl
      rw [List.append_nil, List.getLast?_append, List.getLast?_cons_of_ne_nil h.nonempty] at hl
      obtain hl | ⟨hnone, -⟩ := Option.or_eq_some_iff.mp hl
      · exact h.not_mem (by decide) (List.mem_of_getLast? hl)
      · exact h.nonempty (List.getLast?_eq_none_iff.mp hnone)
    split
    case h_1 hl => exact absurd hl hlast
    case h_2 =>
      rw [List.append_nil, List.append_nil]
      exact dropSizeAtEnd_sized h
  | inr hstop =>
    subst hstop
    have hsplit : front ++ '-' :: (ds ++ ['\n']) = (front ++ '-' :: ds) ++ ['\n'] := by
      rw [List.append_assoc, List.cons_append]
    rw [hsplit, List.getLast?_concat, List.dropLast_concat]
    change dropSizeAtEnd _ ++ ['\n'] = _
    rw [dropSizeAtEnd_sized h]

theorem dropSize_of_not_sized (h : ¬ Sized cs) : dropSize cs = cs := by
  unfold dropSize
  split
  case h_1 hl =>
    obtain ⟨line, rfl⟩ := List.getLast?_eq_some_iff.mp hl
    rw [List.dropLast_concat]
    obtain he | ⟨front, ds, hn, rfl⟩ := dropSizeAtEnd_cases line
    · rw [he]
    · refine absurd ⟨front, ds, ['\n'], hn, .inr rfl, ?_⟩ h
      rw [List.append_assoc, List.cons_append]
  case h_2 =>
    obtain he | ⟨front, ds, hn, rfl⟩ := dropSizeAtEnd_cases cs
    · exact he
    · refine absurd ⟨front, ds, [], hn, .inl rfl, ?_⟩ h
      rw [List.append_nil]

theorem sized_iff : Sized cs ↔ dropSize cs ≠ cs := by
  constructor
  · rintro ⟨front, ds, stop, hn, hstop, rfl⟩ he
    rw [dropSize_sized hn hstop] at he
    have hlength := congrArg List.length he
    simp only [List.length_cons, List.length_append] at hlength
    omega
  · intro h
    by_contra hn
    exact h (dropSize_of_not_sized hn)

instance : DecidablePred Sized := fun _ => decidable_of_iff _ sized_iff.symm

theorem tier_eq {plan t : String} (h : dropSize (dropClass plan.toList) = t.toList) :
    tier plan = t := by
  rw [tier, h, String.ofList_toList]

theorem toList_plan (n t : String) : ("g" ++ n ++ "-" ++ t).toList =
    'g' :: (n.toList ++ '-' :: t.toList) := by
  have hg : "g".toList = ['g'] := rfl
  have hhyphen : "-".toList = ['-'] := rfl
  simp only [String.toList_append, hg, hhyphen, List.append_assoc, List.nil_append,
    List.cons_append]

theorem dropSize_number {m : String} (t : String) (h : IsNumber m.toList) :
    dropSize (t ++ "-" ++ m).toList = t.toList := by
  have hsized : dropSize (t.toList ++ '-' :: (m.toList ++ [])) = t.toList ++ [] :=
    dropSize_sized h (.inl rfl)
  have hhyphen : "-".toList = ['-'] := rfl
  rw [List.append_nil, List.append_nil] at hsized
  rw [String.toList_append, String.toList_append, hhyphen, List.append_assoc, List.singleton_append]
  exact hsized

/-- The tier is what stands between the class and the size of a plan, whatever that is: it may hold
hyphens, digits and line ends, and look like a plan itself. A plan without a class or without a size
loses the other one only. -/
theorem tier_strips (t : String) :
    (∀ n m : String, IsNumber n.toList → IsNumber m.toList →
      tier ("g" ++ n ++ "-" ++ t ++ "-" ++ m) = t) ∧
    (∀ n : String, IsNumber n.toList → ¬ Sized t.toList → tier ("g" ++ n ++ "-" ++ t) = t) ∧
    (∀ m : String, IsNumber m.toList → ¬ Classed (t ++ "-" ++ m).toList →
      tier (t ++ "-" ++ m) = t) ∧
    (¬ Classed t.toList → ¬ Sized t.toList → tier t = t) := by
  refine ⟨?_, ?_, ?_, ?_⟩
  · intro n m hn hm
    have hinner : "g" ++ n ++ "-" ++ t ++ "-" ++ m = "g" ++ n ++ "-" ++ (t ++ "-" ++ m) := by
      simp only [String.append_assoc]
    apply tier_eq
    rw [hinner, toList_plan, dropClass_classed hn]
    exact dropSize_number t hm
  · intro n hn ht
    apply tier_eq
    rw [toList_plan, dropClass_classed hn]
    exact dropSize_of_not_sized ht
  · intro m hm hplan
    apply tier_eq
    rw [dropClass_of_not_classed hplan]
    exact dropSize_number t hm
  · intro hclass hsize
    apply tier_eq
    rw [dropClass_of_not_classed hclass]
    exact dropSize_of_not_sized hsize

/-- What stands in between looks like a plan with a line end; a class that is none, and a size that
is none. -/
theorem tier_strips_nested :
    (IsNumber "6".toList ∧ IsNumber "٣8".toList ∧
      tier ("g" ++ "6" ++ "-" ++ "g7-x-2\n-5" ++ "-" ++ "٣8") = "g7-x-2\n-5") ∧
    (¬ Sized "x-2-\n".toList ∧ tier ("g" ++ "6" ++ "-" ++ "x-2-\n") = "x-2-\n") ∧
    (¬ Classed ("G6-x" ++ "-" ++ "6").toList ∧ tier ("G6-x" ++ "-" ++ "6") = "G6-x") ∧
    ¬ Classed "g-x".toList ∧ ¬ Sized "g-x".toList ∧ tier "g-x" = "g-x" := by
  have h6 : IsNumber "6".toList := ⟨by decide, by decide⟩
  have h38 : IsNumber "٣8".toList := ⟨by decide, by decide⟩
  have hsized : ¬ Sized "x-2-\n".toList := by decide
  have hclassed : ¬ Classed ("G6-x" ++ "-" ++ "6").toList := by decide
  have hplain : ¬ Classed "g-x".toList ∧ ¬ Sized "g-x".toList := by decide
  obtain ⟨hboth, -⟩ := tier_strips "g7-x-2\n-5"
  obtain ⟨-, hclass, -⟩ := tier_strips "x-2-\n"
  obtain ⟨-, -, hsize, -⟩ := tier_strips "G6-x"
  obtain ⟨-, -, -, hnone⟩ := tier_strips "g-x"
  exact ⟨⟨h6, h38, hboth _ _ h6 h38⟩, ⟨hsized, hclass _ h6 hsized⟩,
    ⟨hclassed, hsize _ h6 hclassed⟩, hplain.1, hplain.2, hnone hplain.1 hplain.2⟩

end CloudAudit.Plan
