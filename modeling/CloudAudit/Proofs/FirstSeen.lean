import Mathlib.Data.List.Basic
import Mathlib.Data.List.Nodup
import CloudAudit.Proofs.Result

namespace CloudAudit

variable {α : Type} [BEq α] [LawfulBEq α] {xs ys new : List α} {x : α}

/-- `ys` has the items of `xs`, each once and in the order in which they first appear there. -/
structure FirstSeen (xs ys : List α) : Prop where
  distinct : ys.Nodup
  mem : ∀ x, x ∈ ys ↔ x ∈ xs
  order : ys.Pairwise fun x y => xs.idxOf x < xs.idxOf y

namespace FirstSeen

omit [LawfulBEq α] in
theorem nil : FirstSeen ([] : List α) [] :=
  ⟨.nil, fun _ => .rfl, .nil⟩

theorem order_append (h : FirstSeen xs ys) (new : List α) :
    ys.Pairwise fun x y => (xs ++ new).idxOf x < (xs ++ new).idxOf y := by
  refine h.order.imp_of_mem ?_
  intro x y hx hy hlt
  rwa [List.idxOf_append_of_mem ((h.mem x).mp hx), List.idxOf_append_of_mem ((h.mem y).mp hy)]

theorem known (h : FirstSeen xs ys) (hx : x ∈ ys) : FirstSeen (xs ++ [x]) ys := by
  refine ⟨h.distinct, ?_, h.order_append [x]⟩
  intro y
  rw [List.mem_append, List.mem_singleton, h.mem y]
  refine ⟨.inl, ?_⟩
  rintro (hy | rfl)
  · exact hy
  · exact (h.mem y).mp hx

theorem fresh (h : FirstSeen xs ys) (hx : x ∉ ys) : FirstSeen (xs ++ [x]) (ys ++ [x]) := by
  have hxs : x ∉ xs := fun hm => hx ((h.mem x).mpr hm)
  refine ⟨?_, ?_, ?_⟩
  · exact List.concat_eq_append ▸ h.distinct.concat hx
  · intro y
    rw [List.mem_append, List.mem_append, h.mem y]
  · refine List.pairwise_append.mpr ⟨h.order_append [x], List.pairwise_singleton _ x, ?_⟩
    intro y hy z hz
    have hyx : y ∈ xs := (h.mem y).mp hy
    rw [List.mem_singleton.mp hz, List.idxOf_append_of_mem hyx, List.idxOf_append_of_notMem hxs]
    have hlt : xs.idxOf y < xs.length := List.idxOf_lt_length_of_mem hyx
    omega

theorem foldl (h : FirstSeen xs ys) (new : List α) :
    FirstSeen (xs ++ new) (new.foldl (fun ys x => if ys.contains x then ys else ys ++ [x]) ys) := by
  induction new generalizing xs ys with
  | nil => rwa [List.append_nil]
  | cons x new ih =>
    rw [List.foldl_cons, List.append_cons]
    apply ih
    split
    case isTrue hx => exact h.known (List.contains_iff_mem.mp hx)
    case isFalse hx => exact h.fresh fun hm => hx (List.contains_iff_mem.mpr hm)

omit [LawfulBEq α] in
theorem foldlM {ε β σ : Type} {step : σ → β → Except ε σ} {item? : β → Option α}
    {g : σ → List α} {bs : List β} {s s' : σ}
    (hstep : ∀ b ∈ bs, ∀ xs s s', FirstSeen xs (g s) → step s b = .ok s' →
      FirstSeen (xs ++ (item? b).toList) (g s'))
    (h : FirstSeen xs (g s)) (hok : bs.foldlM step s = .ok s') :
    FirstSeen (xs ++ bs.filterMap item?) (g s') := by
  induction bs generalizing xs s with
  | nil =>
    cases hok
    rwa [List.filterMap_nil, List.append_nil]
  | cons b bs ih =>
    rw [List.foldlM_cons] at hok
    obtain ⟨s₁, h₁, hok⟩ := Result.bind_eq_ok.mp hok
    have hb := hstep b List.mem_cons_self xs s s₁ h h₁
    have hbs := ih (fun b hm => hstep b (List.mem_cons_of_mem _ hm)) hb hok
    rw [List.filterMap_cons]
    cases hi : item? b with
    | none => rwa [hi, Option.toList_none, List.append_nil] at hbs
    | some x => rwa [hi, Option.toList_some, List.append_assoc] at hbs

omit [LawfulBEq α] in
theorem eq_nil_iff (h : FirstSeen xs ys) : ys = [] ↔ xs = [] := by
  simp only [List.eq_nil_iff_forall_not_mem, h.mem]

end FirstSeen

end CloudAudit
