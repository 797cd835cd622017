import Mathlib.Algebra.BigOperators.Group.List.Basic
import Mathlib.Algebra.Ring.Int.Defs
import Mathlib.Data.List.Induction
import Mathlib.Data.List.Nodup
import CloudAudit.Model.Id

namespace CloudAudit.Table

variable {α β κ : Type} [DecidableEq κ] {key : α → κ} {x y : α} {rows : List α} {k : κ}

theorem mem_of_find? (h : find? key rows k = some x) : x ∈ rows ∧ key x = k :=
  ⟨List.mem_of_find?_eq_some h, by simpa using List.find?_some h⟩

theorem find?_isSome : (find? key rows k).isSome ↔ ∃ x ∈ rows, key x = k := by
  rw [find?, List.find?_isSome]
  simp only [decide_eq_true_eq]

theorem lookup_eq_ok {ε : Type} {e : ε} :
    (find? key rows k).elim (.error e) Except.ok = .ok x ↔ find? key rows k = some x := by
  cases find? key rows k with
  | none => exact iff_of_false nofun nofun
  | some y =>
    constructor
    · intro h
      exact congrArg some (Except.ok.inj h)
    · intro h
      exact congrArg Except.ok (Option.some.inj h)

theorem lookup_ok {ε : Type} {e : ε} (h : (find? key rows k).elim (.error e) Except.ok = .ok x) :
    x ∈ rows ∧ key x = k :=
  mem_of_find? (lookup_eq_ok.mp h)

theorem upsert_of_find?_eq_none (h : find? key rows (key x) = none) :
    upsert key x rows = rows ++ [x] := by
  induction rows with
  | nil => rfl
  | cons y rows ih =>
    rw [find?, List.find?_cons] at h
    split at h
    · cases h
    case h_2 hy =>
      rw [upsert, if_neg (of_decide_eq_false hy), ih h]
      rfl

theorem upsert_of_find?_eq_some (h : find? key rows (key x) = some y) :
    ∃ before after, rows = before ++ y :: after ∧ upsert key x rows = before ++ x :: after := by
  induction rows with
  | nil => cases h
  | cons z rows ih =>
    rw [find?, List.find?_cons] at h
    split at h
    case h_1 hz =>
      cases h
      exact ⟨[], rows, rfl, by rw [upsert, if_pos (of_decide_eq_true hz)]; rfl⟩
    case h_2 hz =>
      obtain ⟨before, after, he, hu⟩ := ih h
      exact ⟨z :: before, after, by rw [he]; rfl,
        by rw [upsert, if_neg (of_decide_eq_false hz), hu]; rfl⟩

theorem upsert_upsert (h : key x = key y) :
    upsert key y (upsert key x rows) = upsert key y rows := by
  induction rows with
  | nil => exact if_pos h
  | cons z rows ih =>
    rw [upsert, upsert]
    split
    case isTrue hz => rw [upsert, if_pos h, if_pos (hz.trans h)]
    case isFalse hz =>
      have hz' : key z ≠ key y := h ▸ hz
      rw [upsert, ih, if_neg hz', if_neg hz']

theorem upsert_found (h : find? key rows (key x) = some x) : upsert key x rows = rows := by
  obtain ⟨before, after, he, hu⟩ := upsert_of_find?_eq_some h
  exact hu.trans he.symm

theorem mem_of_mem_replaced {before after : List α} (h : y ∈ before ++ x :: after) (z : α) :
    y = x ∨ y ∈ before ++ z :: after := by
  obtain h | h := List.mem_append.mp h
  · exact .inr (List.mem_append_left _ h)
  · exact (List.mem_cons.mp h).imp_right fun h =>
      List.mem_append_right _ (List.mem_cons_of_mem z h)

theorem mem_upsert (h : y ∈ upsert key x rows) : y = x ∨ y ∈ rows := by
  induction rows with
  | nil => exact .inl (List.mem_singleton.mp h)
  | cons z rows ih =>
    rw [upsert] at h
    split at h
    · exact (List.mem_cons.mp h).imp_right (List.mem_cons_of_mem z)
    · obtain rfl | h := List.mem_cons.mp h
      · exact .inr List.mem_cons_self
      · exact (ih h).imp_right (List.mem_cons_of_mem z)

theorem mem_insertAll {new : List α} (h : y ∈ insertAll key rows new) : y ∈ rows ∨ y ∈ new := by
  induction new generalizing rows with
  | nil => exact .inl h
  | cons x new ih =>
    change y ∈ insertAll key (upsert key x rows) new at h
    obtain h | h := ih h
    · obtain rfl | h := mem_upsert h
      · exact .inr List.mem_cons_self
      · exact .inl h
    · exact .inr (List.mem_cons_of_mem x h)

theorem mem_ofList (h : y ∈ ofList key rows) : y ∈ rows :=
  (mem_insertAll h).resolve_left List.not_mem_nil

theorem filter_upsert {p : α → Bool} (hx : p x = false)
    (hk : ∀ y, find? key rows (key x) = some y → p y = false) :
    (upsert key x rows).filter p = rows.filter p := by
  cases hf : find? key rows (key x) with
  | none =>
    rw [upsert_of_find?_eq_none hf, List.filter_append, List.filter_cons_of_neg (by simp [hx]),
      List.filter_nil, List.append_nil]
  | some y =>
    obtain ⟨before, after, he, hu⟩ := upsert_of_find?_eq_some hf
    rw [hu, he, List.filter_append, List.filter_append, List.filter_cons_of_neg (by simp [hx]),
      List.filter_cons_of_neg (by simp [hk y hf])]

theorem upsert_keys_nodup (h : (rows.map key).Nodup) : ((upsert key x rows).map key).Nodup := by
  cases hf : find? key rows (key x) with
  | none =>
    rw [upsert_of_find?_eq_none hf, List.map_append, List.nodup_append]
    refine ⟨h, List.nodup_singleton _, ?_⟩
    intro i hi j hj
    obtain ⟨y, hy, rfl⟩ := List.mem_map.mp hi
    rw [List.map_singleton, List.mem_singleton] at hj
    intro he
    have hs := find?_isSome.mpr ⟨y, hy, he.trans hj⟩
    rw [hf] at hs
    cases hs
  | some y =>
    obtain ⟨before, after, he, hu⟩ := upsert_of_find?_eq_some hf
    rw [hu, List.map_append, List.map_cons, ← (mem_of_find? hf).2]
    rwa [he, List.map_append, List.map_cons] at h

theorem find?_upsert : find? key (upsert key x rows) k =
    if k = key x then some x else find? key rows k := by
  have cons (z : α) (rows : List α) :
      find? key (z :: rows) k = if k = key z then some z else find? key rows k := by
    rw [find?, List.find?_cons]
    by_cases h : k = key z
    · rw [if_pos h, decide_eq_true h.symm]
    · rw [if_neg h, decide_eq_false (Ne.symm h)]
      rfl
  induction rows with
  | nil => exact cons x []
  | cons z rows ih =>
    rw [upsert]
    split
    case isTrue hz =>
      rw [cons, cons, hz]
      split <;> rfl
    case isFalse hz =>
      rw [cons, cons, ih]
      by_cases h : k = key z
      · rw [if_pos h, if_pos h, if_neg (fun he => hz (h.symm.trans he))]
      · rw [if_neg h, if_neg h]

theorem lookup_upsert {rows : List (κ × β)} {b : β} {i : κ} :
    (upsert Prod.fst (k, b) rows).lookup i = if i = k then some b else rows.lookup i := by
  have cons (j : κ) (c : β) (rows : List (κ × β)) :
      List.lookup i ((j, c) :: rows) = if i = j then some c else rows.lookup i := by
    rw [List.lookup_cons]
    by_cases h : i = j
    · rw [if_pos h, h, beq_self_eq_true]
    · rw [if_neg h, beq_false_of_ne h]
  induction rows with
  | nil => exact cons k b []
  | cons row rows ih =>
    obtain ⟨j, c⟩ := row
    rw [upsert]
    split
    case isTrue hj =>
      cases hj
      rw [cons, cons]
      by_cases h : i = k
      · rw [if_pos h, if_pos h]
      · rw [if_neg h, if_neg h, if_neg h]
    case isFalse hj =>
      rw [cons, cons, ih]
      by_cases h : i = k
      · rw [if_pos h, if_pos h, if_neg (fun he => hj (he.symm.trans h))]
      · rw [if_neg h, if_neg h]

theorem lookup_of_mem {rows : List (κ × β)} {b : β} (h : (rows.map Prod.fst).Nodup)
    (hm : (k, b) ∈ rows) : rows.lookup k = some b := by
  induction rows with
  | nil => cases hm
  | cons row rows ih =>
    obtain ⟨j, c⟩ := row
    rw [List.map_cons, List.nodup_cons] at h
    rw [List.lookup_cons]
    obtain hm | hm := List.mem_cons.mp hm
    · cases hm
      simp
    · have hk : k ≠ j := fun he => h.1 (List.mem_map.mpr ⟨(k, b), hm, he⟩)
      rw [beq_false_of_ne hk]
      exact ih h.2 hm

theorem mem_of_lookup {rows : List (κ × β)} {b : β} (h : rows.lookup k = some b) :
    (k, b) ∈ rows := by
  induction rows with
  | nil => cases h
  | cons row rows ih =>
    obtain ⟨j, c⟩ := row
    rw [List.lookup_cons] at h
    by_cases hk : k = j
    · subst hk
      rw [beq_self_eq_true] at h
      cases h
      exact List.mem_cons_self
    · rw [beq_false_of_ne hk] at h
      exact List.mem_cons_of_mem _ (ih h)

omit [DecidableEq κ] in
/-- Where each row gives rows with its own key only, those with some keys are given by the rows with
these keys. -/
theorem filter_flatMap {f : α → List β} {key' : β → κ}
    (h : ∀ x ∈ rows, ∀ y ∈ f x, key' y = key x) (p : κ → Bool) :
    (rows.flatMap f).filter (p <| key' ·) = (rows.filter (p <| key ·)).flatMap f := by
  induction rows with
  | nil => rfl
  | cons x rows ih =>
    have hx := h x List.mem_cons_self
    rw [List.flatMap_cons, List.filter_append, ih fun y hy => h y (List.mem_cons_of_mem _ hy),
      List.filter_cons]
    by_cases hp : p (key x)
    · rw [if_pos hp, List.flatMap_cons, List.filter_eq_self.mpr fun y hy => by rw [hx y hy, hp]]
    · rw [if_neg hp, List.filter_eq_nil_iff.mpr fun y hy => by rw [hx y hy]; exact hp,
        List.nil_append]

theorem filter_key_eq_singleton (h : (rows.map key).Nodup) (hx : x ∈ rows) :
    rows.filter (key · == key x) = [x] := by
  induction rows with
  | nil => cases hx
  | cons y rows ih =>
    rw [List.map_cons, List.nodup_cons] at h
    obtain rfl | hx := List.mem_cons.mp hx
    · have hno : ∀ y ∈ rows, ¬(key y == key x) = true := by
        intro y hy he
        exact h.1 (List.mem_map.mpr ⟨y, hy, beq_iff_eq.mp he⟩)
      rw [List.filter_cons_of_pos (by simp), List.filter_eq_nil_iff.mpr hno]
    · have hne : key y ≠ key x := fun he => h.1 (List.mem_map.mpr ⟨x, hx, he.symm⟩)
      rw [List.filter_cons_of_neg (by simpa using hne), ih h.2 hx]

theorem sum_indicator {keys : List κ} (h : keys.Nodup) (hk : k ∈ keys) :
    (keys.map fun j => if k == j then (1 : Int) else 0).sum = 1 := by
  induction keys with
  | nil => cases hk
  | cons j keys ih =>
    obtain ⟨hj, hn⟩ := List.nodup_cons.mp h
    rw [List.map_cons, List.sum_cons]
    by_cases he : k = j
    · subst he
      have hzero : ∀ j ∈ keys, (if k == j then (1 : Int) else 0) = 0 := by
        intro j hjk
        have hne : k ≠ j := fun he => hj (by rwa [he])
        rw [beq_false_of_ne hne]
        rfl
      rw [List.map_congr_left hzero, beq_self_eq_true]
      simp
    · rw [ih hn ((List.mem_cons.mp hk).resolve_left he), beq_false_of_ne he]
      rfl

theorem sum_countP_key {keys : List κ} (h : keys.Nodup) (hm : ∀ x ∈ rows, key x ∈ keys) :
    (keys.map fun k => (rows.countP (key · == k) : Int)).sum = rows.length := by
  induction rows with
  | nil => simp
  | cons x rows ih =>
    have hx := sum_indicator h (hm x List.mem_cons_self)
    have hc (k : κ) : ((x :: rows).countP (key · == k) : Int) =
        rows.countP (key · == k) + if key x == k then 1 else 0 := by
      rw [List.countP_cons]
      split <;> rfl
    simp only [hc, List.sum_map_add, hx, ih fun y hy => hm y (List.mem_cons_of_mem x hy),
      List.length_cons]
    rfl

theorem flatMap_filter_key_perm {keys : List κ} (h : keys.Nodup) (hm : ∀ x ∈ rows, key x ∈ keys) :
    (keys.flatMap fun k => rows.filter (key · == k)).Perm rows := by
  induction keys generalizing rows with
  | nil =>
    rw [List.eq_nil_iff_forall_not_mem.mpr fun x hx => List.not_mem_nil (hm x hx)]
    exact .nil
  | cons k keys ih =>
    obtain ⟨hk, hn⟩ := List.nodup_cons.mp h
    have hothers (j : κ) (hj : j ∈ keys) : rows.filter (key · == j) =
        (rows.filter fun x => !(key x == k)).filter (key · == j) := by
      have hne : j ≠ k := fun he => hk (he ▸ hj)
      rw [List.filter_filter]
      refine List.filter_congr fun x _ => ?_
      by_cases hx : key x = j
      · simp [hx, hne]
      · simp [hx]
    have hrest : ∀ x ∈ rows.filter fun x => !(key x == k), key x ∈ keys := by
      intro x hx
      obtain ⟨hx, hne⟩ := List.mem_filter.mp hx
      exact (List.mem_cons.mp (hm x hx)).resolve_left (by simpa using hne)
    rw [List.flatMap_cons, List.flatMap_congr hothers]
    exact ((ih hn hrest).append_left _).trans (List.filter_append_perm (key · == k) rows)

theorem ofList_append_singleton (rows : List α) (x : α) :
    ofList key (rows ++ [x]) = upsert key x (ofList key rows) := by
  rw [ofList, insertAll, List.foldl_append]
  rfl

theorem find?_of_mem (h : (rows.map key).Nodup) (hx : x ∈ rows) :
    find? key rows (key x) = some x := by
  have hf := congrArg List.head? (filter_key_eq_singleton h hx)
  rwa [List.head?_filter] at hf

theorem find?_eq_none : find? key rows k = none ↔ ∀ y ∈ rows, key y ≠ k := by
  rw [find?, List.find?_eq_none]
  simp only [decide_eq_true_eq]

theorem lookup_error {ε : Type} {e fault : ε}
    (h : (find? key rows k).elim (.error e) Except.ok = .error fault) :
    fault = e ∧ ∀ x ∈ rows, key x ≠ k := by
  cases hf : find? key rows k with
  | none =>
    rw [hf] at h
    exact ⟨(Except.error.inj h).symm, find?_eq_none.mp hf⟩
  | some x =>
    rw [hf] at h
    cases h

theorem ofList_of_nodup (h : (rows.map key).Nodup) : ofList key rows = rows := by
  induction rows using List.reverseRecOn with
  | nil => rfl
  | append_singleton rows x ih =>
    rw [List.map_append, List.nodup_append] at h
    obtain ⟨hn, -, hne⟩ := h
    have hx : find? key rows (key x) = none := by
      rw [find?_eq_none]
      exact fun y hy => hne _ (List.mem_map_of_mem hy) _ (List.mem_singleton.mpr rfl)
    rw [ofList_append_singleton, ih hn, upsert_of_find?_eq_none hx]

/-! ### Putting in the same rows again -/

theorem map_key_upsert (h : key x ∈ rows.map key) : (upsert key x rows).map key = rows.map key := by
  obtain ⟨y, hy⟩ := Option.isSome_iff_exists.mp (find?_isSome.mpr (List.mem_map.mp h))
  obtain ⟨before, after, he, hu⟩ := upsert_of_find?_eq_some hy
  rw [hu, he, List.map_append, List.map_append, List.map_cons, List.map_cons, (mem_of_find? hy).2]

theorem map_key_insertAll {new : List α} (h : ∀ x ∈ new, key x ∈ rows.map key) :
    (insertAll key rows new).map key = rows.map key := by
  induction new generalizing rows with
  | nil => rfl
  | cons x new ih =>
    have hx := map_key_upsert (h x List.mem_cons_self)
    change (insertAll key (upsert key x rows) new).map key = _
    rw [ih fun y hy => hx ▸ h y (List.mem_cons_of_mem x hy), hx]

theorem insertAll_keys_nodup (h : (rows.map key).Nodup) (new : List α) :
    ((insertAll key rows new).map key).Nodup := by
  induction new generalizing rows with
  | nil => exact h
  | cons x new ih => exact ih (upsert_keys_nodup h)

theorem find?_insertAll (rows new : List α) (k : κ) :
    find? key (insertAll key rows new) k = (find? key new.reverse k).or (find? key rows k) := by
  induction new generalizing rows with
  | nil => rfl
  | cons x new ih =>
    change find? key (insertAll key (upsert key x rows) new) k = _
    have hrev : find? key (x :: new).reverse k =
        (find? key new.reverse k).or (if k = key x then some x else none) := by
      rw [List.reverse_cons, find?, List.find?_append, List.find?_singleton]
      simp only [decide_eq_true_eq, eq_comm (a := k), find?]
    rw [ih, hrev, find?_upsert, Option.or_assoc]
    split <;> rfl

theorem mem_map_key_insertAll {new : List α} (h : x ∈ new) :
    key x ∈ (insertAll key rows new).map key := by
  rw [List.mem_map, ← find?_isSome, find?_insertAll, Option.isSome_or, Bool.or_eq_true]
  exact .inl (find?_isSome.mpr ⟨x, List.mem_reverse.mpr h, rfl⟩)

theorem filterMap_find? (h : (rows.map key).Nodup) :
    (rows.map key).filterMap (find? key rows) = rows := by
  rw [List.filterMap_map]
  calc
    rows.filterMap (find? key rows ∘ key) = rows.filterMap some :=
      List.filterMap_congr fun x hx => find?_of_mem h hx
    _ = rows := List.filterMap_some

theorem eq_of_find? {rows' : List α} (h : (rows.map key).Nodup)
    (hk : rows'.map key = rows.map key) (hf : find? key rows' = find? key rows) : rows' = rows := by
  rw [← filterMap_find? h, ← hk, ← hf, filterMap_find? (hk ▸ h)]

theorem insertAll_insertAll (h : (rows.map key).Nodup) (new : List α) :
    insertAll key (insertAll key rows new) new = insertAll key rows new := by
  refine eq_of_find? (insertAll_keys_nodup h new) ?_ ?_
  · exact map_key_insertAll fun x hx => mem_map_key_insertAll hx
  · funext k
    rw [find?_insertAll, find?_insertAll, ← Option.or_assoc, Option.or_self]

end CloudAudit.Table
