import CloudAudit.Time.Moment

namespace CloudAudit.Time

variable {α : Type} {key : α → Moment} {xs ys : List α}

/-- A list put in the order of time; items of one instant keep their order. -/
structure Chronological (key : α → Moment) (xs ys : List α) : Prop where
  perm : ys.Perm xs
  ordered : ys.Pairwise fun x y => (key x).instant ≤ (key y).instant
  stable : ∀ i : Int, ys.filter (fun x => (key x).instant = i) =
    xs.filter fun x => (key x).instant = i

/-- Whether an item is not later than another. -/
def notLater (key : α → Moment) (x y : α) : Bool := decide ((key x).instant ≤ (key y).instant)

theorem notLater_trans (key : α → Moment) (x y z : α) (hxy : notLater key x y = true)
    (hyz : notLater key y z = true) : notLater key x z = true :=
  decide_eq_true (Int.le_trans (of_decide_eq_true hxy) (of_decide_eq_true hyz))

theorem notLater_total (key : α → Moment) (x y : α) :
    (notLater key x y || notLater key y x) = true := by
  have h := Int.le_total (key x).instant (key y).instant
  simpa [notLater] using h

theorem filter_mergeSort (key : α → Moment) (xs : List α) (i : Int) :
    (xs.mergeSort (notLater key)).filter (fun x => (key x).instant = i) =
      xs.filter fun x => (key x).instant = i := by
  have hordered : (xs.filter fun x => (key x).instant = i).Pairwise
      fun x y => notLater key x y = true := by
    apply List.pairwise_of_forall_mem_list
    intro x hx y hy
    have hx : (key x).instant = i := of_decide_eq_true (List.mem_filter.mp hx).2
    have hy : (key y).instant = i := of_decide_eq_true (List.mem_filter.mp hy).2
    exact decide_eq_true (by omega)
  have hsub := List.sublist_mergeSort (notLater_trans key) (notLater_total key) hordered
    List.filter_sublist
  have hkept := hsub.filter fun x => decide ((key x).instant = i)
  rw [List.filter_filter, List.filter_congr fun x _ => Bool.and_self _] at hkept
  have hperm := (List.mergeSort_perm xs (notLater key)).filter
    fun x => decide ((key x).instant = i)
  exact (hkept.eq_of_length hperm.length_eq.symm).symm

theorem mergeSort_chronological (key : α → Moment) (xs : List α) :
    Chronological key xs (xs.mergeSort (notLater key)) where
  perm := List.mergeSort_perm _ _
  ordered := by
    have h := List.pairwise_mergeSort (notLater_trans key) (notLater_total key) xs
    exact h.imp of_decide_eq_true
  stable := filter_mergeSort key xs

theorem sortByMoment?_chronological (h : ∀ x ∈ xs, (key x).offset.isSome) :
    ∃ ys, sortByMoment? key xs = some ys ∧ Chronological key xs ys := by
  cases xs with
  | nil => exact ⟨[], rfl, .refl _, .nil, fun _ => rfl⟩
  | cons x rest =>
    have hall : (rest.all fun y => (key x).comparable (key y)) = true := by
      rw [List.all_eq_true]
      intro y hy
      rw [Moment.comparable, h x List.mem_cons_self, h y (List.mem_cons_of_mem x hy)]
      rfl
    have hsorted := mergeSort_chronological key (x :: rest)
    exact ⟨_, if_pos hall, hsorted⟩

end CloudAudit.Time
