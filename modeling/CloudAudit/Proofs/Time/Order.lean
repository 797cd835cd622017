import Mathlib.Tactic.SplitIfs
import CloudAudit.Proofs.Time.Calendar

namespace CloudAudit.Time

variable {year year' month month' : Nat} {d d' : Date}

theorem succ_div_eq (y k : Nat) :
    (y + 1) / k = y / k + if (y + 1) % k = 0 then 1 else 0 := by
  rw [Nat.succ_div]
  simp only [Nat.dvd_iff_mod_eq_zero]

theorem daysBeforeYear_succ (y : Nat) :
    daysBeforeYear (y + 1 + 1) = daysBeforeYear (y + 1) + yearLength (y + 1) := by
  have hbefore (n : Nat) : daysBeforeYear (n + 1) = 365 * n + n / 4 - n / 100 + n / 400 := rfl
  have hlength : yearLength (y + 1) =
      if (y + 1) % 4 = 0 ∧ ((y + 1) % 100 ≠ 0 ∨ (y + 1) % 400 = 0) then 366 else 365 := by
    simp only [yearLength, isLeap, Bool.and_eq_true, Bool.or_eq_true, beq_iff_eq, bne_iff_ne]
  have hcenturies : y / 100 ≤ y / 4 := by omega
  have hcentury : (y + 1) % 100 = 0 → (y + 1) % 4 = 0 := by omega
  have hera : (y + 1) % 400 = 0 → (y + 1) % 100 = 0 := by omega
  rw [hbefore, hbefore, hlength, succ_div_eq y 4, succ_div_eq y 100, succ_div_eq y 400]
  -- All that matters of the quotients is that there are fewer centuries than fours.
  generalize y / 4 = fours, y / 100 = centuries, y / 400 = eras, (y + 1) % 4 = inFour,
    (y + 1) % 100 = inCentury, (y + 1) % 400 = inEra at *
  split_ifs <;> omega

theorem daysBeforeYear_le (h : year < year') :
    daysBeforeYear (year + 1) ≤ daysBeforeYear year' := by
  induction h with
  | refl => exact Nat.le_refl _
  | @step y _ ih =>
    cases y with
    | zero => exact ih
    | succ y =>
      rw [daysBeforeYear_succ]
      omega

theorem daysBeforeMonth_add_le (year : Nat) (hfirst : 1 ≤ month) (h : month < month') :
    daysBeforeMonth year month + daysInMonth year month ≤ daysBeforeMonth year month' := by
  obtain ⟨m, rfl⟩ := Nat.exists_eq_add_of_le' hfirst
  induction h with
  | refl => exact Nat.le_of_eq (daysBeforeMonth_succ year m).symm
  | @step n hn ih =>
    obtain ⟨n, rfl⟩ := Nat.exists_eq_add_of_le' (Nat.le_trans hfirst (Nat.le_of_lt hn))
    rw [daysBeforeMonth_succ]
    omega

namespace Date

/-- A day is earlier by its year, its month and its day, in this order. -/
def Earlier (d d' : Date) : Prop :=
  d.year < d'.year ∨ d.year = d'.year ∧
    (d.month < d'.month ∨ d.month = d'.month ∧ d.day < d'.day)

theorem earlier_cases (d d' : Date) : d.Earlier d' ∨ d = d' ∨ d'.Earlier d := by
  obtain ⟨year, month, day⟩ := d
  obtain ⟨year', month', day'⟩ := d'
  simp only [Earlier, mk.injEq]
  omega

/-- A day of the calendar lies within its month, and that within its year. -/
structure InPlace (d : Date) : Prop where
  year : 1 ≤ d.year
  month : 1 ≤ d.month ∧ d.month ≤ 12
  day : 1 ≤ d.day ∧ d.day ≤ daysInMonth d.year d.month

theorem InPlace.of_isValid (h : d.isValid = true) : d.InPlace := by
  simp only [isValid, Bool.and_eq_true, decide_eq_true_eq] at h
  obtain ⟨⟨⟨⟨⟨hyear, -⟩, hmonth⟩, hmonth'⟩, hday⟩, hday'⟩ := h
  exact ⟨hyear, ⟨hmonth, hmonth'⟩, hday, hday'⟩

theorem InPlace.ordinal_le (h : d.InPlace) : d.ordinal ≤ daysBeforeYear (d.year + 1) := by
  have hmonths := daysBeforeMonth_add_le d.year h.month.1 (Nat.lt_succ_of_le h.month.2)
  have hyear := daysBeforeYear_succ (d.year - 1)
  have hday := h.day.2
  rw [daysBeforeMonth_thirteen] at hmonths
  rw [Nat.sub_add_cancel h.year] at hyear
  rw [ordinal, hyear]
  omega

theorem Earlier.ordinal_lt (hd : d.InPlace) (hd' : d'.InPlace) (h : d.Earlier d') :
    d.ordinal < d'.ordinal := by
  have hday := hd.day.2
  have hday' := hd'.day.1
  obtain hyear | ⟨hyear, hmonth | ⟨hmonth, hbefore⟩⟩ := h
  · have hlast := hd.ordinal_le
    have hyears := daysBeforeYear_le hyear
    have hfirst : daysBeforeYear d'.year < d'.ordinal := by
      rw [ordinal]
      omega
    omega
  · have hmonths := daysBeforeMonth_add_le d.year hd.month.1 hmonth
    rw [ordinal, ordinal, ← hyear]
    omega
  · rw [ordinal, ordinal, hyear, hmonth]
    omega

theorem ordinal_lt_iff (hd : d.InPlace) (hd' : d'.InPlace) :
    d.ordinal < d'.ordinal ↔ d.Earlier d' := by
  constructor
  · intro h
    rcases earlier_cases d d' with hl | rfl | hg
    · exact hl
    · exact absurd h (Nat.lt_irrefl _)
    · exact absurd h (Nat.lt_asymm (hg.ordinal_lt hd' hd))
  · exact Earlier.ordinal_lt hd hd'

theorem ordinal_eq_iff (hd : d.InPlace) (hd' : d'.InPlace) : d.ordinal = d'.ordinal ↔ d = d' := by
  constructor
  · intro h
    rcases earlier_cases d d' with hl | he | hg
    · exact absurd h (Nat.ne_of_lt (hl.ordinal_lt hd hd'))
    · exact he
    · exact absurd h (Nat.ne_of_gt (hg.ordinal_lt hd' hd))
  · exact congrArg ordinal

end Date

end CloudAudit.Time
