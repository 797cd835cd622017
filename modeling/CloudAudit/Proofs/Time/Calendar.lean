import CloudAudit.Time.Moment

namespace CloudAudit.Time

variable {n year month days fuel : Nat}

theorem daysBeforeMonth_one (year : Nat) : daysBeforeMonth year 1 = 0 := rfl

theorem daysBeforeMonth_succ (year month : Nat) :
    daysBeforeMonth year (month + 1 + 1) =
      daysBeforeMonth year (month + 1) + daysInMonth year (month + 1) := by
  change (List.range (month + 1)).foldl _ 0 = (List.range month).foldl _ 0 + _
  rw [List.range_succ, List.foldl_append]
  rfl

def yearLength (year : Nat) : Nat := if isLeap year then 366 else 365

theorem daysBeforeMonth_thirteen (year : Nat) : daysBeforeMonth year 13 = yearLength year := by
  rw [yearLength]
  cases h : isLeap year <;> simp [daysBeforeMonth, daysInMonth, h, List.range, List.range.loop]

/-- The month and the day that are found from some month on lie as many days after its first day as
were given. -/
theorem monthAndDay_spec {m d : Nat} (hmonth : month + fuel = 11)
    (hdays : daysBeforeMonth year (month + 1) + days < yearLength year)
    (h : monthAndDay year fuel (month + 1) days = (m, d)) :
    (1 ≤ m ∧ m ≤ 12 ∧ 1 ≤ d ∧ d ≤ daysInMonth year m) ∧
      daysBeforeMonth year m + d = daysBeforeMonth year (month + 1) + days + 1 := by
  induction fuel generalizing month days with
  | zero =>
    cases h
    obtain rfl : month = 11 := hmonth
    have hlast := daysBeforeMonth_succ year 11
    rw [daysBeforeMonth_thirteen] at hlast
    omega
  | succ fuel ih =>
    rw [monthAndDay] at h
    split at h
    case isTrue hin =>
      cases h
      omega
    case isFalse hout =>
      have hnext := daysBeforeMonth_succ year month
      obtain ⟨hbounds, hsum⟩ := ih (by omega) (by omega) h
      exact ⟨hbounds, by omega⟩

theorem daysBeforeYear_eq {centuries fours years : Nat} (eras : Nat) (hcenturies : centuries ≤ 3)
    (hfours : fours ≤ 24) (hyears : years ≤ 3) :
    daysBeforeYear (400 * eras + 100 * centuries + 4 * fours + years + 1) =
      146097 * eras + 36524 * centuries + 1461 * fours + 365 * years := by
  rw [daysBeforeYear]
  omega

theorem yearLength_eq {centuries fours years : Nat} (eras : Nat) (hcenturies : centuries ≤ 3)
    (hfours : fours ≤ 24) (hyears : years ≤ 3) :
    yearLength (400 * eras + 100 * centuries + 4 * fours + years + 1) =
      if years = 3 ∧ (fours ≠ 24 ∨ centuries = 3) then 366 else 365 := by
  have hleap : isLeap (400 * eras + 100 * centuries + 4 * fours + years + 1) = true ↔
      years = 3 ∧ (fours ≠ 24 ∨ centuries = 3) := by
    simp only [isLeap, Bool.and_eq_true, Bool.or_eq_true, beq_iff_eq, bne_iff_ne]
    omega
  rw [yearLength]
  simp only [hleap]

theorem exists_place (n : Nat) : ∃ eras centuries fours years days,
    centuries ≤ 3 ∧ fours ≤ 24 ∧ years ≤ 3 ∧
    days < yearLength (400 * eras + 100 * centuries + 4 * fours + years + 1) ∧
    n - 1 = 146097 * eras + 36524 * centuries + 1461 * fours + 365 * years + days ∧
    Date.ofOrdinal n =
      let year := 400 * eras + 100 * centuries + 4 * fours + years + 1
      ⟨year, (monthAndDay year 11 1 days).1, (monthAndDay year 11 1 days).2⟩ := by
  let inEra := (n - 1) % 146097
  let centuries := min (inEra / 36524) 3
  let inCentury := inEra - 36524 * centuries
  let years := min (inCentury % 1461 / 365) 3
  have hinEra : inEra < 146097 := Nat.mod_lt _ (by decide)
  have heras : 146097 * ((n - 1) / 146097) + inEra = n - 1 := Nat.div_add_mod _ _
  have hcenturies : centuries = min (inEra / 36524) 3 := rfl
  have hinCentury : inCentury = inEra - 36524 * centuries := rfl
  have hyears : years = min (inCentury % 1461 / 365) 3 := rfl
  have hfours : inCentury / 1461 ≤ 24 := by omega
  refine ⟨(n - 1) / 146097, centuries, inCentury / 1461, years, inCentury % 1461 - 365 * years,
    by omega, hfours, by omega, ?_, by omega, rfl⟩
  rw [yearLength_eq _ (by omega) hfours (by omega)]
  split <;> omega

theorem le_of_daysBeforeYear (h : daysBeforeYear (year + 1) < 3652059) : year + 1 ≤ 9999 := by
  rw [daysBeforeYear] at h
  omega

/-- The day with a number is a day of the calendar and has that number. -/
theorem ofOrdinal_spec (hfirst : 1 ≤ n) (hlast : n ≤ 3652059) :
    (Date.ofOrdinal n).isValid = true ∧ (Date.ofOrdinal n).ordinal = n := by
  obtain ⟨eras, centuries, fours, years, days, hcenturies, hfours, hyears, hdays, hn, he⟩ :=
    exists_place n
  have hbefore := daysBeforeYear_eq eras hcenturies hfours hyears
  have hyear : 400 * eras + 100 * centuries + 4 * fours + years + 1 ≤ 9999 := by
    apply le_of_daysBeforeYear
    rw [hbefore]
    omega
  have hpos : 1 ≤ 400 * eras + 100 * centuries + 4 * fours + years + 1 := Nat.le_add_left 1 _
  rw [he]
  generalize 400 * eras + 100 * centuries + 4 * fours + years + 1 = year at *
  have hin : daysBeforeMonth year (0 + 1) + days < yearLength year := by
    rw [daysBeforeMonth_one]
    omega
  obtain ⟨⟨m, d⟩, hfound⟩ : ∃ found, monthAndDay year 11 1 days = found := ⟨_, rfl⟩
  have hstart : 0 + 11 = 11 := rfl
  obtain ⟨⟨hm, hm', hd, hd'⟩, hsum⟩ := monthAndDay_spec hstart hin hfound
  rw [daysBeforeMonth_one] at hsum
  dsimp only
  rw [hfound]
  constructor
  · simp only [Date.isValid, Bool.and_eq_true, decide_eq_true_eq]
    exact ⟨⟨⟨⟨⟨hpos, hyear⟩, hm⟩, hm'⟩, hd⟩, hd'⟩
  · rw [Date.ordinal, hbefore]
    dsimp only
    omega

namespace Moment

variable {k : Int} {offset : Option Int}

theorem calendarEnd_eq : calendarEnd = 3652059 * dayLength := by
  decide +kernel

theorem day_bounds (hfirst : 0 ≤ k) (hlast : k < calendarEnd) :
    1 ≤ (k / dayLength + 1).toNat ∧ (k / dayLength + 1).toNat ≤ 3652059 := by
  rw [calendarEnd_eq] at hlast
  have hlength : dayLength = 86400000000 := rfl
  rw [hlength] at hlast ⊢
  omega

theorem ofLocalMicros_isValid (hfirst : 0 ≤ k) (hlast : k < calendarEnd)
    (hoffset : ∀ o ∈ offset, -dayLength < o ∧ o < dayLength) :
    (ofLocalMicros k offset).isValid = true := by
  obtain ⟨hday, hday'⟩ := day_bounds hfirst hlast
  have hdate : (ofLocalMicros k offset).date.isValid = true := (ofOrdinal_spec hday hday').1
  have hin : (k % dayLength).toNat < 86400000000 := by
    have hlength : dayLength = 86400000000 := rfl
    rw [hlength]
    omega
  have hzone : (offset.all fun o => -dayLength < o && o < dayLength) = true := by
    rw [Option.all_eq_true]
    intro o ho
    rw [Bool.and_eq_true, decide_eq_true_eq, decide_eq_true_eq]
    exact hoffset o ho
  simp only [isValid, Bool.and_eq_true, decide_eq_true_eq]
  refine ⟨⟨⟨⟨⟨hdate, ?_⟩, ?_⟩, ?_⟩, ?_⟩, hzone⟩
  · change (k % dayLength).toNat / 3600000000 < 24
    omega
  · exact Nat.mod_lt _ (by decide)
  · exact Nat.mod_lt _ (by decide)
  · exact Nat.mod_lt _ (by decide)

theorem localMicros_ofLocalMicros (hfirst : 0 ≤ k) (hlast : k < calendarEnd) :
    (ofLocalMicros k offset).localMicros = k := by
  obtain ⟨hday, hday'⟩ := day_bounds hfirst hlast
  have hordinal : (ofLocalMicros k offset).date.ordinal = (k / dayLength + 1).toNat :=
    (ofOrdinal_spec hday hday').2
  have hlength : dayLength = 86400000000 := rfl
  have hsecond : second = 1000000 := rfl
  rw [localMicros, hordinal]
  simp only [ofLocalMicros, hlength, hsecond]
  omega

end Moment

end CloudAudit.Time
