namespace CloudAudit.Time

def isLeap (year : Nat) : Bool := year % 4 == 0 && (year % 100 != 0 || year % 400 == 0)

def daysInMonth (year month : Nat) : Nat :=
  if month = 2 then (if isLeap year then 29 else 28)
  else if month = 4 ∨ month = 6 ∨ month = 9 ∨ month = 11 then 30
  else 31

structure Date where
  year : Nat
  month : Nat
  day : Nat
  deriving DecidableEq, Repr

/-- Years 1 to 9999, twelve months, and the days of the month. -/
def Date.isValid (d : Date) : Bool :=
  1 ≤ d.year && d.year ≤ 9999 && 1 ≤ d.month && d.month ≤ 12 && 1 ≤ d.day &&
    d.day ≤ daysInMonth d.year d.month

/-- The number of days before the first day of a year. -/
def daysBeforeYear (year : Nat) : Nat :=
  let y := year - 1
  365 * y + y / 4 - y / 100 + y / 400

/-- The number of days of a year before the first day of a month. -/
def daysBeforeMonth (year month : Nat) : Nat :=
  (List.range (month - 1)).foldl (fun days m => days + daysInMonth year (m + 1)) 0

/-- The number of the day; the first day of the year one has number 1. -/
def Date.ordinal (d : Date) : Nat := daysBeforeYear d.year + daysBeforeMonth d.year d.month + d.day

/-- Splits the days of a year, counted from zero, into month and day, from month `month` on. -/
def monthAndDay (year : Nat) : Nat → Nat → Nat → Nat × Nat
  | 0, month, days => (month, days + 1)
  | fuel + 1, month, days =>
    if days < daysInMonth year month then (month, days + 1)
    else monthAndDay year fuel (month + 1) (days - daysInMonth year month)

def Date.ofOrdinal (n : Nat) : Date :=
  let days := n - 1
  let eras := days / 146097
  let inEra := days % 146097
  let centuries := min (inEra / 36524) 3
  let inCentury := inEra - 36524 * centuries
  let fours := inCentury / 1461
  let inFour := inCentury % 1461
  let years := min (inFour / 365) 3
  let year := 400 * eras + 100 * centuries + 4 * fours + years + 1
  let (month, day) := monthAndDay year 11 1 (inFour - 365 * years)
  ⟨year, month, day⟩

/-- The day of the week, Monday being 0. -/
def Date.weekday (d : Date) : Nat := (d.ordinal + 6) % 7

/-- The number of the Monday of the first week of a year: the week that holds the 4th of January. -/
def firstMonday (year : Nat) : Int :=
  let first : Date := ⟨year, 1, 1⟩
  let monday : Int := (first.ordinal : Int) - first.weekday
  if 3 < first.weekday then monday + 7 else monday

def hasLongYear (year : Nat) : Bool :=
  let w := (⟨year, 1, 1⟩ : Date).weekday
  w == 3 || (w == 2 && isLeap year)

/-- The day of a week, Monday being day 1. -/
def Date.ofWeek? (year week day : Nat) : Option Date :=
  if 1 ≤ year ∧ (1 ≤ week ∧ week ≤ 52 ∨ week = 53 ∧ hasLongYear year) ∧ 1 ≤ day ∧ day ≤ 7 then
    let n : Int := firstMonday year + 7 * (week - 1) + day - 1
    if 1 ≤ n then some (.ofOrdinal n.toNat) else none
  else none

end CloudAudit.Time
