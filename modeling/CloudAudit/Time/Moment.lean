import CloudAudit.Time.Calendar

namespace CloudAudit.Time

def second : Int := 1000000

def dayLength : Int := 86400 * second

/-- A date and time of day, `offset` microseconds ahead of universal time if that is known. -/
structure Moment where
  year : Nat
  month : Nat
  day : Nat
  hour : Nat := 0
  minute : Nat := 0
  sec : Nat := 0
  micro : Nat := 0
  offset : Option Int := none
  deriving DecidableEq, Repr

namespace Moment

def date (m : Moment) : Date := ⟨m.year, m.month, m.day⟩

def isValid (m : Moment) : Bool :=
  m.date.isValid && m.hour < 24 && m.minute < 60 && m.sec < 60 && m.micro < 1000000 &&
    (m.offset.all fun o => -dayLength < o && o < dayLength)

/-- Microseconds since the start of the calendar by the moment's own clock. -/
def localMicros (m : Moment) : Int :=
  ((m.date.ordinal : Int) - 1) * dayLength +
    ((m.hour * 3600 + m.minute * 60 + m.sec : Nat) : Int) * second + m.micro

/-- The instant: microseconds of universal time. An unknown offset counts as none. -/
def instant (m : Moment) : Int := m.localMicros - m.offset.getD 0

/-- The moment that a clock with the given offset shows at a number of local microseconds. -/
def ofLocalMicros (n : Int) (offset : Option Int) : Moment :=
  let d := Date.ofOrdinal (n / dayLength + 1).toNat
  let inDay := (n % dayLength).toNat
  { year := d.year, month := d.month, day := d.day
    hour := inDay / 3600000000, minute := inDay / 60000000 % 60, sec := inDay / 1000000 % 60
    micro := inDay % 1000000, offset }

/-- The end of the calendar in microseconds: the first instant of the year 10000. -/
def calendarEnd : Int := (⟨10000, 1, 1⟩ : Date).ordinal * dayLength - dayLength

/-- The same instant on the clock of universal time; outside the calendar there is none. -/
def toUniversal? (m : Moment) : Option Moment :=
  let n := m.instant
  if 0 ≤ n ∧ n < calendarEnd then some (ofLocalMicros n (some 0)) else none

/-- A moment without an offset is taken to be universal time. -/
def assumeUniversal (m : Moment) : Moment :=
  if m.offset.isNone then { m with offset := some 0 } else m

/-- Whether both offsets are known or both unknown; only then can two moments be compared. -/
def comparable (a b : Moment) : Bool := a.offset.isSome == b.offset.isSome

end Moment

/-- Sorts by moment, earliest first, equal ones in their order; `none` if some cannot be
compared. -/
def sortByMoment? {α : Type} (key : α → Moment) (xs : List α) : Option (List α) :=
  match xs with
  | [] => some []
  | x :: rest =>
    if rest.all fun y => (key x).comparable (key y) then
      some (xs.mergeSort fun a b => decide ((key a).instant ≤ (key b).instant))
    else none

end CloudAudit.Time
