import CloudAudit.Time.Moment
import CloudAudit.Number.Text

namespace CloudAudit.Time.Moment

open Number (padded)

/-- The day as `2026-01-14`. -/
def dateText (m : Moment) : String :=
  padded 4 m.year ++ "-" ++ padded 2 m.month ++ "-" ++ padded 2 m.day

/-- The time of day, with six decimals unless they are zero. -/
def clockText (m : Moment) : String :=
  padded 2 m.hour ++ ":" ++ padded 2 m.minute ++ ":" ++ padded 2 m.sec ++
    (if m.micro = 0 then "" else "." ++ padded 6 m.micro)

private def offsetMinutes (o : Int) : String :=
  let n := o.natAbs
  (if o < 0 then "-" else "+") ++ padded 2 (n / 3600000000) ++ ":" ++ padded 2 (n / 60000000 % 60)

/-- The offset with its seconds and microseconds where they are not zero. -/
def offsetText (o : Int) : String :=
  let n := o.natAbs
  offsetMinutes o ++
    (if n % 60000000 = 0 then ""
    else ":" ++ padded 2 (n / 1000000 % 60) ++
      (if n % 1000000 = 0 then "" else "." ++ padded 6 (n % 1000000)))

/-- The full form, such as `2026-01-14T03:00:00+00:00`. -/
def isoText (m : Moment) : String :=
  m.dateText ++ "T" ++ m.clockText ++ (m.offset.elim "" offsetText)

/-- The form of records, such as `2026-01-14T03:00:00Z`. -/
def recordText (m : Moment) : String :=
  m.dateText ++ "T" ++ m.clockText ++
    (m.offset.elim "" fun o => if o.natAbs < 1000000 then "Z" else offsetMinutes o)

private def monthNames : List String :=
  ["Jan", "Feb", "Mar", "Apr", "May", "Jun", "Jul", "Aug", "Sep", "Oct", "Nov", "Dec"]

/-- The day as `Jan 14, 2026`. -/
def dayText (m : Moment) : String :=
  monthNames.getD (m.month - 1) "" ++ " " ++ padded 2 m.day ++ ", " ++ toString m.year

/-- Day and minute as `2026-01-14 03:00`; the year has no leading zeros. -/
def minuteText (m : Moment) : String :=
  toString m.year ++ "-" ++ padded 2 m.month ++ "-" ++ padded 2 m.day ++ " " ++ padded 2 m.hour ++
    ":" ++ padded 2 m.minute

/-- The form of file names, `20260114T030000Z`, by the moment's own clock. -/
def stampText (m : Moment) : String :=
  toString m.year ++ padded 2 m.month ++ padded 2 m.day ++ "T" ++ padded 2 m.hour ++
    padded 2 m.minute ++ padded 2 m.sec ++ "Z"

end CloudAudit.Time.Moment
