import CloudAudit.Time.Iso
import CloudAudit.Number.Text

namespace CloudAudit.Time.Rfc3339

open Iso (digits?)

def char? (p : Char → Bool) : List Char → Option (List Char)
  | c :: cs => if p c then some cs else none
  | [] => none

/-- Reads a day such as `2026-01-14`; whether there is such a day is checked later. -/
def date? (cs : List Char) : Option (Date × List Char) := do
  let (year, cs) ← digits? 4 cs
  let cs ← char? (· == '-') cs
  let (month, cs) ← digits? 2 cs
  let cs ← char? (· == '-') cs
  let (day, cs) ← digits? 2 cs
  some (⟨year, month, day⟩, cs)

/-- Reads the fraction of a second: at least one digit, of which six count. -/
def fraction? (cs : List Char) : Option (Nat × List Char) := do
  let ds := cs.takeWhile Char.isDigit
  let kept := ds.take 6
  let (value, _) ← digits? kept.length kept
  if ds.isEmpty then none
  else some (value * Nat.pow 10 (6 - kept.length), cs.dropWhile Char.isDigit)

/-- Reads a time of day such as `03:00`, `03:00:00` or `03:00:00.5`. -/
def clock? (cs : List Char) : Option (Iso.Clock × List Char) := do
  let (hour, cs) ← digits? 2 cs
  let cs ← char? (· == ':') cs
  let (minute, cs) ← digits? 2 cs
  match cs with
  | ':' :: cs =>
    let (sec, cs) ← digits? 2 cs
    match cs with
    | '.' :: cs | ',' :: cs =>
      let (micro, cs) ← fraction? cs
      some ({ hour, minute, sec, micro }, cs)
    | _ => some ({ hour, minute, sec }, cs)
  | _ => some ({ hour, minute }, cs)

/-- Reads an offset: nothing, `Z`, or a sign, hours and minutes. -/
def offset? : List Char → Option (Option Int)
  | [] => some none
  | [c] => if c = 'Z' ∨ c = 'z' then some (some 0) else none
  | sign :: cs => do
    let negative ← if sign = '+' then some false
      else if sign = '-' ∨ sign = '\u2212' then some true else none
    let (hours, cs) ← digits? 2 cs
    let cs := match cs with
      | ':' :: cs => cs
      | cs => cs
    let (minutes, cs) ← digits? 2 cs
    if cs.isEmpty ∧ minutes < 60 ∧ hours < 24 then
      let n : Int := ((hours * 3600 + minutes * 60 : Nat) : Int) * Time.second
      some (some (if negative then -n else n))
    else none

inductive Fault where
  | malformed
  /-- It lies in the year before the calendar starts, which such records can write. -/
  | yearZero
  deriving DecidableEq, Repr

/-- A moment with valid parts; the year may be zero, which is a leap year. -/
def checked (m : Moment) : Except Fault Moment :=
  if m.year = 0 then
    if { m with year := 400 }.isValid then .error .yearZero else .error .malformed
  else if m.isValid then .ok m
  else .error .malformed

def epoch : Int := (((⟨1970, 1, 1⟩ : Date).ordinal : Int) - 1) * dayLength

/-- The moment that is some microseconds after 1970 began, on the clock of universal time. -/
def ofMicros (n : Int) : Except Fault Moment :=
  let instant := epoch + n
  if 0 ≤ instant ∧ instant < Moment.calendarEnd then .ok (Moment.ofLocalMicros instant (some 0))
  else if -366 * dayLength ≤ instant ∧ instant < 0 then .error .yearZero
  else .error .malformed

/-- Beyond this size a timestamp counts milliseconds. -/
def millisecondsFrom : Nat := 20000000000

def ofTimestamp (n : Int) : Except Fault Moment :=
  ofMicros (n * if n.natAbs ≤ millisecondsFrom then Time.second else 1000)

/-- The moment of a fractional timestamp, to the nearest microsecond. -/
def ofFloat (x : Float) : Except Fault Moment :=
  let unit : Int := if x.abs ≤ 20000000000.0 then Time.second else 1000
  let micros := ((x - x.floor) * Float.ofInt unit).round
  match Number.truncate? x.floor, Number.truncate? micros with
  | some n, some micros => ofMicros (n * unit + micros)
  | _, _ => .error .malformed

def full? (cs : List Char) : Option (Except Fault Moment) := do
  let (d, cs) ← date? cs
  let cs ← char? (fun c => c == 'T' || c == 't' || c == ' ' || c == '_') cs
  let (c, cs) ← clock? cs
  let offset ← offset? cs
  some (checked
    { year := d.year, month := d.month, day := d.day
      hour := c.hour, minute := c.minute, sec := c.sec, micro := c.micro, offset })

/-- Reads a timestamp: a sign, digits and perhaps a fraction. -/
def timestamp? (cs : List Char) : Option (Except Fault Moment) :=
  let (negative, body) := Text.leadingSign cs
  let whole := body.takeWhile Char.isDigit
  let rest := body.dropWhile Char.isDigit
  if whole.isEmpty then none
  else
    match rest with
    | [] => do
      let (n, _) ← digits? whole.length whole
      some (ofTimestamp (if negative then -(n : Int) else n))
    | '.' :: fraction =>
      if fraction.all Char.isDigit then (Number.ofText? cs).map ofFloat else none
    | _ => none

def moment (cs : List Char) : Except Fault Moment :=
  match full? cs |>.or (timestamp? cs) with
  | some result => result
  | none =>
    match date? cs with
    | some (d, []) => checked { year := d.year, month := d.month, day := d.day }
    | _ => .error .malformed

end CloudAudit.Time.Rfc3339
