import CloudAudit.Time.Moment
import CloudAudit.Text.Blank

namespace CloudAudit.Time.Iso

def digit? (c : Char) : Option Nat := if c.isDigit then some (c.toNat - 0x30) else none

/-- Reads exactly `n` ASCII digits, after those that gave `acc`. -/
def digitsFrom? (acc : Nat) : Nat → List Char → Option (Nat × List Char)
  | 0, cs => some (acc, cs)
  | _ + 1, [] => none
  | n + 1, c :: cs =>
    match digit? c with
    | some d => digitsFrom? (10 * acc + d) n cs
    | none => none

def digits? (n : Nat) (cs : List Char) : Option (Nat × List Char) := digitsFrom? 0 n cs

def dayLength? (cs : List Char) : Option Nat :=
  if cs.length = 7 then some 7
  else if cs[4]? = some '-' then
    if cs[5]? = some 'W' then
      if cs.length < 8 then none
      else if cs[8]? = some '-' then
        if cs.length = 9 then none
        else if (cs[10]?).any Char.isDigit then some 8
        else some 10
      else some 8
    else some 10
  else if cs[4]? = some 'W' then
    let stop := 7 + ((cs.drop 7).takeWhile Char.isDigit).length
    if stop < 9 then some stop else if stop % 2 = 0 then some 7 else some 8
  else some 8

def hyphen? (separated : Bool) (cs : List Char) : Option (List Char) :=
  if separated then
    match cs with
    | '-' :: rest => some rest
    | _ => none
  else some cs

/-- Reads the week and the day of the week after the `W`; `used` characters were read before. -/
def weekDay? (separated : Bool) (year length used : Nat) (cs : List Char) : Option Date := do
  let (week, rest) ← digits? 2 cs
  if used + 2 < length then
    let rest ← hyphen? separated rest
    let (day, _) ← digits? 1 rest
    Date.ofWeek? year week day
  else Date.ofWeek? year week 1

def date? (length : Nat) (cs : List Char) : Option Date := do
  let (year, rest) ← digits? 4 cs
  let separated := rest.head? = some '-'
  let rest := if separated then rest.drop 1 else rest
  match rest with
  | 'W' :: rest => weekDay? separated year length (if separated then 6 else 5) rest
  | _ =>
    let (month, rest) ← digits? 2 rest
    let rest ← hyphen? separated rest
    let (day, _) ← digits? 2 rest
    some ⟨year, month, day⟩

structure Clock where
  hour : Nat := 0
  minute : Nat := 0
  sec : Nat := 0
  micro : Nat := 0

/-- Reads the fraction of a second; the flag tells whether the text ends with it. -/
def fraction? (cs : List Char) : Option (Nat × Bool) := do
  let n := min 6 cs.length
  let (value, rest) ← digits? n cs
  some (value * Nat.pow 10 (6 - n), (rest.dropWhile Char.isDigit).isEmpty)

inductive Next where
  /-- The clock ends; the flag tells that nothing is left over. -/
  | done (whole : Bool)
  | part (rest : List Char)
  | fraction (rest : List Char)
  | bad

/-- Decides what follows two digits, where `colons` tells whether colons part the digits. -/
def next (colons : Bool) : List Char → Next
  | [] => .done true
  | [c] => if c.toNat < 0x80 then .done false else .bad
  | c :: rest =>
    if colons && c == ':' then .part rest
    else if c = '.' ∨ c = ',' then .fraction rest
    else if colons then .bad
    else .part (c :: rest)

/-- Reads a clock; the flag tells whether the text ends with it. -/
def clock? (cs : List Char) : Option (Clock × Bool) := do
  let (hour, rest) ← digits? 2 cs
  let colons := rest.head? = some ':'
  match next colons rest with
  | .done whole => some ({ hour }, whole)
  | .bad => none
  | .fraction rest =>
    let (micro, whole) ← fraction? rest
    some ({ hour, micro }, whole)
  | .part rest =>
    let (minute, rest) ← digits? 2 rest
    match next colons rest with
    | .done whole => some ({ hour, minute }, whole)
    | .bad => none
    | .fraction rest =>
      let (micro, whole) ← fraction? rest
      some ({ hour, minute, micro }, whole)
    | .part rest =>
      let (sec, rest) ← digits? 2 rest
      match next colons rest with
      | .done whole => some ({ hour, minute, sec }, whole)
      | .bad => none
      | .fraction rest | .part rest =>
        let (micro, whole) ← fraction? rest
        some ({ hour, minute, sec, micro }, whole)

/-- The offset that a clock writes; without whole seconds it is none. -/
def Clock.offset (c : Clock) (negative : Bool) : Int :=
  let secs := c.hour * 3600 + c.minute * 60 + c.sec
  if secs = 0 then 0
  else
    let n : Int := (secs : Int) * Time.second + c.micro
    if negative then -n else n

/-- Reads an offset: nothing, `Z`, or a sign and a clock. -/
def offset? : List Char → Option (Option Int)
  | [] => some none
  | 'Z' :: rest => if rest.isEmpty then some (some 0) else none
  | sign :: rest => do
    let (c, whole) ← clock? rest
    if whole then some (some (c.offset (sign == '-'))) else none

def beginsOffset (c : Char) : Bool := c == '+' || c == '-' || c == 'Z'

def timeOfDay? (cs : List Char) : Option (Clock × Option Int) := do
  let tail := cs.dropWhile (!beginsOffset ·)
  let (c, whole) ← clock? (cs.takeWhile (!beginsOffset ·))
  if tail.isEmpty && !whole then none
  else
    let offset ← offset? tail
    some (c, offset)

/-- Reads a moment. A day alone is its midnight. -/
def moment? (cs : List Char) : Option Moment := do
  let length ← dayLength? cs
  let d ← date? length cs
  let (c, offset) ←
    if cs.length ≤ length then some ({}, none) else timeOfDay? (cs.drop (length + 1))
  let m : Moment :=
    { year := d.year, month := d.month, day := d.day
      hour := c.hour, minute := c.minute, sec := c.sec, micro := c.micro, offset }
  if m.isValid then some m else none

/-- Replaces every `Z` by the numeric offset of universal time. -/
def spellOutZulu (cs : List Char) : List Char :=
  cs.flatMap fun c => if c = 'Z' then "+00:00".toList else [c]

end CloudAudit.Time.Iso
