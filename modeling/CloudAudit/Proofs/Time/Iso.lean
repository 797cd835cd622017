import CloudAudit.Proofs.Text.Decimal
import CloudAudit.Proofs.Time.Calendar
import CloudAudit.Time.Iso
import CloudAudit.Time.Text

namespace CloudAudit.Time.Iso

open Number Text

variable {width n acc : Nat} {ds rest cs : List Char} {i o : Int}

theorem digitsFrom?_append (h : ∀ c ∈ ds, c.isDigit = true) (acc : Nat) (rest : List Char) :
    digitsFrom? acc ds.length (ds ++ rest) = some (Nat.ofDigitChars 10 ds acc, rest) := by
  induction ds generalizing acc with
  | nil => rfl
  | cons c ds ih =>
    obtain ⟨hc, hds⟩ := List.forall_mem_cons.mp h
    have hdigit : digit? c = some (c.toNat - 0x30) := if_pos hc
    rw [List.length_cons, List.cons_append, digitsFrom?, hdigit, Nat.ofDigitChars_cons]
    exact ih hds _

theorem digits?_padded (hwidth : 0 < width) (h : n < Nat.pow 10 width) (rest : List Char) :
    digits? width ((padded width n).toList ++ rest) = some (n, rest) := by
  have hdigits : ∀ c ∈ (padded width n).toList, c.isDigit = true := fun c => isDigit_of_mem_padded
  have hread := digitsFrom?_append hdigits 0 rest
  rwa [length_padded hwidth h, ofDigitChars_padded] at hread

theorem padded_ne_nil (hwidth : 0 < width) (h : n < Nat.pow 10 width) :
    (padded width n).toList ≠ [] := by
  rw [← List.length_pos_iff, length_padded hwidth h]
  exact hwidth

/-- How the fraction of a second may be written: in six digits, or not at all where it is zero. -/
inductive Fraction : Nat → String → Prop
  | digits (micro : Nat) : Fraction micro ("." ++ padded 6 micro)
  | none : Fraction 0 ""

theorem toList_point (s : String) : ("." ++ s).toList = '.' :: s.toList :=
  String.toList_append

def clockChars (hour minute sec : Nat) (fraction : List Char) : List Char :=
  (padded 2 hour).toList ++ ':' :: ((padded 2 minute).toList ++ ':' ::
    ((padded 2 sec).toList ++ fraction))

theorem next_colon (h : cs ≠ []) : next true (':' :: cs) = .part cs := by
  cases cs with
  | nil => exact absurd rfl h
  | cons c cs => rfl

theorem next_point (h : cs ≠ []) : next true ('.' :: cs) = .fraction cs := by
  cases cs with
  | nil => exact absurd rfl h
  | cons c cs => rfl

theorem padded_append_ne_nil (h : n < 100) (cs : List Char) : (padded 2 n).toList ++ cs ≠ [] :=
  List.append_ne_nil_of_left_ne_nil (padded_ne_nil (by decide) h) cs

theorem fraction?_padded {micro : Nat} (h : micro < 1000000) :
    fraction? (padded 6 micro).toList = some (micro, true) := by
  have hlength : (padded 6 micro).toList.length = 6 := length_padded (by decide) h
  have hread : digits? 6 ((padded 6 micro).toList ++ []) = some (micro, []) :=
    digits?_padded (by decide) h []
  rw [List.append_nil] at hread
  rw [fraction?, hlength]
  change (digits? 6 _).bind _ = _
  rw [hread]
  change some (micro * 1, true) = _
  rw [Nat.mul_one]

theorem clock?_clockChars {hour minute sec micro : Nat} {fraction : String} (hhour : hour < 100)
    (hminute : minute < 100) (hsec : sec < 100) (hmicro : micro < 1000000)
    (hfraction : Fraction micro fraction) :
    clock? (clockChars hour minute sec fraction.toList) =
      some (⟨hour, minute, sec, micro⟩, true) := by
  rw [clock?, clockChars, digits?_padded Nat.two_pos hhour]
  simp only [Option.bind_eq_bind, Option.bind_some, List.head?_cons, decide_true,
    next_colon (padded_append_ne_nil hminute _), digits?_padded Nat.two_pos hminute,
    next_colon (padded_append_ne_nil hsec _), digits?_padded Nat.two_pos hsec]
  cases hfraction with
  | digits =>
    rw [toList_point, next_point (padded_ne_nil (by decide) hmicro)]
    dsimp only
    rw [fraction?_padded hmicro]
    rfl
  | none => rfl

theorem clock?_minutes {hour minute : Nat} (hhour : hour < 100) (hminute : minute < 100) :
    clock? ((padded 2 hour).toList ++ ':' :: (padded 2 minute).toList) =
      some ({ hour, minute }, true) := by
  have hread := digits?_padded Nat.two_pos hminute []
  rw [List.append_nil] at hread
  rw [clock?, digits?_padded Nat.two_pos hhour]
  simp only [Option.bind_eq_bind, Option.bind_some, List.head?_cons, decide_true,
    next_colon (padded_ne_nil Nat.two_pos hminute), hread]
  rfl

/-- The offsets of whole minutes that a clock may have. -/
structure ClockOffset (o : Int) : Prop where
  minutes : o % 60000000 = 0
  day : -dayLength < o ∧ o < dayLength

theorem ClockOffset.natAbs (h : ClockOffset o) :
    o.natAbs % 60000000 = 0 ∧ o.natAbs < 86400000000 := by
  have hminutes := h.minutes
  obtain ⟨hday, hday'⟩ := h.day
  have hlength : dayLength = 86400000000 := rfl
  omega

def signChar (o : Int) : Char := if o < 0 then '-' else '+'

theorem signChar_eq (o : Int) : signChar o = '-' ∨ signChar o = '+' := by
  rw [signChar]
  split
  · exact .inl rfl
  · exact .inr rfl

theorem signChar_beq (o : Int) : (signChar o == '-') = decide (o < 0) := by
  rw [signChar]
  split
  case isTrue h => rw [decide_eq_true h]; rfl
  case isFalse h => rw [decide_eq_false h]; rfl

theorem toList_offsetText (h : ClockOffset o) :
    (Moment.offsetText o).toList = signChar o :: ((padded 2 (o.natAbs / 3600000000)).toList ++
      ':' :: (padded 2 (o.natAbs / 60000000 % 60)).toList) := by
  have htext : Moment.offsetText o = (if o < 0 then "-" else "+") ++
      padded 2 (o.natAbs / 3600000000) ++ ":" ++ padded 2 (o.natAbs / 60000000 % 60) := by
    rw [Moment.offsetText, if_pos h.natAbs.1, String.append_empty]
    rfl
  have hsign : (if o < 0 then "-" else "+").toList = [signChar o] := by
    rw [signChar]
    split <;> rfl
  have hcolon : ":".toList = [':'] := rfl
  rw [htext]
  simp only [String.toList_append, hsign, hcolon, List.append_assoc, List.cons_append,
    List.nil_append]

theorem offset?_sign {sign : Char} {c : Clock} (h : sign ≠ 'Z')
    (hclock : clock? cs = some (c, true)) :
    offset? (sign :: cs) = some (some (c.offset (sign == '-'))) := by
  rw [offset?, hclock]
  · rfl
  · exact h

theorem Clock.offset_minutes (h : ClockOffset o) :
    Clock.offset { hour := o.natAbs / 3600000000, minute := o.natAbs / 60000000 % 60 }
      (decide (o < 0)) = o := by
  obtain ⟨hminutes, -⟩ := h.natAbs
  have hsecond : Time.second = 1000000 := rfl
  rw [Clock.offset, hsecond]
  dsimp only
  split
  case isTrue hzero => omega
  case isFalse hzero =>
    by_cases ho : o < 0
    · rw [if_pos (decide_eq_true ho)]
      omega
    · rw [decide_eq_false ho, if_neg Bool.false_ne_true]
      omega

theorem offset?_offsetText (h : ClockOffset o) :
    offset? (Moment.offsetText o).toList = some (some o) := by
  obtain ⟨-, hday⟩ := h.natAbs
  have hhour : o.natAbs / 3600000000 < 100 := by omega
  have hminute : o.natAbs / 60000000 % 60 < 100 := by omega
  have hclock := clock?_minutes hhour hminute
  have hsign : signChar o ≠ 'Z' := by
    rcases signChar_eq o with hs | hs <;> rw [hs] <;> decide
  rw [toList_offsetText h, offset?_sign hsign hclock, signChar_beq, Clock.offset_minutes h]

/-- How an offset may be written: in full, and for universal time also as `Z` or not at all. -/
inductive Zone : Int → String → Prop
  | offset (o : Int) : Zone o (Moment.offsetText o)
  | zulu : Zone 0 "Z"
  | naive : Zone 0 ""

theorem spellOutZulu_append (cs ds : List Char) :
    spellOutZulu (cs ++ ds) = spellOutZulu cs ++ spellOutZulu ds :=
  List.flatMap_append

theorem spellOutZulu_of_not_mem (h : 'Z' ∉ cs) : spellOutZulu cs = cs := by
  induction cs with
  | nil => rfl
  | cons c cs ih =>
    obtain ⟨hc, hcs⟩ : 'Z' ≠ c ∧ 'Z' ∉ cs := by rwa [List.mem_cons, not_or] at h
    have hstep : spellOutZulu (c :: cs) =
        (if c = 'Z' then "+00:00".toList else [c]) ++ spellOutZulu cs := List.flatMap_cons
    rw [hstep, if_neg (Ne.symm hc), ih hcs, List.singleton_append]

theorem mem_offsetText {c : Char} (h : ClockOffset o) (hc : c ∈ (Moment.offsetText o).toList) :
    c.isDigit = true ∨ c = '+' ∨ c = '-' ∨ c = ':' := by
  rw [toList_offsetText h] at hc
  simp only [List.mem_cons, List.mem_append] at hc
  rcases hc with hc | hc | hc | hc
  · rcases signChar_eq o with hs | hs
    · exact .inr (.inr (.inl (hc.trans hs)))
    · exact .inr (.inl (hc.trans hs))
  · exact .inl (isDigit_of_mem_padded hc)
  · exact .inr (.inr (.inr hc))
  · exact .inl (isDigit_of_mem_padded hc)

theorem beginsOffset_signChar (o : Int) : beginsOffset (signChar o) = true := by
  rcases signChar_eq o with h | h <;> rw [h] <;> decide

/-- However an offset is written, once `Z` is spelled out it reads back; no offset is read only for
universal time. -/
theorem Zone.offset? {zone : String} (h : Zone o zone) (ho : ClockOffset o) :
    ∃ offset : Option Int, Iso.offset? (spellOutZulu zone.toList) = some offset ∧
      offset.getD 0 = o ∧ ∀ c ∈ (spellOutZulu zone.toList).head?, beginsOffset c = true := by
  cases h with
  | offset =>
    have hspelled : spellOutZulu (Moment.offsetText o).toList = (Moment.offsetText o).toList := by
      apply spellOutZulu_of_not_mem
      intro hmem
      rcases mem_offsetText ho hmem with h | h | h | h <;> exact absurd h (by decide)
    refine ⟨some o, ?_, rfl, ?_⟩
    · rw [hspelled]
      exact offset?_offsetText ho
    · rw [hspelled, toList_offsetText ho]
      rintro c ⟨⟩
      exact beginsOffset_signChar o
  | zulu =>
    refine ⟨some 0, by decide, rfl, ?_⟩
    rintro c ⟨⟩
    rfl
  | naive => exact ⟨none, rfl, rfl, nofun⟩

theorem not_beginsOffset_of_isDigit {c : Char} (h : c.isDigit = true) : beginsOffset c = false := by
  have hne (d : Char) (hd : d.isDigit = false) : c ≠ d := by
    rintro rfl
    rw [h] at hd
    cases hd
  simp only [beginsOffset, Bool.or_eq_false_iff, beq_eq_false_iff_ne]
  exact ⟨⟨hne _ (by decide), hne _ (by decide)⟩, hne _ (by decide)⟩

theorem timeOfDay?_append {c : Clock} {offset : Option Int} {zone : List Char}
    (hcs : ∀ x ∈ cs, beginsOffset x = false) (hzone : ∀ x ∈ zone.head?, beginsOffset x = true)
    (hclock : clock? cs = some (c, true)) (hoffset : offset? zone = some offset) :
    timeOfDay? (cs ++ zone) = some (c, offset) := by
  have hkeep : ∀ x ∈ cs, (!beginsOffset x) = true := by
    intro x hx
    rw [hcs x hx]
    rfl
  have htake : zone.takeWhile (!beginsOffset ·) = [] := by
    cases zone with
    | nil => rfl
    | cons x zone => exact List.takeWhile_cons_of_neg (by rw [hzone x rfl]; decide)
  have hdrop : zone.dropWhile (!beginsOffset ·) = zone := by
    cases zone with
    | nil => rfl
    | cons x zone => exact List.dropWhile_cons_of_neg (by rw [hzone x rfl]; decide)
  rw [timeOfDay?, List.takeWhile_append_of_pos hkeep, List.dropWhile_append_of_pos hkeep, htake,
    hdrop, List.append_nil, hclock]
  simp only [Option.bind_eq_bind, Option.bind_some, Bool.not_true, Bool.and_false,
    Bool.false_eq_true, if_false, hoffset]

theorem toList_dateText (m : Moment) : m.dateText.toList =
    (padded 4 m.year).toList ++ '-' :: ((padded 2 m.month).toList ++ '-' ::
      (padded 2 m.day).toList) := by
  have hhyphen : "-".toList = ['-'] := rfl
  rw [Moment.dateText]
  simp only [String.toList_append, hhyphen, List.append_assoc, List.cons_append, List.nil_append]

theorem date?_hyphens {length year month day : Nat} {after : List Char}
    (hyear : digits? 4 cs = some (year, '-' :: rest)) (hrest : rest.head? ≠ some 'W')
    (hmonth : digits? 2 rest = some (month, '-' :: after))
    (hday : digits? 2 after = some (day, ds)) :
    date? length cs = some ⟨year, month, day⟩ := by
  rw [date?, hyear]
  simp only [Option.bind_eq_bind, Option.bind_some, List.head?_cons, decide_true, if_true,
    List.drop_one, List.tail_cons]
  split
  case h_1 rest => exact absurd rfl hrest
  case h_2 =>
    simp only [hmonth, Option.bind_some, hyphen?, if_true, hday]

theorem width_of_isValid {m : Moment} (h : m.isValid = true) :
    (m.year < 10000 ∧ m.month < 100 ∧ m.day < 100) ∧
      m.hour < 100 ∧ m.minute < 100 ∧ m.sec < 100 ∧ m.micro < 1000000 := by
  have hdays : daysInMonth m.year m.month ≤ 31 := by
    rw [daysInMonth]
    split
    · split <;> decide
    · split <;> decide
  simp only [Moment.isValid, Date.isValid, Bool.and_eq_true, decide_eq_true_eq] at h
  obtain ⟨⟨⟨⟨⟨⟨⟨⟨⟨⟨-, hyear⟩, -⟩, hmonth⟩, -⟩, hday⟩, hhour⟩, hminute⟩, hsec⟩, hmicro⟩, -⟩ := h
  have hday : m.day ≤ 31 := Nat.le_trans hday hdays
  exact ⟨⟨Nat.lt_succ_of_le hyear, Nat.lt_of_le_of_lt hmonth (by decide), by omega⟩, by omega,
    by omega, by omega, hmicro⟩

theorem date?_dateText {m : Moment} (h : m.isValid = true) (rest : List Char) :
    date? 10 (m.dateText.toList ++ rest) = some m.date := by
  obtain ⟨⟨hyear, hmonth, hday⟩, -⟩ := width_of_isValid h
  rw [toList_dateText, List.append_assoc, List.cons_append, List.append_assoc, List.cons_append]
  apply date?_hyphens (digits?_padded (by decide) hyear _) _
    (digits?_padded Nat.two_pos hmonth _) (digits?_padded Nat.two_pos hday rest)
  intro hW
  rw [List.head?_append_of_ne_nil _ (padded_ne_nil Nat.two_pos hmonth)] at hW
  exact absurd (isDigit_of_mem_padded (List.mem_of_mem_head? hW)) (by decide)

theorem length_dateText {m : Moment} (h : m.isValid = true) : m.dateText.toList.length = 10 := by
  obtain ⟨⟨hyear, hmonth, hday⟩, -⟩ := width_of_isValid h
  rw [toList_dateText]
  simp only [List.length_append, List.length_cons, length_padded Nat.two_pos hmonth,
    length_padded Nat.two_pos hday]
  rw [length_padded (by decide) hyear]

theorem dayLength?_dateText {m : Moment} (h : m.isValid = true) (rest : List Char) :
    dayLength? (m.dateText.toList ++ rest) = some 10 := by
  obtain ⟨⟨hyear, hmonth, hday⟩, -⟩ := width_of_isValid h
  have hlength : (padded 4 m.year).toList.length = 4 := length_padded (by decide) hyear
  -- The shape is told by the length, the hyphen behind the year, and the digit behind that.
  have hshort : (m.dateText.toList ++ rest).length ≠ 7 := by
    rw [List.length_append, length_dateText h]
    omega
  obtain ⟨c, cs, hcs⟩ := List.exists_cons_of_ne_nil (padded_ne_nil Nat.two_pos hmonth)
  have hdigit : c.isDigit = true := by
    apply isDigit_of_mem_padded
    rw [hcs]
    exact List.mem_cons_self
  have hat : (m.dateText.toList ++ rest)[4]? = some '-' := by
    rw [toList_dateText, List.append_assoc, List.getElem?_append_right (by omega), hlength]
    rfl
  have hnext : (m.dateText.toList ++ rest)[5]? = some c := by
    rw [toList_dateText, List.append_assoc, List.getElem?_append_right (by omega), hlength, hcs]
    rfl
  rw [dayLength?, if_neg hshort, if_pos hat, hnext, if_neg]
  rintro ⟨⟩
  exact absurd hdigit (by decide)

/-- The text of a moment, with its fraction and its zone as they are given. -/
def written (m : Moment) (fraction zone : String) : String :=
  m.dateText ++ "T" ++ (padded 2 m.hour ++ ":" ++ padded 2 m.minute ++ ":" ++ padded 2 m.sec ++
    fraction) ++ zone

theorem toList_written (m : Moment) (fraction zone : String) :
    (written m fraction zone).toList = m.dateText.toList ++
      'T' :: (clockChars m.hour m.minute m.sec fraction.toList ++ zone.toList) := by
  have ht : "T".toList = ['T'] := rfl
  have hcolon : ":".toList = [':'] := rfl
  rw [written, clockChars]
  simp only [String.toList_append, ht, hcolon, List.append_assoc, List.cons_append, List.nil_append]

theorem mem_clockChars {hour minute sec micro : Nat} {fraction : String} {c : Char}
    (hfraction : Fraction micro fraction) (hc : c ∈ clockChars hour minute sec fraction.toList) :
    c.isDigit = true ∨ c = ':' ∨ c = '.' := by
  simp only [clockChars, List.mem_append, List.mem_cons] at hc
  rcases hc with hc | hc | hc | hc | hc | hc
  · exact .inl (isDigit_of_mem_padded hc)
  · exact .inr (.inl hc)
  · exact .inl (isDigit_of_mem_padded hc)
  · exact .inr (.inl hc)
  · exact .inl (isDigit_of_mem_padded hc)
  cases hfraction with
  | digits =>
    rw [toList_point, List.mem_cons] at hc
    rcases hc with hc | hc
    · exact .inr (.inr hc)
    · exact .inl (isDigit_of_mem_padded hc)
  | none => cases hc

theorem mem_dateText {m : Moment} {c : Char} (hc : c ∈ m.dateText.toList) :
    c.isDigit = true ∨ c = '-' := by
  rw [toList_dateText] at hc
  simp only [List.mem_append, List.mem_cons] at hc
  rcases hc with hc | hc | hc | hc | hc
  · exact .inl (isDigit_of_mem_padded hc)
  · exact .inr hc
  · exact .inl (isDigit_of_mem_padded hc)
  · exact .inr hc
  · exact .inl (isDigit_of_mem_padded hc)

theorem mem_zone {zone : String} {c : Char} (h : Zone o zone) (ho : ClockOffset o)
    (hc : c ∈ zone.toList) :
    c.isDigit = true ∨ c = '+' ∨ c = '-' ∨ c = ':' ∨ c = 'Z' := by
  cases h with
  | offset =>
    rcases mem_offsetText ho hc with h | h | h | h
    · exact .inl h
    · exact .inr (.inl h)
    · exact .inr (.inr (.inl h))
    · exact .inr (.inr (.inr (.inl h)))
  | zulu => exact .inr (.inr (.inr (.inr (List.mem_singleton.mp hc))))
  | naive => cases hc

theorem moment?_written {m : Moment} {fraction : String} {zone : List Char}
    (hm : m.isValid = true) (hfraction : Fraction m.micro fraction)
    (hzone : ∀ c ∈ zone.head?, beginsOffset c = true) (hoffset : offset? zone = some m.offset) :
    moment? (m.dateText.toList ++
      'T' :: (clockChars m.hour m.minute m.sec fraction.toList ++ zone)) = some m := by
  obtain ⟨-, hhour, hminute, hsec, hmicro⟩ := width_of_isValid hm
  have hclock := clock?_clockChars hhour hminute hsec hmicro hfraction
  have hplain : ∀ c ∈ clockChars m.hour m.minute m.sec fraction.toList, beginsOffset c = false := by
    intro c hc
    rcases mem_clockChars hfraction hc with h | rfl | rfl
    · exact not_beginsOffset_of_isDigit h
    · decide
    · decide
  have htime := timeOfDay?_append hplain hzone hclock hoffset
  have hrest (after : List Char) : (m.dateText.toList ++ 'T' :: after).drop (10 + 1) = after := by
    rw [← List.drop_drop, List.drop_left' (length_dateText hm)]
    rfl
  rw [moment?, dayLength?_dateText hm]
  simp only [Option.bind_eq_bind, Option.bind_some, date?_dateText hm]
  rw [if_neg, hrest, htime]
  · exact if_pos hm
  · rw [List.length_append, length_dateText hm, List.length_cons]
    omega

theorem isBlank_of_mem_written {m : Moment} {fraction zone : String} {c : Char}
    (hfraction : Fraction m.micro fraction) (hzone : Zone o zone) (ho : ClockOffset o)
    (hc : c ∈ (written m fraction zone).toList) : isBlank c = false := by
  rw [toList_written, List.mem_append, List.mem_cons, List.mem_append] at hc
  rcases hc with hc | rfl | hc | hc
  · rcases mem_dateText hc with h | rfl
    · exact not_isBlank_of_isDigit h
    · decide
  · decide
  · rcases mem_clockChars hfraction hc with h | rfl | rfl
    · exact not_isBlank_of_isDigit h
    · decide
    · decide
  · rcases mem_zone hzone ho hc with h | rfl | rfl | rfl | rfl
    · exact not_isBlank_of_isDigit h
    all_goals decide

theorem spellOutZulu_written {m : Moment} {fraction zone : String}
    (hfraction : Fraction m.micro fraction) : spellOutZulu (written m fraction zone).toList =
      m.dateText.toList ++ 'T' ::
        (clockChars m.hour m.minute m.sec fraction.toList ++ spellOutZulu zone.toList) := by
  have hplain : 'Z' ∉ m.dateText.toList ++ 'T' ::
      clockChars m.hour m.minute m.sec fraction.toList := by
    intro hc
    rw [List.mem_append, List.mem_cons] at hc
    rcases hc with hc | hc | hc
    · rcases mem_dateText hc with h | h <;> exact absurd h (by decide)
    · exact absurd hc (by decide)
    · rcases mem_clockChars hfraction hc with h | h | h <;> exact absurd h (by decide)
  rw [toList_written, ← List.cons_append, ← List.append_assoc, spellOutZulu_append,
    spellOutZulu_of_not_mem hplain, List.append_assoc, List.cons_append]

/-- The texts of an instant: what a clock shows that is some whole minutes ahead of universal time,
with or without a fraction of zeros, and the offset of that clock. -/
inductive Rendering (i : Int) : String → Prop
  | clock {o : Int} {fraction zone : String} (ho : ClockOffset o)
      (hcalendar : 0 ≤ i + o ∧ i + o < Moment.calendarEnd)
      (hfraction : Fraction (Moment.ofLocalMicros (i + o) (some o)).micro fraction)
      (hzone : Zone o zone) :
      Rendering i (written (Moment.ofLocalMicros (i + o) (some o)) fraction zone)

theorem Rendering.ne_empty {s : String} (h : Rendering i s) : s ≠ "" := by
  cases h
  rw [← String.toList_inj.ne, toList_written]
  exact List.append_ne_nil_of_right_ne_nil _ (List.cons_ne_nil _ _)

/-- Every text of an instant is read as a moment of that instant on the clock it was written by. -/
theorem Rendering.moment? {s : String} (h : Rendering i s) : ∃ m : Moment,
    Iso.moment? (spellOutZulu (trimChars s.toList)) = some m ∧
      m.assumeUniversal.offset.isSome = true ∧ m.assumeUniversal.instant = i := by
  cases h with
  | @clock o fraction zone ho hcalendar hfraction hzone =>
    obtain ⟨hfirst, hlast⟩ := hcalendar
    obtain ⟨offset, hoffset, hsame, hbegins⟩ := hzone.offset? ho
    have hvalid : (Moment.ofLocalMicros (i + o) offset).isValid = true := by
      apply Moment.ofLocalMicros_isValid hfirst hlast
      rintro o' rfl
      obtain rfl : o' = o := hsame
      exact ho.day
    have hassumed : (Moment.ofLocalMicros (i + o) offset).assumeUniversal =
        Moment.ofLocalMicros (i + o) (some o) := by
      cases offset with
      | none =>
        rw [← hsame]
        rfl
      | some o' =>
        rw [← hsame]
        rfl
    refine ⟨Moment.ofLocalMicros (i + o) offset, ?_, ?_, ?_⟩
    · have htrim : trimChars _ = (written _ fraction zone).toList :=
        trimBy_of_forall fun c => isBlank_of_mem_written hfraction hzone ho
      rw [htrim, spellOutZulu_written hfraction]
      exact moment?_written hvalid hfraction hbegins hoffset
    · rw [hassumed]
      rfl
    · rw [hassumed, Moment.instant, Moment.localMicros_ofLocalMicros hfirst hlast]
      exact Int.add_sub_cancel i o

end CloudAudit.Time.Iso
