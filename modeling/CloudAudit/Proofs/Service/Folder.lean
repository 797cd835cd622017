import CloudAudit.Proofs.Number.Padded
import CloudAudit.Proofs.Time.Iso
import CloudAudit.Proofs.Time.Order
import CloudAudit.Service.Evaluation

namespace CloudAudit

namespace Time.Moment

open Number (padded padded_append_lt_iff)

variable {m n : Moment} {k : Int} {offset : Option Int}

/-- A moment of the calendar, by its parts. -/
structure OnClock (m : Moment) : Prop where
  date : m.date.InPlace
  hour : m.hour < 24
  minute : m.minute < 60
  sec : m.sec < 60
  micro : m.micro < 1000000

theorem OnClock.of_isValid (h : m.isValid = true) : m.OnClock := by
  simp only [isValid, Bool.and_eq_true, decide_eq_true_eq] at h
  obtain ⟨⟨⟨⟨⟨hdate, hhour⟩, hminute⟩, hsec⟩, hmicro⟩, -⟩ := h
  exact ⟨.of_isValid hdate, hhour, hminute, hsec, hmicro⟩

/-- The second of a moment is before that of another one on the same clock. -/
def SecondBefore (m n : Moment) : Prop :=
  m.date.Earlier n.date ∨ m.date = n.date ∧
    (m.hour < n.hour ∨ m.hour = n.hour ∧
      (m.minute < n.minute ∨ m.minute = n.minute ∧ m.sec < n.sec))

theorem localMicros_div (h : m.OnClock) : m.localMicros / second =
    ((m.date.ordinal : Int) - 1) * 86400 + (m.hour * 3600 + m.minute * 60 + m.sec : Nat) := by
  have hmicro := h.micro
  have hlength : dayLength = 86400000000 := rfl
  have hsecond : second = 1000000 := rfl
  rw [localMicros, hlength, hsecond]
  omega

theorem second_lt_iff (hm : m.OnClock) (hn : n.OnClock) :
    m.localMicros / second < n.localMicros / second ↔ m.SecondBefore n := by
  have hlt := Date.ordinal_lt_iff hm.date hn.date
  have heq := Date.ordinal_eq_iff hm.date hn.date
  have hmh := hm.hour
  have hmm := hm.minute
  have hms := hm.sec
  have hnh := hn.hour
  have hnm := hn.minute
  have hns := hn.sec
  rw [localMicros_div hm, localMicros_div hn, SecondBefore, ← hlt, ← heq]
  omega

theorem toList_stampText (h : 1000 ≤ m.year) : m.stampText.toList =
    (padded 4 m.year).toList ++ ((padded 2 m.month).toList ++ ((padded 2 m.day).toList ++
      'T' :: ((padded 2 m.hour).toList ++ ((padded 2 m.minute).toList ++
        ((padded 2 m.sec).toList ++ ['Z']))))) := by
  have hT : "T".toList = ['T'] := rfl
  have hZ : "Z".toList = ['Z'] := rfl
  have hyear : toString m.year = padded 4 m.year := (Number.padded_of_le (by decide) h).symm
  rw [stampText, hyear]
  simp only [String.toList_append, hT, hZ, List.append_assoc, List.cons_append, List.nil_append]

theorem stampText_lt_iff (hm : m.isValid = true) (hn : n.isValid = true) (hmyear : 1000 ≤ m.year)
    (hnyear : 1000 ≤ n.year) : m.stampText < n.stampText ↔ m.SecondBefore n := by
  obtain ⟨⟨hmy, hmm, hmd⟩, hmh, hmi, hms, -⟩ := Iso.width_of_isValid hm
  obtain ⟨⟨hny, hnm, hnd⟩, hnh, hni, hns, -⟩ := Iso.width_of_isValid hn
  rw [String.lt_iff_toList_lt, toList_stampText hmyear, toList_stampText hnyear,
    padded_append_lt_iff (by decide) hmy hny, padded_append_lt_iff Nat.two_pos hmm hnm,
    padded_append_lt_iff Nat.two_pos hmd hnd, List.cons_lt_cons_iff,
    padded_append_lt_iff Nat.two_pos hmh hnh, padded_append_lt_iff Nat.two_pos hmi hni,
    padded_append_lt_iff Nat.two_pos hms hns]
  have hT : ¬ 'T' < 'T' := lt_irrefl _
  have hZ : ¬ ['Z'] < ['Z'] := lt_irrefl _
  simp only [hT, hZ, false_or, true_and, and_false, or_false, SecondBefore, Date.Earlier, date,
    Date.mk.injEq, and_or_left, or_assoc, and_assoc]

theorem stampText_lt_iff_second (hm : m.isValid = true) (hn : n.isValid = true)
    (hmyear : 1000 ≤ m.year) (hnyear : 1000 ≤ n.year) :
    m.stampText < n.stampText ↔ m.localMicros / second < n.localMicros / second := by
  rw [stampText_lt_iff hm hn hmyear hnyear, second_lt_iff (.of_isValid hm) (.of_isValid hn)]

/-- The first instant of a year of universal time. -/
def yearStart (year : Nat) : Int := ((⟨year, 1, 1⟩ : Date).ordinal - 1) * dayLength

theorem localMicros_bounds (h : m.OnClock) :
    ((m.date.ordinal : Int) - 1) * dayLength ≤ m.localMicros ∧
      m.localMicros < m.date.ordinal * dayLength := by
  have hhour := h.hour
  have hminute := h.minute
  have hsec := h.sec
  have hmicro := h.micro
  have hlength : dayLength = 86400000000 := rfl
  have hsecond : second = 1000000 := rfl
  rw [localMicros, hlength, hsecond]
  omega

theorem yearStart_le_iff {year : Nat} (h : m.OnClock) (hyear : 1 ≤ year) :
    yearStart year ≤ m.localMicros ↔ year ≤ m.year := by
  have hfirst : (⟨year, 1, 1⟩ : Date).InPlace := by
    refine ⟨hyear, ⟨Nat.le_refl 1, Nat.le_add_left 1 11⟩, Nat.le_refl 1, ?_⟩
    simp [daysInMonth]
  have hdate : m.date.ordinal < (⟨year, 1, 1⟩ : Date).ordinal ↔ m.year < year := by
    have hmonth := h.date.month.1
    have hday := h.date.day.1
    rw [Date.ordinal_lt_iff h.date hfirst]
    simp only [Date.Earlier, date] at *
    omega
  obtain ⟨hlow, hhigh⟩ := localMicros_bounds h
  have hlength : dayLength = 86400000000 := rfl
  rw [hlength] at hlow hhigh
  rw [yearStart, hlength]
  omega

/-- The moment has a known offset, and its year by the clock of universal time lies between two
years. -/
structure InYears (first last : Nat) (m : Moment) : Prop where
  known : m.offset.isSome = true
  start : yearStart first ≤ m.instant
  stop : m.instant < yearStart (last + 1)

theorem InYears.toUniversal? (h : m.InYears 1000 9999) : ∃ u, m.toUniversal? = some u ∧
    u.isValid = true ∧ 1000 ≤ u.year ∧ u.localMicros = m.instant := by
  have hfirst : 0 ≤ yearStart 1000 := by decide +kernel
  have hend : calendarEnd = yearStart 10000 := by decide +kernel
  have hlow : 0 ≤ m.instant := Int.le_trans hfirst h.start
  have hhigh : m.instant < calendarEnd := by
    rw [hend]
    exact h.stop
  have hvalid : (ofLocalMicros m.instant (some 0)).isValid = true := by
    apply ofLocalMicros_isValid hlow hhigh
    rintro o ⟨⟩
    decide
  have hmicros : (ofLocalMicros m.instant (some 0)).localMicros = m.instant :=
    localMicros_ofLocalMicros hlow hhigh
  refine ⟨_, if_pos ⟨hlow, hhigh⟩, hvalid, ?_, hmicros⟩
  rw [← yearStart_le_iff (.of_isValid hvalid) (by decide), hmicros]
  exact h.start

end Time.Moment

open Time (Moment)

variable {s t : Moment}

theorem runFolder?_of_known (h : s.offset.isSome = true) :
    runFolder? s = s.toUniversal?.map Moment.stampText := by
  have hassumed : s.assumeUniversal = s := by
    rw [Moment.assumeUniversal, Option.isNone_eq_false_iff.mpr h]
    rfl
  rw [runFolder?, hassumed]

/-- Folders stand in the order of the instants of their runs, and two of them are the same just
where the runs are of one second of universal time. -/
theorem runFolder?_chronological (hs : s.InYears 1000 9999) (ht : t.InYears 1000 9999) :
    ∃ a b, runFolder? s = some a ∧ runFolder? t = some b ∧ (s.instant ≤ t.instant → a ≤ b) ∧
      (a = b ↔ s.instant / Time.second = t.instant / Time.second) := by
  obtain ⟨u, hu, huvalid, huyear, husame⟩ := hs.toUniversal?
  obtain ⟨v, hv, hvvalid, hvyear, hvsame⟩ := ht.toUniversal?
  have hlt : u.stampText < v.stampText ↔
      s.instant / Time.second < t.instant / Time.second := by
    rw [Moment.stampText_lt_iff_second huvalid hvvalid huyear hvyear, husame, hvsame]
  have hgt : v.stampText < u.stampText ↔
      t.instant / Time.second < s.instant / Time.second := by
    rw [Moment.stampText_lt_iff_second hvvalid huvalid hvyear huyear, husame, hvsame]
  have hfolder : runFolder? s = some u.stampText := by
    rw [runFolder?_of_known hs.known, hu, Option.map_some]
  have hfolder' : runFolder? t = some v.stampText := by
    rw [runFolder?_of_known ht.known, hv, Option.map_some]
  refine ⟨_, _, hfolder, hfolder', ?_, ?_⟩
  · intro hle
    rw [← not_lt, hgt, Int.not_lt]
    exact Int.ediv_le_ediv (by decide) hle
  · constructor
    · intro he
      have hnlt : ¬ s.instant / Time.second < t.instant / Time.second := by
        rw [← hlt, he]
        exact lt_irrefl _
      have hngt : ¬ t.instant / Time.second < s.instant / Time.second := by
        rw [← hgt, he]
        exact lt_irrefl _
      omega
    · intro he
      apply le_antisymm
      · rw [← not_lt, hgt]
        omega
      · rw [← not_lt, hlt]
        omega

/-- Two runs at the turn of a year and at the end of a leap day, by clocks on either side of
universal time. -/
theorem runFolder?_chronological_leap :
    let s : Moment := ⟨2023, 12, 31, 20, 30, 59, 999999, some (-19800000000)⟩
    let t : Moment := ⟨2024, 3, 1, 0, 29, 59, 0, some 3600000000⟩
    s.InYears 1000 9999 ∧ t.InYears 1000 9999 ∧ s.instant ≤ t.instant ∧
      runFolder? s = some "20240101T020059Z" ∧ runFolder? t = some "20240229T232959Z" ∧
      "20240101T020059Z" ≤ "20240229T232959Z" := by
  intro s t
  have hs : s.InYears 1000 9999 := ⟨rfl, by decide +kernel, by decide +kernel⟩
  have ht : t.InYears 1000 9999 := ⟨rfl, by decide +kernel, by decide +kernel⟩
  have hle : s.instant ≤ t.instant := by decide +kernel
  have hfolder : runFolder? s = some "20240101T020059Z" := by decide +kernel
  have hfolder' : runFolder? t = some "20240229T232959Z" := by decide +kernel
  obtain ⟨a, b, ha, hb, hab, -⟩ := runFolder?_chronological hs ht
  obtain rfl := Option.some.inj (ha.symm.trans hfolder)
  obtain rfl := Option.some.inj (hb.symm.trans hfolder')
  exact ⟨hs, ht, hle, hfolder, hfolder', hab hle⟩

end CloudAudit
