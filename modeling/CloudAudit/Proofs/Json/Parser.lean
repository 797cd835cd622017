import CloudAudit.Json.Parser
import CloudAudit.Proofs.Result

namespace CloudAudit.Json.Parser

variable {negative : Bool} {cs rest : List Char} {v : Json}

theorem length_dropWhile_le (p : Char → Bool) (cs : List Char) :
    (cs.dropWhile p).length ≤ cs.length :=
  (List.dropWhile_sublist p).length_le

theorem length_skipBlanks_le (cs : List Char) : (skipBlanks cs).length ≤ cs.length :=
  length_dropWhile_le _ cs

theorem length_hex4?_lt {n : Nat} (h : hex4? cs = some (n, rest)) : rest.length < cs.length := by
  rw [hex4?.eq_def] at h
  split at h
  case h_1 a b c d cs =>
    simp only [Option.bind_eq_bind, Option.bind_eq_some_iff, Option.some.injEq, Prod.mk.injEq] at h
    obtain ⟨_, _, _, _, _, _, _, _, _, rfl⟩ := h
    simp only [List.length_cons]
    omega
  case h_2 => cases h

theorem length_unicodeEscape?_lt {c : Char} (h : unicodeEscape? cs = some (c, rest)) :
    rest.length < cs.length := by
  rw [unicodeEscape?.eq_def, Option.bind_eq_bind, Option.bind_eq_some_iff] at h
  obtain ⟨⟨hi, tail⟩, hhi, h⟩ := h
  have htail := length_hex4?_lt hhi
  have hplain {c' : Char} (h : some (c', tail) = some (c, rest)) : rest.length < cs.length :=
    (Prod.mk.inj (Option.some.inj h)).2 ▸ htail
  dsimp only at h
  split at h
  · split at h
    · rw [Option.bind_eq_some_iff] at h
      obtain ⟨⟨lo, after⟩, hlo, h⟩ := h
      have hafter := length_hex4?_lt hlo
      simp only [List.length_cons] at htail
      dsimp only at h
      split at h
      · obtain ⟨-, rfl⟩ := Prod.mk.inj (Option.some.inj h)
        omega
      · exact hplain h
    · exact hplain h
  · split at h
    · exact hplain h
    · exact hplain h

theorem length_string_lt {fuel : Nat} {acc : List Char} {s : String}
    (h : string fuel acc cs = .ok (s, rest)) : rest.length < cs.length := by
  fun_induction string fuel acc cs with
  | case1 => cases h
  | case2 => cases h
  | case3 =>
    cases h
    exact Nat.lt_succ_self _
  | case4 fuel acc tail c after he ih =>
    have hafter := length_unicodeEscape?_lt he
    have htail := ih h
    simp only [List.length_cons]
    omega
  | case5 => cases h
  | case6 fuel acc e tail _ c he ih =>
    have htail := ih h
    simp only [List.length_cons]
    omega
  | case7 => cases h
  | case8 => cases h
  | case9 fuel acc c tail _ _ _ hc ih =>
    have htail := ih h
    simp only [List.length_cons]
    omega

theorem length_leadingSign_le (cs : List Char) : (Text.leadingSign cs).2.length ≤ cs.length := by
  rw [Text.leadingSign.eq_def]
  split
  · exact Nat.le_succ _
  · exact Nat.le_succ _
  · exact Nat.le_refl _

theorem length_fraction_le (cs : List Char) : (fraction cs).2.length ≤ cs.length := by
  rw [fraction.eq_def]
  split
  case h_1 tail =>
    split
    case h_1 => exact Nat.le_refl _
    case h_2 ds rest _ hspan =>
      have hrest : tail.dropWhile Char.isDigit = rest := congrArg Prod.snd hspan
      rw [← hrest]
      exact Nat.le_succ_of_le (length_dropWhile_le _ tail)
  case h_2 => exact Nat.le_refl _

theorem length_exponent_le (cs : List Char) : (exponent cs).2.length ≤ cs.length := by
  rw [exponent.eq_def]
  split
  case h_1 c tail =>
    split
    case isTrue =>
      have hsign := length_leadingSign_le tail
      dsimp only
      split
      case h_1 => exact Nat.le_refl _
      case h_2 ds rest _ hspan =>
        have hrest : (Text.leadingSign tail).2.dropWhile Char.isDigit = rest :=
          congrArg Prod.snd hspan
        have hle := length_dropWhile_le Char.isDigit (Text.leadingSign tail).2
        rw [hrest] at hle
        simp only [List.length_cons]
        omega
    case isFalse => exact Nat.le_refl _
  case h_2 => exact Nat.le_refl _

theorem length_dropWhile_lt (p : Char → Bool) (h : cs.takeWhile p ≠ []) :
    (cs.dropWhile p).length < cs.length := by
  have hlength := congrArg List.length (List.takeWhile_append_dropWhile (p := p) (l := cs))
  rw [List.length_append] at hlength
  have hpos := List.length_pos_iff.mpr h
  omega

/-- A numeral is whole or not; its fraction and its exponent follow one digit at least. -/
theorem number_ok (h : number negative cs = .ok (v, rest)) :
    ∃ after, after.length < cs.length ∧ rest = (exponent (fraction after).2).2 ∧
      ((∃ n, v = .int n) ∨ ∃ x, v = .float x) := by
  rw [number.eq_def] at h
  dsimp only at h
  split at h
  case h_1 tail =>
    refine ⟨tail, Nat.lt_succ_self _, ?_⟩
    split at h
    case isTrue => cases h
    case isFalse =>
      split at h
      case h_1 =>
        split at h
        case isTrue => cases h
        case isFalse =>
          cases h
          exact ⟨rfl, .inl ⟨_, rfl⟩⟩
      case h_2 =>
        cases h
        exact ⟨rfl, .inr ⟨_, rfl⟩⟩
  case h_2 =>
    split at h
    case isTrue => cases h
    case isFalse hne =>
      have hdigits : cs.takeWhile Char.isDigit ≠ [] := by
        intro hnil
        apply hne
        change ((cs.takeWhile Char.isDigit).map _).isEmpty = true
        rw [hnil]
        rfl
      refine ⟨cs.dropWhile Char.isDigit, length_dropWhile_lt _ hdigits, ?_⟩
      split at h
      case h_1 =>
        split at h
        case isTrue => cases h
        case isFalse =>
          cases h
          exact ⟨rfl, .inl ⟨_, rfl⟩⟩
      case h_2 =>
        cases h
        exact ⟨rfl, .inr ⟨_, rfl⟩⟩

theorem length_number_lt (h : number negative cs = .ok (v, rest)) : rest.length < cs.length := by
  obtain ⟨after, hlt, rfl, -⟩ := number_ok h
  calc (exponent (fraction after).2).2.length ≤ (fraction after).2.length := length_exponent_le _
    _ ≤ after.length := length_fraction_le after
    _ < cs.length := hlt

theorem length_scalar_lt (h : scalar cs = .ok (v, rest)) : rest.length < cs.length := by
  rw [scalar.eq_def] at h
  split at h
  case h_7 => exact Nat.lt_succ_of_lt (length_number_lt h)
  case h_8 => exact length_number_lt h
  all_goals
    cases h
    simp only [List.length_cons]
    omega

/-- How a value is read. -/
inductive ReadsValue (fuel : Nat) : (nesting : Nat) → List Char → Json → List Char → Prop
  | text {n tail s rest} (h : string (tail.length + 1) [] tail = .ok (s, rest)) :
    ReadsValue fuel n ('"' :: tail) (.str s) rest
  | noItems {n tail rest} (h : skipBlanks tail = ']' :: rest) :
    ReadsValue fuel (n + 1) ('[' :: tail) (.arr []) rest
  | list {n tail vs rest} (h : items fuel n (skipBlanks tail) = .ok (vs, rest)) :
    ReadsValue fuel (n + 1) ('[' :: tail) (.arr vs) rest
  | noFields {n tail rest} (h : skipBlanks tail = '\x7d' :: rest) :
    ReadsValue fuel (n + 1) ('\x7b' :: tail) (.obj []) rest
  | object {n tail vs rest} (h : fields fuel n [] (skipBlanks tail) = .ok (vs, rest)) :
    ReadsValue fuel (n + 1) ('\x7b' :: tail) (.obj vs) rest
  | scalar {n cs v rest} (h : scalar cs = .ok (v, rest)) : ReadsValue fuel n cs v rest

/-- How the items of a list are read: one, and more behind a comma. -/
inductive ReadsItems (fuel n : Nat) (cs : List Char) : List Json → List Char → Prop
  | more {v vs rest₁ rest₂ rest} (h : value fuel n cs = .ok (v, rest₁))
    (hcomma : skipBlanks rest₁ = ',' :: rest₂)
    (hmore : items fuel n (skipBlanks rest₂) = .ok (vs, rest)) : ReadsItems fuel n cs (v :: vs) rest
  | last {v rest₁ rest} (h : value fuel n cs = .ok (v, rest₁))
    (hend : skipBlanks rest₁ = ']' :: rest) : ReadsItems fuel n cs [v] rest

/-- How the fields of an object are read after some others. -/
inductive ReadsFields (fuel n : Nat) (acc : Fields) : List Char → Fields → List Char → Prop
  | more {tail name rest₁ rest₂ v rest₃ rest₄ vs rest}
    (hname : string (tail.length + 1) [] tail = .ok (name, rest₁))
    (hcolon : skipBlanks rest₁ = ':' :: rest₂)
    (h : value fuel n (skipBlanks rest₂) = .ok (v, rest₃))
    (hcomma : skipBlanks rest₃ = ',' :: rest₄)
    (hmore : fields fuel n (acc.put name v) (skipBlanks rest₄) = .ok (vs, rest)) :
    ReadsFields fuel n acc ('"' :: tail) vs rest
  | last {tail name rest₁ rest₂ v rest₃ rest}
    (hname : string (tail.length + 1) [] tail = .ok (name, rest₁))
    (hcolon : skipBlanks rest₁ = ':' :: rest₂)
    (h : value fuel n (skipBlanks rest₂) = .ok (v, rest₃))
    (hend : skipBlanks rest₃ = '\x7d' :: rest) :
    ReadsFields fuel n acc ('"' :: tail) (acc.put name v) rest

theorem value_ok {fuel n : Nat} (h : value (fuel + 1) n cs = .ok (v, rest)) :
    ReadsValue fuel n cs v rest := by
  rw [value.eq_def] at h
  dsimp only at h
  split at h
  case h_1 =>
    obtain ⟨⟨s, rest'⟩, hs, h⟩ := Result.bind_eq_ok.mp h
    cases h
    exact .text hs
  case h_2 =>
    cases n with
    | zero => cases h
    | succ n =>
      dsimp only at h
      split at h
      case h_1 hend =>
        cases h
        exact .noItems hend
      case h_2 =>
        obtain ⟨⟨vs, rest'⟩, hvs, h⟩ := Result.bind_eq_ok.mp h
        cases h
        exact .list hvs
  case h_3 =>
    cases n with
    | zero => cases h
    | succ n =>
      dsimp only at h
      split at h
      case h_1 hend =>
        cases h
        exact .noFields hend
      case h_2 =>
        obtain ⟨⟨vs, rest'⟩, hvs, h⟩ := Result.bind_eq_ok.mp h
        cases h
        exact .object hvs
  case h_4 => exact .scalar h

theorem items_ok {fuel n : Nat} {vs : List Json} (h : items (fuel + 1) n cs = .ok (vs, rest)) :
    ReadsItems fuel n cs vs rest := by
  rw [items] at h
  obtain ⟨⟨v, rest₁⟩, hv, h⟩ := Result.bind_eq_ok.mp h
  dsimp only at h
  split at h
  case h_1 hcomma =>
    obtain ⟨⟨vs', rest'⟩, hvs, h⟩ := Result.bind_eq_ok.mp h
    cases h
    exact .more hv hcomma hvs
  case h_2 hend =>
    cases h
    exact .last hv hend
  case h_3 => cases h

theorem fields_ok {fuel n : Nat} {acc vs : Fields}
    (h : fields (fuel + 1) n acc cs = .ok (vs, rest)) : ReadsFields fuel n acc cs vs rest := by
  rw [fields.eq_def] at h
  dsimp only at h
  split at h
  case h_1 =>
    obtain ⟨⟨name, rest₁⟩, hname, h⟩ := Result.bind_eq_ok.mp h
    dsimp only at h
    split at h
    case h_1 hcolon =>
      obtain ⟨⟨v, rest₃⟩, hv, h⟩ := Result.bind_eq_ok.mp h
      dsimp only at h
      split at h
      case h_1 hcomma => exact .more hname hcolon hv hcomma h
      case h_2 hend =>
        cases h
        exact .last hname hcolon hv hend
      case h_3 => cases h
    case h_2 => cases h
  case h_2 => cases h

theorem length_lt_of_skipBlanks {c : Char} {tail : List Char} (h : skipBlanks cs = c :: tail) :
    tail.length < cs.length := by
  have hblanks := length_skipBlanks_le cs
  rw [h] at hblanks
  exact hblanks

/-- What is read takes at least one character. -/
theorem length_rest_lt (fuel : Nat) :
    (∀ n cs v rest, value fuel n cs = .ok (v, rest) → rest.length < cs.length) ∧
    (∀ n cs vs rest, items fuel n cs = .ok (vs, rest) → rest.length < cs.length) ∧
    ∀ n acc cs vs rest, fields fuel n acc cs = .ok (vs, rest) → rest.length < cs.length := by
  induction fuel with
  | zero => exact ⟨nofun, nofun, nofun⟩
  | succ fuel ih =>
    obtain ⟨hvalue, hitems, hfields⟩ := ih
    refine ⟨fun n cs v rest h => ?_, fun n cs vs rest h => ?_, fun n acc cs vs rest h => ?_⟩
    · cases value_ok h with
      | text hs => exact Nat.lt_succ_of_lt (length_string_lt hs)
      | noItems hend => exact Nat.lt_succ_of_lt (length_lt_of_skipBlanks hend)
      | noFields hend => exact Nat.lt_succ_of_lt (length_lt_of_skipBlanks hend)
      | list hvs =>
        have hlt := Nat.lt_of_lt_of_le (hitems _ _ _ _ hvs) (length_skipBlanks_le _)
        exact Nat.lt_succ_of_lt hlt
      | object hvs =>
        have hlt := Nat.lt_of_lt_of_le (hfields _ _ _ _ _ hvs) (length_skipBlanks_le _)
        exact Nat.lt_succ_of_lt hlt
      | scalar hv => exact length_scalar_lt hv
    · cases items_ok h with
      | more hv hcomma hmore =>
        calc rest.length < _ := Nat.lt_of_lt_of_le (hitems _ _ _ _ hmore) (length_skipBlanks_le _)
          _ < _ := length_lt_of_skipBlanks hcomma
          _ < cs.length := hvalue _ _ _ _ hv
      | last hv hend => exact Nat.lt_trans (length_lt_of_skipBlanks hend) (hvalue _ _ _ _ hv)
    · cases fields_ok h with
      | more hname hcolon hv hcomma hmore =>
        have hlt := hfields _ _ _ _ _ hmore
        calc rest.length < _ := Nat.lt_of_lt_of_le hlt (length_skipBlanks_le _)
          _ < _ := length_lt_of_skipBlanks hcomma
          _ < _ := Nat.lt_of_lt_of_le (hvalue _ _ _ _ hv) (length_skipBlanks_le _)
          _ < _ := length_lt_of_skipBlanks hcolon
          _ < _ := length_string_lt hname
          _ < _ := Nat.lt_succ_self _
      | last hname hcolon hv hend =>
        calc rest.length < _ := length_lt_of_skipBlanks hend
          _ < _ := Nat.lt_of_lt_of_le (hvalue _ _ _ _ hv) (length_skipBlanks_le _)
          _ < _ := length_lt_of_skipBlanks hcolon
          _ < _ := length_string_lt hname
          _ < _ := Nat.lt_succ_self _

theorem bind_congr_ok {α β : Type} {x y : Except ParseFault α} {f g : α → Except ParseFault β}
    (hxy : x = y) (hfg : ∀ a, y = .ok a → f a = g a) : x >>= f = y >>= g := by
  subst hxy
  cases x with
  | error fault => rfl
  | ok a => exact hfg a rfl

/-- A reader with fuel for the text before it comes to the same with more. -/
theorem fueled (fuel : Nat) :
    (∀ k n cs, 2 * cs.length < fuel → value (fuel + k) n cs = value fuel n cs) ∧
    (∀ k n cs, 2 * cs.length + 1 < fuel → items (fuel + k) n cs = items fuel n cs) ∧
    ∀ k n acc cs, 2 * cs.length + 1 < fuel → fields (fuel + k) n acc cs = fields fuel n acc cs := by
  -- Reading a list takes fuel before it takes a character off, so each character is worth two.
  induction fuel with
  | zero => exact ⟨nofun, nofun, nofun⟩
  | succ fuel ih =>
    obtain ⟨hvalue, hitems, hfields⟩ := ih
    refine ⟨fun k n cs h => ?_, fun k n cs h => ?_, fun k n acc cs h => ?_⟩
    · rw [Nat.add_right_comm, value.eq_def (fuel + k + 1), value.eq_def (fuel + 1)]
      dsimp only
      split
      case h_1 => rfl
      case h_2 tail =>
        have hblanks := length_skipBlanks_le tail
        rw [List.length_cons] at h
        cases n with
        | zero => rfl
        | succ n =>
          dsimp only
          split
          case h_1 => rfl
          case h_2 => rw [hitems k n _ (by omega)]
      case h_3 tail =>
        have hblanks := length_skipBlanks_le tail
        rw [List.length_cons] at h
        cases n with
        | zero => rfl
        | succ n =>
          dsimp only
          split
          case h_1 => rfl
          case h_2 => rw [hfields k n [] _ (by omega)]
      case h_4 => rfl
    · rw [Nat.add_right_comm, items, items]
      refine bind_congr_ok (hvalue k n cs (by omega)) ?_
      rintro ⟨v, rest⟩ hv
      have hlt := (length_rest_lt fuel).1 n cs v rest hv
      have hblanks := length_skipBlanks_le rest
      dsimp only
      split
      case h_1 rest' he =>
        have hskip := length_skipBlanks_le rest'
        rw [he, List.length_cons] at hblanks
        rw [hitems k n _ (by omega)]
      case h_2 => rfl
      case h_3 => rfl
    · rw [Nat.add_right_comm, fields.eq_def (fuel + k + 1), fields.eq_def (fuel + 1)]
      dsimp only
      split
      case h_1 tail =>
        refine bind_congr_ok rfl ?_
        rintro ⟨name, rest⟩ hname
        have hlt := length_string_lt hname
        have hblanks := length_skipBlanks_le rest
        rw [List.length_cons] at h
        dsimp only
        split
        case h_1 rest₁ he =>
          have hskip := length_skipBlanks_le rest₁
          rw [he, List.length_cons] at hblanks
          refine bind_congr_ok (hvalue k n _ (by omega)) ?_
          rintro ⟨v, rest₂⟩ hv
          have hlt₂ := (length_rest_lt fuel).1 n _ v rest₂ hv
          have hblanks₂ := length_skipBlanks_le rest₂
          dsimp only
          split
          case h_1 rest₃ he₂ =>
            have hskip₃ := length_skipBlanks_le rest₃
            rw [he₂, List.length_cons] at hblanks₂
            exact hfields k n _ _ (by omega)
          case h_2 => rfl
          case h_3 => rfl
        case h_2 => rfl
      case h_2 => rfl

end CloudAudit.Json.Parser

namespace CloudAudit.Json

/-- A document is read to its end whatever its length: more fuel than `parse` takes changes
nothing. -/
theorem parse_eq_value (nesting fuel : Nat) (s : String) (h : 2 * s.toList.length < fuel) :
    parse nesting s = (do
      let (v, rest) ← Parser.value fuel nesting (Parser.skipBlanks s.toList)
      if (Parser.skipBlanks rest).isEmpty then .ok v else .error .malformed) := by
  have hblanks := Parser.length_skipBlanks_le s.toList
  obtain ⟨k, rfl⟩ := Nat.exists_eq_add_of_le
    (show 2 * (Parser.skipBlanks s.toList).length + 1 ≤ fuel by omega)
  rw [(Parser.fueled _).1 k nesting _ (Nat.lt_succ_self _)]
  rfl

end CloudAudit.Json
