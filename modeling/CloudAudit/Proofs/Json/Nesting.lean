import CloudAudit.Json.Walk
import CloudAudit.Proofs.Json.Parser

namespace CloudAudit

theorem Text.fromUTF8?_toUTF8 (text : String) :
    String.fromUTF8? ⟨text.toUTF8.data.toList.toArray⟩ = some text := by
  rw [Array.toArray_toList]
  change String.fromUTF8? text.toByteArray = some text
  rw [String.fromUTF8?, dif_pos text.isValidUTF8]
  rfl

theorem copyCalls_le_of_mem {v : Json} {items : List Json} (h : v ∈ items) :
    v.copyCalls ≤ mostCopyCalls items := by
  induction items with
  | nil => cases h
  | cons w items ih =>
    obtain rfl | h := List.mem_cons.mp h
    · exact Nat.le_max_left _ _
    · exact Nat.le_trans (ih h) (Nat.le_max_right _ _)

theorem copyCalls_le_of_get? {v : Json} {name : String} {fields : Fields}
    (h : fields.get? name = some v) : v.copyCalls ≤ mostFieldCopyCalls fields := by
  induction fields with
  | nil => cases h
  | cons field fields ih =>
    rw [Fields.get?, List.lookup_cons] at h
    split at h
    · cases h
      exact Nat.le_max_left _ _
    · exact Nat.le_trans (ih h) (Nat.le_max_right _ _)

namespace Json

namespace Parser

theorem skipBlanks_bracket (cs : List Char) : skipBlanks ('[' :: cs) = '[' :: cs := rfl

/-- A bracket too many is seen whatever follows it. -/
theorem value_brackets (fuel nesting : Nat) (rest : List Char) :
    value (2 * nesting + 1 + fuel) nesting (List.replicate (nesting + 1) '[' ++ rest) =
      .error (.nestedTooDeep true) := by
  induction nesting generalizing fuel with
  | zero =>
    rw [Nat.mul_zero, Nat.zero_add, Nat.add_comm]
    rfl
  | succ nesting ih =>
    have hfuel : 2 * (nesting + 1) + 1 + fuel = 2 * nesting + 1 + fuel + 1 + 1 := by omega
    have ih := ih fuel
    rw [hfuel, List.replicate_succ, List.cons_append, value]
    rw [List.replicate_succ, List.cons_append] at ih ⊢
    rw [skipBlanks_bracket]
    change (items (2 * nesting + 1 + fuel + 1) nesting _ >>= _) = _
    rw [items, ih]
    rfl

variable {α β : Type} {n m : Nat} {cs rest : List Char}

/-- The second reader has the result of the first, which may give up for the depth. -/
inductive Deepens : (x y : Except ParseFault α) → Prop
  | same (x) : Deepens x x
  | deep (inList y) : Deepens (.error (.nestedTooDeep inList)) y

theorem Deepens.bind {x y : Except ParseFault α} {f g : α → Except ParseFault β}
    (h : Deepens x y) (hf : ∀ v, Deepens (f v) (g v)) : Deepens (x >>= f) (y >>= g) := by
  cases h with
  | same =>
    cases x with
    | error fault => exact .same _
    | ok v => exact hf v
  | deep inList => exact .deep inList _

theorem deepens (fuel : Nat) :
    (∀ n m cs, n ≤ m → Deepens (value fuel n cs) (value fuel m cs)) ∧
    (∀ n m cs, n ≤ m → Deepens (items fuel n cs) (items fuel m cs)) ∧
    ∀ n m acc cs, n ≤ m → Deepens (fields fuel n acc cs) (fields fuel m acc cs) := by
  induction fuel with
  | zero => exact ⟨fun _ _ _ _ => .same _, fun _ _ _ _ => .same _, fun _ _ _ _ _ => .same _⟩
  | succ fuel ih =>
    obtain ⟨hvalue, hitems, hfields⟩ := ih
    refine ⟨fun n m cs h => ?_, fun n m cs h => ?_, fun n m acc cs h => ?_⟩
    · rw [value.eq_def (fuel + 1) n, value.eq_def (fuel + 1) m]
      dsimp only
      split
      case h_1 => exact .same _
      case h_2 rest =>
        cases n with
        | zero => exact .deep true _
        | succ n =>
          cases m with
          | zero => cases h
          | succ m =>
            dsimp only
            split
            case h_1 => exact .same _
            case h_2 => exact (hitems n m _ (Nat.le_of_succ_le_succ h)).bind fun _ => .same _
      case h_3 rest =>
        cases n with
        | zero => exact .deep false _
        | succ n =>
          cases m with
          | zero => cases h
          | succ m =>
            dsimp only
            split
            case h_1 => exact .same _
            case h_2 => exact (hfields n m _ _ (Nat.le_of_succ_le_succ h)).bind fun _ => .same _
      case h_4 => exact .same _
    · refine (hvalue n m cs h).bind ?_
      rintro ⟨v, rest⟩
      dsimp only
      split
      case h_1 => exact (hitems n m _ h).bind fun _ => .same _
      case h_2 => exact .same _
      case h_3 => exact .same _
    · rw [fields.eq_def (fuel + 1) n, fields.eq_def (fuel + 1) m]
      dsimp only
      split
      case h_1 rest =>
        refine (Deepens.same _).bind ?_
        rintro ⟨name, rest⟩
        dsimp only
        split
        case h_1 =>
          refine (hvalue n m _ h).bind ?_
          rintro ⟨v, rest⟩
          dsimp only
          split
          case h_1 => exact hfields n m _ _ h
          case h_2 => exact .same _
          case h_3 => exact .same _
        case h_2 => exact .same _
      case h_2 => exact .same _

/-- A number or a word is copied in one call. -/
theorem copyCalls_scalar {v : Json} (h : scalar cs = .ok (v, rest)) : v.copyCalls = 1 := by
  have hnumber : ∀ negative ds, number negative ds = .ok (v, rest) → v.copyCalls = 1 := by
    intro negative ds hds
    obtain ⟨_, _, _, ⟨n, rfl⟩ | ⟨x, rfl⟩⟩ := number_ok hds
    · rfl
    · rfl
  rw [scalar.eq_def] at h
  split at h
  case h_7 => exact hnumber true _ h
  case h_8 => exact hnumber false _ h
  all_goals
    cases h
    rfl

theorem mostFieldCopyCalls_put (fields : Fields) (name : String) (v : Json) :
    mostFieldCopyCalls (fields.put name v) ≤ max (mostFieldCopyCalls fields) v.copyCalls := by
  induction fields with
  | nil =>
    simp only [Fields.put, mostFieldCopyCalls]
    omega
  | cons field fields ih =>
    rw [Fields.put]
    split
    · simp only [mostFieldCopyCalls]
      omega
    · simp only [mostFieldCopyCalls]
      omega

/-- What is read copies in two calls for each level that may be nested, and one for an atom. -/
theorem copyCalls_le (fuel : Nat) :
    (∀ n cs v rest, value fuel n cs = .ok (v, rest) → v.copyCalls ≤ 2 * n + 1) ∧
    (∀ n cs vs rest, items fuel n cs = .ok (vs, rest) → mostCopyCalls vs ≤ 2 * n + 1) ∧
    ∀ n acc cs vs rest, mostFieldCopyCalls acc ≤ 2 * n + 1 →
      fields fuel n acc cs = .ok (vs, rest) → mostFieldCopyCalls vs ≤ 2 * n + 1 := by
  induction fuel with
  | zero => exact ⟨nofun, nofun, nofun⟩
  | succ fuel ih =>
    obtain ⟨hvalue, hitems, hfields⟩ := ih
    refine ⟨fun n cs v rest h => ?_, fun n cs vs rest h => ?_, fun n acc cs vs rest hacc h => ?_⟩
    · cases value_ok h with
      | text => exact Nat.le_add_left 1 _
      | noItems => exact Nat.le_add_left 2 _
      | noFields => exact Nat.le_add_left 2 _
      | list hvs =>
        have hle := hitems _ _ _ _ hvs
        simp only [copyCalls]
        omega
      | object hvs =>
        have hle := hfields _ _ _ _ _ (Nat.zero_le _) hvs
        simp only [copyCalls]
        omega
      | scalar hv =>
        rw [copyCalls_scalar hv]
        exact Nat.le_add_left 1 _
    · cases items_ok h with
      | more hv _ hmore => exact Nat.max_le.mpr ⟨hvalue _ _ _ _ hv, hitems _ _ _ _ hmore⟩
      | last hv _ => exact Nat.max_le.mpr ⟨hvalue _ _ _ _ hv, Nat.zero_le _⟩
    · have hput {name cs v rest} (hv : value fuel n cs = .ok (v, rest)) :
          mostFieldCopyCalls (Fields.put acc name v) ≤ 2 * n + 1 :=
        Nat.le_trans (mostFieldCopyCalls_put acc name v)
          (Nat.max_le.mpr ⟨hacc, hvalue _ _ _ _ hv⟩)
      cases fields_ok h with
      | more _ _ hv _ hmore => exact hfields _ _ _ _ _ (hput hv) hmore
      | last _ _ hv _ => exact hput hv

end Parser

theorem parse_brackets (nesting : Nat) (rest : List Char) :
    parse nesting (String.ofList (List.replicate (nesting + 1) '[' ++ rest)) =
      .error (.nestedTooDeep true) := by
  have hlength : 2 * (List.replicate (nesting + 1) '[' ++ rest).length + 1 =
      2 * nesting + 1 + (2 * rest.length + 2) := by
    rw [List.length_append, List.length_replicate]
    omega
  have hblanks : Parser.skipBlanks (List.replicate (nesting + 1) '[' ++ rest) =
      List.replicate (nesting + 1) '[' ++ rest := by
    rw [List.replicate_succ, List.cons_append, Parser.skipBlanks_bracket]
  rw [parse, String.toList_ofList]
  dsimp only
  rw [hblanks, hlength, Parser.value_brackets]
  rfl

/-- Where a document can be read with some depth, more depth makes no difference. -/
theorem parse_of_le {n m : Nat} {s : String} (h : n ≤ m)
    (hdeep : ∀ inList, parse n s ≠ .error (.nestedTooDeep inList)) : parse m s = parse n s := by
  have hparse : Parser.Deepens (parse n s) (parse m s) :=
    ((Parser.deepens _).1 n m _ h).bind fun _ => .same _
  generalize parse n s = x, parse m s = y at hparse hdeep
  cases hparse with
  | same => rfl
  | deep inList => exact absurd rfl (hdeep inList)

theorem copyCalls_of_parse {nesting : Nat} {s : String} {v : Json} (h : parse nesting s = .ok v) :
    v.copyCalls ≤ 2 * nesting + 1 := by
  obtain ⟨⟨w, rest⟩, hw, h⟩ := Result.bind_eq_ok.mp h
  dsimp only at h
  split at h
  case isTrue =>
    cases h
    exact (Parser.copyCalls_le _).1 nesting _ v rest hw
  case isFalse => cases h

end Json

end CloudAudit
