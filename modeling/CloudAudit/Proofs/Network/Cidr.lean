import CloudAudit.Network.Cidr
import CloudAudit.Proofs.Text.Decimal
import CloudAudit.Proofs.Text.Split

namespace CloudAudit

open Text

namespace Block

variable {a b c d n k x base : Nat} {blk : Block} {cs suffix : List Char}

/-- An address belongs to a block if it shares the leading bits. -/
def Has (blk : Block) (x : Nat) : Prop := x / blk.size = blk.base / blk.size

theorem size_pos (blk : Block) : 0 < blk.size := Nat.two_pow_pos _

theorem first_eq (blk : Block) : blk.first = blk.size * (blk.base / blk.size) := by
  have h := Nat.div_add_mod blk.base blk.size
  rw [first]
  omega

theorem has_iff : blk.Has x ↔ blk.first ≤ x ∧ x ≤ blk.last := by
  have hpos := blk.size_pos
  rw [Has, last, first_eq, Nat.div_eq_iff hpos, Nat.mul_comm]

theorem has_base (blk : Block) : blk.Has blk.base := rfl

theorem within_iff {inner outer : Block} :
    inner.within outer = true ↔ ∀ x, inner.Has x → outer.Has x := by
  have hpos := inner.size_pos
  have hlast : inner.last = inner.first + inner.size - 1 := rfl
  simp only [within, Bool.and_eq_true, decide_eq_true_eq, has_iff]
  constructor
  · intro h x hx
    omega
  · intro h
    have hfirst := h inner.first (by omega)
    have hend := h inner.last (by omega)
    omega

theorem div_pow_congr {y : Nat} (hk : k ≤ n) (h : x / Nat.pow 2 k = y / Nat.pow 2 k) :
    x / Nat.pow 2 n = y / Nat.pow 2 n := by
  obtain ⟨m, rfl⟩ := Nat.exists_eq_add_of_le hk
  have hpow : Nat.pow 2 (k + m) = Nat.pow 2 k * Nat.pow 2 m := Nat.pow_add 2 k m
  rw [hpow, ← Nat.div_div_eq_div_mul, ← Nat.div_div_eq_div_mul, h]

theorem Has.shorten (h : Has ⟨base, n⟩ x) (hk : k ≤ n) : Has ⟨base, k⟩ x :=
  div_pow_congr (Nat.sub_le_sub_left hk 32) h

/-- A block whose addresses all have a property is longer than the bits that its base shares with an
address that lacks it. -/
theorem lt_of_outside {p : Nat → Prop} (h : ∀ x, Has ⟨base, n⟩ x → p x) (hx : ¬ p x)
    (hshared : x / Nat.pow 2 (32 - k) = base / Nat.pow 2 (32 - k)) : k < n := by
  by_contra hn
  apply hx
  apply h
  exact div_pow_congr (Nat.sub_le_sub_left (Nat.le_of_not_lt hn) 32) hshared

theorem inPrivateRange_iff : (∃ r ∈ privateRanges, r.Has x) ↔
    x / 16777216 = 10 ∨ x / 1048576 = 172 * 16 + 1 ∨ x / 65536 = 192 * 256 + 168 := by
  simp only [privateRanges, List.mem_cons, List.not_mem_nil, or_false, exists_eq_or_imp,
    exists_eq_left]
  rfl

/-- The addresses and lengths of the blocks that lie in a private range. -/
def IsPrivate (a b n : Nat) : Prop :=
  a = 10 ∧ 8 ≤ n ∨ a = 172 ∧ 16 ≤ b ∧ b ≤ 31 ∧ 12 ≤ n ∨ a = 192 ∧ b = 168 ∧ 16 ≤ n

theorem within_of_isPrivate (h : IsPrivate a b n) (hb : b ≤ 255) (hc : c ≤ 255) (hd : d ≤ 255) :
    ∃ r ∈ privateRanges, ∀ x, Has ⟨address a b c d, n⟩ x → r.Has x := by
  rcases h with ⟨rfl, hn⟩ | ⟨rfl, hlow, hhigh, hn⟩ | ⟨rfl, rfl, hn⟩
  · refine ⟨⟨address 10 0 0 0, 8⟩, .head _, fun x hx => ?_⟩
    have hshort : x / 16777216 = address 10 b c d / 16777216 := hx.shorten hn
    change x / 16777216 = 10
    rw [hshort, address]
    omega
  · refine ⟨⟨address 172 16 0 0, 12⟩, .tail _ (.head _), fun x hx => ?_⟩
    have hshort : x / 1048576 = address 172 b c d / 1048576 := hx.shorten hn
    change x / 1048576 = 172 * 16 + 1
    rw [hshort, address]
    omega
  · refine ⟨⟨address 192 168 0 0, 16⟩, .tail _ (.tail _ (.head _)), fun x hx => ?_⟩
    have hshort : x / 65536 = address 192 168 c d / 65536 := hx.shorten hn
    change x / 65536 = 192 * 256 + 168
    rw [hshort, address]
    omega

theorem isPrivate_of_forall (hb : b ≤ 255) (hc : c ≤ 255) (hd : d ≤ 255)
    (h : ∀ x, Has ⟨address a b c d, n⟩ x → ∃ r ∈ privateRanges, r.Has x) : IsPrivate a b n := by
  simp only [inPrivateRange_iff] at h
  have hbase := h (address a b c d) (has_base _)
  rw [address] at hbase
  have hparts : a = 10 ∨ a = 172 ∧ 16 ≤ b ∧ b ≤ 31 ∨ a = 192 ∧ b = 168 := by omega
  -- The address with the last bit of the range turned is in no range, so the block must lack it.
  rcases hparts with rfl | ⟨rfl, hlow, hhigh⟩ | ⟨rfl, rfl⟩
  · have hn : 7 < n := by
      apply lt_of_outside (x := address 11 b c d) h
      · rw [address]
        omega
      · change address 11 b c d / 33554432 = address 10 b c d / 33554432
        rw [address, address]
        omega
    exact .inl ⟨rfl, hn⟩
  · have hn : 11 < n := by
      apply lt_of_outside (x := address 172 (b - 16) c d) h
      · rw [address]
        omega
      · change address 172 (b - 16) c d / 2097152 = address 172 b c d / 2097152
        rw [address, address]
        omega
    exact .inr (.inl ⟨rfl, hlow, hhigh, hn⟩)
  · have hn : 15 < n := by
      apply lt_of_outside (x := address 192 169 c d) h
      · rw [address]
        omega
      · change address 192 169 c d / 131072 = address 192 168 c d / 131072
        rw [address, address]
        omega
    exact .inr (.inr ⟨rfl, rfl, hn⟩)

theorem decimal?_eq_some : decimal? cs = some n ↔ Decimal cs n := by
  rw [decimal?]
  split
  case isTrue h =>
    simp only [Bool.and_eq_true, Bool.not_eq_true', decide_eq_true_eq, List.all_eq_true] at h
    obtain ⟨⟨hne, hlength⟩, hdigits⟩ := h
    rw [Option.some.injEq]
    constructor
    · intro hvalue
      exact ⟨List.isEmpty_eq_false_iff.mp hne, hdigits, hlength, hvalue⟩
    · exact Decimal.value
  case isFalse h =>
    constructor
    · intro hsome
      cases hsome
    · intro hds
      refine absurd ?_ h
      simp only [Bool.and_eq_true, Bool.not_eq_true', decide_eq_true_eq, List.all_eq_true]
      exact ⟨⟨List.isEmpty_eq_false_iff.mpr hds.nonempty, hds.length⟩, hds.digits⟩

theorem octet?_toDigits : ∀ n < 256, octet? (Nat.toDigits 10 n) = some n := by
  decide +kernel

theorem octet?_eq_some : octet? cs = some n ↔ n ≤ 255 ∧ cs = Nat.toDigits 10 n := by
  constructor
  · intro h
    rw [octet?] at h
    split at h
    case isTrue hshape =>
      obtain ⟨hdecimal, hn⟩ := Option.filter_eq_some_iff.mp h
      have hds := decimal?_eq_some.mp hdecimal
      refine ⟨of_decide_eq_true hn, hds.eq_toDigits fun hlength hzero => ?_⟩
      exact hshape.2 ⟨hlength, hzero⟩
    case isFalse => cases h
  · rintro ⟨hn, rfl⟩
    exact octet?_toDigits n (Nat.lt_succ_of_le hn)

theorem map_octet?_eq {pieces : List (List Char)} {ns : List Nat} :
    pieces.map octet? = ns.map some ↔
      pieces = ns.map (Nat.toDigits 10) ∧ ∀ n ∈ ns, n ≤ 255 := by
  induction ns generalizing pieces with
  | nil =>
    rw [List.map_nil, List.map_nil, List.map_eq_nil_iff]
    exact ⟨fun h => ⟨h, List.forall_mem_nil _⟩, And.left⟩
  | cons n ns ih =>
    cases pieces with
    | nil => simp only [List.map_nil, List.map_cons, List.nil_eq, List.cons_ne_nil, false_and]
    | cons piece pieces =>
      simp only [List.map_cons, List.cons.injEq, octet?_eq_some, ih, List.forall_mem_cons]
      constructor
      · rintro ⟨⟨hn, rfl⟩, rfl, hns⟩
        exact ⟨⟨rfl, rfl⟩, hn, hns⟩
      · rintro ⟨⟨rfl, rfl⟩, hn, hns⟩
        exact ⟨⟨hn, rfl⟩, rfl, hns⟩

/-- An address in dotted decimal. -/
structure Dotted (a b c d : Nat) (cs : List Char) : Prop where
  octets : ∀ n ∈ [a, b, c, d], n ≤ 255
  written : cs = ['.'].intercalate ([a, b, c, d].map (Nat.toDigits 10))

theorem Dotted.bounds (h : Dotted a b c d cs) : a ≤ 255 ∧ b ≤ 255 ∧ c ≤ 255 ∧ d ≤ 255 := by
  have hoctets := h.octets
  simp only [List.forall_mem_cons] at hoctets
  obtain ⟨ha, hb, hc, hd, -⟩ := hoctets
  exact ⟨ha, hb, hc, hd⟩

theorem Dotted.chars (h : Dotted a b c d cs) : ∀ ch ∈ cs, ch.isDigit = true ∨ ch = '.' := by
  intro ch hch
  rw [or_iff_not_imp_right]
  intro hdot
  rw [h.written] at hch
  obtain ⟨piece, hpiece, hmem⟩ := mem_of_mem_intercalate hdot hch
  obtain ⟨n, -, rfl⟩ := List.mem_map.mp hpiece
  exact Nat.isDigit_of_mem_toDigits (by decide) (by decide) hmem

theorem Dotted.split (h : Dotted a b c d cs) :
    splitOnChar '.' cs = [a, b, c, d].map (Nat.toDigits 10) := by
  rw [h.written]
  apply splitOnChar_intercalate
  · intro piece hpiece hdot
    obtain ⟨n, -, rfl⟩ := List.mem_map.mp hpiece
    exact absurd (Nat.isDigit_of_mem_toDigits (by decide) (by decide) hdot) (by decide)
  · exact List.cons_ne_nil _ _

theorem address?_eq_some :
    address? cs = some x ↔ ∃ a b c d, Dotted a b c d cs ∧ x = address a b c d := by
  constructor
  · intro h
    rw [address?] at h
    split at h
    case h_1 a b c d hparts =>
      have hparts : (splitOnChar '.' cs).map octet? = [a, b, c, d].map some := hparts
      obtain ⟨hpieces, hoctets⟩ := map_octet?_eq.mp hparts
      refine ⟨a, b, c, d, ⟨hoctets, ?_⟩, (Option.some.inj h).symm⟩
      rw [← hpieces, intercalate_splitOnChar]
    case h_2 => cases h
  · rintro ⟨a, b, c, d, h, rfl⟩
    rw [address?, h.split, map_octet?_eq.mpr ⟨rfl, h.octets⟩]
    rfl

theorem Dotted.address_lt (h : Dotted a b c d cs) : address a b c d < Nat.pow 2 32 := by
  obtain ⟨ha, hb, hc, hd⟩ := h.bounds
  change address a b c d < 4294967296
  rw [address]
  omega

/-- What stands behind an address when the block has a given length: nothing, the length, its
netmask, or its host mask. -/
inductive LengthWritten : Nat → List Char → Prop
  | none : LengthWritten 32 []
  | digits {n : Nat} {ds : List Char} (hds : Decimal ds n) (hn : n ≤ 32) :
    LengthWritten n ('/' :: ds)
  | netmask {n a b c d : Nat} {mask : List Char} (hmask : Dotted a b c d mask) (hn : n ≤ 32)
    (h : address a b c d = Nat.pow 2 32 - Nat.pow 2 (32 - n)) : LengthWritten n ('/' :: mask)
  | hostMask {n a b c d : Nat} {mask : List Char} (hmask : Dotted a b c d mask) (hpos : 0 < n)
    (hn : n < 32) (h : address a b c d = Nat.pow 2 (32 - n) - 1) : LengthWritten n ('/' :: mask)

theorem LengthWritten.shape (h : LengthWritten n cs) :
    cs = [] ∧ n = 32 ∨ ∃ mask, cs = '/' :: mask ∧ ∀ ch ∈ mask, ch.isDigit = true ∨ ch = '.' := by
  cases h with
  | none => exact .inl ⟨rfl, rfl⟩
  | digits hds hn => exact .inr ⟨_, rfl, fun ch hch => .inl (hds.digits ch hch)⟩
  | netmask hmask hn h => exact .inr ⟨_, rfl, hmask.chars⟩
  | hostMask hmask hpos hn h => exact .inr ⟨_, rfl, hmask.chars⟩

theorem lengthOfMask?_netmask :
    ∀ n ≤ 32, lengthOfMask? (Nat.pow 2 32 - Nat.pow 2 (32 - n)) = some n := by
  decide +kernel

theorem lengthOfMask?_hostMask :
    ∀ n < 32, 0 < n → lengthOfMask? (Nat.pow 2 (32 - n) - 1) = some n := by
  decide +kernel

theorem of_lengthOfMask? (hx : x < Nat.pow 2 32) (h : lengthOfMask? x = some n) :
    n ≤ 32 ∧ (x = Nat.pow 2 32 - Nat.pow 2 (32 - n) ∨
      0 < n ∧ n < 32 ∧ x = Nat.pow 2 (32 - n) - 1) := by
  rw [lengthOfMask?] at h
  split at h
  case h_1 m hfind =>
    cases h
    have hm := List.mem_range.mp (List.mem_of_find?_eq_some hfind)
    have hmask := List.find?_some hfind
    rw [beq_iff_eq] at hmask
    exact ⟨Nat.le_of_lt_succ hm, .inl hmask.symm⟩
  case h_2 hfind =>
    have hm := List.mem_range.mp (List.mem_of_find?_eq_some h)
    have hmask := List.find?_some h
    rw [beq_iff_eq] at hmask
    -- The masks of lengths 0 and 32 are each other's host masks, so they were found as netmasks.
    have hother : ∀ k < 33, netmask k ≠ x := by
      intro k hk he
      exact List.find?_eq_none.mp hfind k (List.mem_range.mpr hk) (beq_iff_eq.mpr he)
    have hpos : n ≠ 0 := by
      rintro rfl
      have hlast : 4294967295 ≠ x := hother 32 (by decide)
      change 0 = 4294967295 - x at hmask
      change x < 4294967296 at hx
      omega
    have hn : n ≠ 32 := by
      rintro rfl
      have hzero : 0 ≠ x := hother 0 (by decide)
      change 4294967295 = 4294967295 - x at hmask
      omega
    have hsize : 0 < Nat.pow 2 (32 - n) := Nat.two_pow_pos _
    have hle : Nat.pow 2 (32 - n) ≤ Nat.pow 2 32 :=
      Nat.pow_le_pow_right (by decide) (Nat.sub_le 32 n)
    rw [netmask] at hmask
    exact ⟨by omega, .inr ⟨by omega, by omega, by omega⟩⟩

theorem length?_of_mask (hmask : Dotted a b c d cs)
    (hlength : lengthOfMask? (address a b c d) = some n) : length? cs = some n := by
  have hdot : decimal? cs = none := by
    rw [Option.eq_none_iff_forall_ne_some]
    intro m hm
    refine (decimal?_eq_some.mp hm).not_mem (c := '.') (by decide) ?_
    rw [hmask.written]
    exact List.mem_append_right _ List.mem_cons_self
  rw [length?, hdot, address?_eq_some.mpr ⟨a, b, c, d, hmask, rfl⟩]
  exact hlength

theorem length?_eq_some : length? cs = some n ↔ LengthWritten n ('/' :: cs) := by
  constructor
  · intro h
    rw [length?] at h
    split at h
    case h_1 m hdecimal =>
      cases h
      obtain ⟨hds, hn⟩ := Option.filter_eq_some_iff.mp hdecimal
      exact .digits (decimal?_eq_some.mp hds) (of_decide_eq_true hn)
    case h_2 =>
      obtain ⟨x, haddress, hlength⟩ := Option.bind_eq_some_iff.mp h
      obtain ⟨a, b, c, d, hmask, rfl⟩ := address?_eq_some.mp haddress
      obtain ⟨hn, he | ⟨hpos, hlt, he⟩⟩ := of_lengthOfMask? hmask.address_lt hlength
      · exact .netmask hmask hn he
      · exact .hostMask hmask hpos hlt he
  · intro h
    cases h with
    | digits hds hn =>
      rw [length?, decimal?_eq_some.mpr hds, Option.filter_some, if_pos (decide_eq_true hn)]
    | netmask hmask hn h =>
      apply length?_of_mask hmask
      rw [h]
      exact lengthOfMask?_netmask n hn
    | hostMask hmask hpos hn h =>
      apply length?_of_mask hmask
      rw [h]
      exact lengthOfMask?_hostMask n hn hpos

theorem slash_not_mem (h : ∀ ch ∈ cs, ch.isDigit = true ∨ ch = '.') : '/' ∉ cs := by
  intro hmem
  exact absurd (h '/' hmem) (by decide)

theorem parse?_eq_some : parse? cs = some blk ↔ ∃ a b c d n addr suffix,
    cs = addr ++ suffix ∧ Dotted a b c d addr ∧ LengthWritten n suffix ∧
      blk = ⟨address a b c d, n⟩ := by
  constructor
  · intro h
    have hjoin := intercalate_splitOnChar '/' cs
    rw [parse?] at h
    split at h
    case h_1 addr hsplit =>
      rw [hsplit, List.intercalate_singleton] at hjoin
      obtain ⟨x, haddress, rfl⟩ := Option.map_eq_some_iff.mp h
      obtain ⟨a, b, c, d, haddr, rfl⟩ := address?_eq_some.mp haddress
      exact ⟨a, b, c, d, 32, addr, [], by rw [← hjoin, List.append_nil], haddr, .none, rfl⟩
    case h_2 addr mask hsplit =>
      rw [hsplit, List.intercalate_cons_cons, List.intercalate_singleton] at hjoin
      obtain ⟨x, haddress, h⟩ := Option.bind_eq_some_iff.mp h
      obtain ⟨n, hlength, h⟩ := Option.bind_eq_some_iff.mp h
      obtain ⟨a, b, c, d, haddr, rfl⟩ := address?_eq_some.mp haddress
      refine ⟨a, b, c, d, n, addr, '/' :: mask, ?_, haddr, length?_eq_some.mp hlength,
        (Option.some.inj h).symm⟩
      rw [← hjoin, List.append_assoc]
      rfl
    case h_3 => cases h
  · rintro ⟨a, b, c, d, n, addr, suffix, rfl, haddr, hlength, rfl⟩
    have haddress : address? addr = some (address a b c d) :=
      address?_eq_some.mpr ⟨a, b, c, d, haddr, rfl⟩
    have hslash := slash_not_mem haddr.chars
    rcases hlength.shape with ⟨rfl, rfl⟩ | ⟨mask, rfl, hmask⟩
    · rw [List.append_nil, parse?, splitOnChar_of_not_mem hslash]
      dsimp only
      rw [haddress]
      rfl
    · rw [parse?, splitOnChar_append_cons, splitOnChar_of_not_mem hslash,
        splitOnChar_of_not_mem (slash_not_mem hmask)]
      change (address? addr).bind _ = _
      rw [haddress, Option.bind_some, length?_eq_some.mpr hlength]
      rfl

/-- A text that writes a block, with blanks around it. -/
inductive Written (a b c d n : Nat) : List Char → Prop
  | mk {before addr suffix after : List Char} (hb : ∀ ch ∈ before, isBlank ch = true)
    (haddr : Dotted a b c d addr) (hlength : LengthWritten n suffix)
    (ha : ∀ ch ∈ after, isBlank ch = true) : Written a b c d n (before ++ (addr ++ suffix) ++ after)

theorem LengthWritten.chars (h : LengthWritten n cs) :
    ∀ ch ∈ cs, ch.isDigit = true ∨ ch = '.' ∨ ch = '/' := by
  rcases h.shape with ⟨rfl, -⟩ | ⟨mask, rfl, hmask⟩
  · exact List.forall_mem_nil _
  · rw [List.forall_mem_cons]
    exact ⟨.inr (.inr rfl), fun ch hch => (hmask ch hch).imp_right .inl⟩

theorem solid_of_written (haddr : Dotted a b c d cs) (hlength : LengthWritten n suffix) :
    ∀ ch ∈ cs ++ suffix, isBlank ch = false := by
  intro ch hch
  have hkind : ch.isDigit = true ∨ ch = '.' ∨ ch = '/' := by
    rcases List.mem_append.mp hch with hch | hch
    · exact (haddr.chars ch hch).imp_right .inl
    · exact hlength.chars ch hch
  rcases hkind with hdigit | rfl | rfl
  · exact not_isBlank_of_isDigit hdigit
  · decide
  · decide

theorem trimChars_written (h : Written a b c d n cs) :
    ∃ addr suffix, trimChars cs = addr ++ suffix ∧ Dotted a b c d addr ∧
      LengthWritten n suffix := by
  obtain ⟨hb, haddr, hlength, ha⟩ := h
  refine ⟨_, _, ?_, haddr, hlength⟩
  rw [trimChars, trimBy_append hb ha, trimBy_of_forall (solid_of_written haddr hlength)]

theorem Written.bounds (h : Written a b c d n cs) : a ≤ 255 ∧ b ≤ 255 ∧ c ≤ 255 ∧ d ≤ 255 := by
  obtain ⟨-, haddr, -, -⟩ := h
  exact haddr.bounds

theorem Written.colon_not_mem (h : Written a b c d n cs) : ':' ∉ cs := by
  obtain ⟨hb, haddr, hlength, ha⟩ := h
  simp only [List.mem_append, not_or]
  refine ⟨⟨fun hmem => ?_, fun hmem => ?_, fun hmem => ?_⟩, fun hmem => ?_⟩
  · exact absurd (hb ':' hmem) (by decide)
  · exact absurd (haddr.chars ':' hmem) (by decide)
  · exact absurd (hlength.chars ':' hmem) (by decide)
  · exact absurd (ha ':' hmem) (by decide)

end Block

open Block

variable {s : String} {a b c d n : Nat}

theorem isPrivateCidr_written (h : Written a b c d n s.toList) :
    isPrivateCidr s = true ↔
      ∃ r ∈ privateRanges, ∀ x, Has ⟨address a b c d, n⟩ x → r.Has x := by
  obtain ⟨addr, suffix, htrim, haddr, hlength⟩ := trimChars_written h
  have hparse : parse? (trimChars s.toList) = some ⟨address a b c d, n⟩ :=
    parse?_eq_some.mpr ⟨a, b, c, d, n, addr, suffix, htrim, haddr, hlength, rfl⟩
  rw [isPrivateCidr, hparse]
  simp only [List.any_eq_true, within_iff]

theorem written_of_isPrivateCidr (h : isPrivateCidr s = true) :
    ∃ a b c d n, Written a b c d n s.toList := by
  rw [isPrivateCidr] at h
  split at h
  case h_1 blk hparse =>
    obtain ⟨a, b, c, d, n, addr, suffix, htrim, haddr, hlength, -⟩ := parse?_eq_some.mp hparse
    obtain ⟨before, after, he, hb, ha⟩ := exists_trimBy isBlank s.toList
    refine ⟨a, b, c, d, n, ?_⟩
    rw [trimChars] at htrim
    rw [he, htrim]
    exact .mk hb haddr hlength ha
  case h_2 => cases h

/-- A text that writes a block of addresses is private just where every address of the block lies in
a private range, and the first two parts of the address and the length tell that. A text that writes
no such block is not private, and none with a colon does, as the texts of the longer addresses
have. -/
theorem isPrivateCidr_iff (s : String) :
    (∀ a b c d n, Written a b c d n s.toList →
      (isPrivateCidr s = true ↔
        ∀ x, Has ⟨address a b c d, n⟩ x → ∃ r ∈ privateRanges, r.Has x) ∧
      (isPrivateCidr s = true ↔
        a = 10 ∧ 8 ≤ n ∨ a = 172 ∧ 16 ≤ b ∧ b ≤ 31 ∧ 12 ≤ n ∨ a = 192 ∧ b = 168 ∧ 16 ≤ n)) ∧
    ((∀ a b c d n, ¬ Written a b c d n s.toList) → isPrivateCidr s = false) ∧
    (':' ∈ s.toList → isPrivateCidr s = false) := by
  refine ⟨?_, ?_, ?_⟩
  · intro a b c d n h
    obtain ⟨-, hb, hc, hd⟩ := h.bounds
    rw [isPrivateCidr_written h]
    have hsome : (∃ r ∈ privateRanges, ∀ x, Has ⟨address a b c d, n⟩ x → r.Has x) →
        ∀ x, Has ⟨address a b c d, n⟩ x → ∃ r ∈ privateRanges, r.Has x := by
      rintro ⟨r, hr, hall⟩ x hx
      exact ⟨r, hr, hall x hx⟩
    refine ⟨⟨hsome, fun hall => ?_⟩, fun hin => ?_, fun hshape => ?_⟩
    · exact within_of_isPrivate (isPrivate_of_forall hb hc hd hall) hb hc hd
    · exact isPrivate_of_forall hb hc hd (hsome hin)
    · exact within_of_isPrivate hshape hb hc hd
  · intro h
    apply Bool.eq_false_iff.mpr
    intro hprivate
    obtain ⟨a, b, c, d, n, hw⟩ := written_of_isPrivateCidr hprivate
    exact h a b c d n hw
  · intro hcolon
    apply Bool.eq_false_iff.mpr
    intro hprivate
    obtain ⟨a, b, c, d, n, hw⟩ := written_of_isPrivateCidr hprivate
    exact hw.colon_not_mem hcolon

/-- A block with host bits set and a netmask, between blanks, and a range of longer addresses. -/
theorem isPrivateCidr_iff_masked :
    let s := " 172.20.5.5/255.240.0.0\n"
    Written 172 20 5 5 12 s.toList ∧ isPrivateCidr s = true ∧
      (∀ x, Has ⟨address 172 20 5 5, 12⟩ x → ∃ r ∈ privateRanges, r.Has x) ∧
      ':' ∈ "fd00::/8".toList ∧ isPrivateCidr "fd00::/8" = false := by
  intro s
  have hmask : Dotted 255 240 0 0 "255.240.0.0".toList := ⟨by decide, by decide⟩
  have haddr : Dotted 172 20 5 5 "172.20.5.5".toList := ⟨by decide, by decide⟩
  have hw : Written 172 20 5 5 12 s.toList := by
    have hjoin : s.toList =
        [' '] ++ ("172.20.5.5".toList ++ '/' :: "255.240.0.0".toList) ++ ['\n'] := by decide
    rw [hjoin]
    exact .mk (by decide) haddr (.netmask hmask (by decide) (by decide)) (by decide)
  obtain ⟨hall, hshape⟩ := (isPrivateCidr_iff s).1 172 20 5 5 12 hw
  have hprivate : isPrivateCidr s = true := hshape.mpr (by decide)
  have hcolon : ':' ∈ "fd00::/8".toList := by decide
  exact ⟨hw, hprivate, hall.mp hprivate, hcolon, (isPrivateCidr_iff _).2.2 hcolon⟩

end CloudAudit
