import Mathlib.Data.List.Basic
import CloudAudit.Text.Percent

namespace CloudAudit.Text

def hexDigit (d : Nat) : Char := (Nat.digitChar d).toUpper

/-- A text of unreserved characters and escaped bytes, with the bytes that it stands for. -/
inductive Segment : List Char → List UInt8 → Prop
  | nil : Segment [] []
  | plain {c cs bytes} (hc : isUnreserved c = true) (h : Segment cs bytes) :
    Segment (c :: cs) (String.utf8EncodeChar c ++ bytes)
  | escape {d e cs bytes} (hd : d < 16) (he : e < 16) (h : Segment cs bytes) :
    Segment ('%' :: hexDigit d :: hexDigit e :: cs) (UInt8.ofNat (16 * d + e) :: bytes)

variable {c : Char} {cs : List Char} {bytes : List UInt8} {d : Nat}

theorem hexValue?_hexDigit (h : d < 16) : hexValue? (hexDigit d) = some d := by
  have hall : ∀ d < 16, hexValue? (hexDigit d) = some d := by decide
  exact hall d h

theorem isUnreserved_hexDigit (h : d < 16) : isUnreserved (hexDigit d) = true := by
  have hall : ∀ d < 16, isUnreserved (hexDigit d) = true := by decide
  exact hall d h

/-! ### Writing -/

theorem escapeByte_eq (b : UInt8) :
    escapeByte b = ['%', hexDigit (b.toNat / 16), hexDigit (b.toNat % 16)] := by
  have hb := b.toNat_lt
  have hhigh : b.toNat / 16 % 16 = b.toNat / 16 := Nat.mod_eq_of_lt (by omega)
  change ['%', hexDigit (b.toNat / 16 % 16), hexDigit (b.toNat % 16)] = _
  rw [hhigh]

theorem Segment.escapeByte (b : UInt8) (h : Segment cs bytes) :
    Segment (escapeByte b ++ cs) (b :: bytes) := by
  have hb := b.toNat_lt
  have hvalue : UInt8.ofNat (16 * (b.toNat / 16) + b.toNat % 16) = b := by
    rw [Nat.div_add_mod, UInt8.ofNat_toNat]
  have hsegment : Segment ('%' :: hexDigit (b.toNat / 16) :: hexDigit (b.toNat % 16) :: cs) _ :=
    .escape (by omega) (by omega) h
  rw [hvalue] at hsegment
  rwa [escapeByte_eq]

theorem Segment.escapeBytes (bs : List UInt8) (h : Segment cs bytes) :
    Segment (bs.flatMap Text.escapeByte ++ cs) (bs ++ bytes) := by
  induction bs with
  | nil => exact h
  | cons b bs ih =>
    rw [List.flatMap_cons, List.append_assoc]
    exact ih.escapeByte b

theorem Segment.percentChar (c : Char) (h : Segment cs bytes) :
    Segment (percentChar c ++ cs) (String.utf8EncodeChar c ++ bytes) := by
  rw [Text.percentChar]
  split
  case isTrue hc => exact .plain hc h
  case isFalse => exact h.escapeBytes _

theorem segment_percentEncode (s : String) :
    Segment (percentEncode s).toList (s.toList.flatMap String.utf8EncodeChar) := by
  rw [percentEncode, String.toList_ofList]
  induction s.toList with
  | nil => exact .nil
  | cons c cs ih =>
    rw [List.flatMap_cons, List.flatMap_cons]
    exact ih.percentChar c

/-! ### Reading -/

theorem percentBytes_plain (hc : isUnreserved c = true) (cs : List Char) :
    percentBytes (c :: cs) = String.utf8EncodeChar c ++ percentBytes cs := by
  rw [percentBytes]
  rintro a b rest rfl
  exact absurd hc (by decide)

theorem Segment.percentBytes (h : Segment cs bytes) : percentBytes cs = bytes := by
  induction h with
  | nil => rw [Text.percentBytes]
  | plain hc _ ih => rw [percentBytes_plain hc, ih]
  | escape hd he _ ih =>
    rw [Text.percentBytes, hexValue?_hexDigit hd, hexValue?_hexDigit he]
    dsimp only
    rw [ih]

theorem Segment.eq_unreserved (h : Segment cs bytes) (hc : c ∈ cs) :
    isUnreserved c = true ∨ c = '%' := by
  induction h with
  | nil => cases hc
  | plain hp _ ih =>
    obtain rfl | hc := List.mem_cons.mp hc
    · exact .inl hp
    · exact ih hc
  | escape hd he _ ih =>
    simp only [List.mem_cons] at hc
    obtain rfl | rfl | rfl | hc := hc
    · exact .inr rfl
    · exact .inl (isUnreserved_hexDigit hd)
    · exact .inl (isUnreserved_hexDigit he)
    · exact ih hc

theorem Segment.not_mem (h : Segment cs bytes) (hc : isUnreserved c = false) (hp : c ≠ '%') :
    c ∉ cs := by
  intro hmem
  obtain hu | he := h.eq_unreserved hmem
  · rw [hc] at hu
    cases hu
  · exact hp he

theorem fromUTF8?_flatMap (s : String) :
    String.fromUTF8? ⟨(s.toList.flatMap String.utf8EncodeChar).toArray⟩ = some s := by
  have hbytes : (⟨(s.toList.flatMap String.utf8EncodeChar).toArray⟩ : ByteArray) =
      s.toByteArray := by
    rw [← String.utf8Encode_toList, List.utf8Encode]
    apply ByteArray.ext
    rw [List.data_toByteArray]
  rw [hbytes, String.fromUTF8?, dif_pos s.isValidUTF8]
  rfl

theorem percentDecode?_percentEncode (s : String) : percentDecode? (percentEncode s) = some s := by
  rw [percentDecode?, (segment_percentEncode s).percentBytes, fromUTF8?_flatMap]

theorem percentEncode_injective : Function.Injective percentEncode := by
  intro s t h
  have hs := percentDecode?_percentEncode s
  rw [h, percentDecode?_percentEncode] at hs
  exact (Option.some.inj hs).symm

end CloudAudit.Text
