import CloudAudit.Proofs.Text.Split
import CloudAudit.Provider.Client

namespace CloudAudit

namespace Url

/-- A text that starts with small letters and a colon. -/
def Schemed (cs : List Char) : Prop :=
  ∃ scheme rest, cs = scheme ++ ':' :: rest ∧ scheme ≠ [] ∧ ∀ c ∈ scheme, c.isLower = true

namespace Schemed

variable {cs : List Char}

theorem append (h : Schemed cs) (more : List Char) : Schemed (cs ++ more) := by
  obtain ⟨scheme, rest, rfl, hne, hl⟩ := h
  exact ⟨scheme, rest ++ more, by rw [List.append_assoc, List.cons_append], hne, hl⟩

theorem rdropWhile {p : Char → Bool} (hp : p ':' = false) (h : Schemed cs) :
    Schemed (cs.rdropWhile p) := by
  obtain ⟨scheme, rest, rfl, hne, hl⟩ := h
  exact ⟨scheme, rest.rdropWhile p, Text.rdropWhile_append_cons hp scheme rest, hne, hl⟩

theorem head (h : Schemed cs) : ∃ c rest, cs = c :: rest ∧ c.isLower = true := by
  obtain ⟨scheme, rest, rfl, hne, hl⟩ := h
  obtain ⟨c, scheme, rfl⟩ := List.exists_cons_of_ne_nil hne
  exact ⟨c, scheme ++ ':' :: rest, rfl, hl c List.mem_cons_self⟩

theorem not_blank {c : Char} (h : c.isLower = true) : Text.isBlank c = false := by
  have hval : (c.val ≥ 97 && c.val ≤ 122) = true := h
  have hrange : 97 ≤ c.toNat ∧ c.toNat ≤ 122 := by
    simpa [UInt32.le_iff_toNat_le, ← Char.toNat_val] using hval
  simp only [Text.isBlank, Text.isSpace, Bool.or_eq_false_iff, Bool.and_eq_false_iff,
    decide_eq_false_iff_not, beq_eq_false_iff_ne]
  omega

theorem trimChars (h : Schemed cs) : Schemed (Text.trimChars cs) := by
  obtain ⟨c, rest, rfl, hc⟩ := h.head
  rw [Text.trimChars, Text.trimBy, List.dropWhile_cons_of_neg (by rw [not_blank hc]; decide)]
  exact h.rdropWhile (by decide)

theorem unwrap (h : Schemed cs) : Schemed (Url.unwrap cs) := by
  obtain ⟨c, rest, htrim, hc⟩ := h.trimChars.head
  have hbracket : ¬ ((c :: rest).head? = some '<' ∧ (c :: rest).getLast? = some '>') := by
    rintro ⟨hhead, -⟩
    cases hhead
    exact absurd hc (by decide)
  have hword : (c :: rest).take 4 ≠ ['U', 'R', 'L', ':'] := by
    intro htake
    obtain ⟨rfl, -⟩ := List.cons.inj htake
    exact absurd hc (by decide)
  have hkeep : Url.unwrap cs = c :: rest := by
    simp only [Url.unwrap, htrim, if_neg hbracket, if_neg hword]
  rw [hkeep, ← htrim]
  exact h.trimChars

theorem splitFragment (h : Schemed cs) : Schemed (Url.splitFragment cs).1 := by
  rw [Url.splitFragment]
  split
  case h_2 => exact h
  case h_1 fragment address hcut =>
    obtain ⟨scheme, rest, rfl, hne, hl⟩ := h
    obtain ⟨he, -⟩ := Text.cutAt?_eq_some hcut
    have he : scheme ++ ':' :: rest = address.reverse ++ '#' :: fragment.reverse := by
      rw [← List.reverse_reverse (scheme ++ ':' :: rest), he, List.reverse_append,
        List.reverse_cons, List.append_assoc, List.singleton_append]
    -- The hash sign is no small letter, so the cut lies behind the colon.
    obtain ⟨more, hadd, hrest⟩ | ⟨more, hscheme, hhash⟩ := List.append_eq_append_iff.mp he
    · cases more with
      | nil => exact absurd (List.cons.inj hrest).1 (by decide)
      | cons c more =>
        obtain ⟨rfl, -⟩ := List.cons.inj hrest
        exact ⟨scheme, more, hadd, hne, hl⟩
    · cases more with
      | nil => exact absurd (List.cons.inj hhash).1 (by decide)
      | cons c more =>
        obtain ⟨rfl, -⟩ := List.cons.inj hhash
        exact absurd (hl '#' (hscheme ▸ List.mem_append_right _ List.mem_cons_self)) (by decide)

theorem hasScheme (h : Schemed cs) : Url.hasScheme cs = true := by
  obtain ⟨scheme, rest, rfl, hne, hl⟩ := h
  have hno {c : Char} (hc : c.isLower = false) : c ∉ scheme := by
    intro hmem
    rw [hl c hmem] at hc
    cases hc
  rw [Url.hasScheme, Text.cutAt?_append (hno (by decide))]
  have hempty : scheme.isEmpty = false := List.isEmpty_eq_false_iff.mpr hne
  have hslash : scheme.contains '/' = false :=
    Bool.eq_false_iff.mpr fun hc => hno (by decide) (List.contains_iff_mem.mp hc)
  simp only [hempty, hslash, Bool.not_false, Bool.and_self]

end Schemed

theorem normalize_of_schemed {url : String} (h : Schemed url.toList) :
    ∃ sent, normalize url = .ok sent := by
  rw [normalize]
  dsimp only
  rw [if_pos h.unwrap.splitFragment.hasScheme]
  exact ⟨_, rfl⟩

end Url

theorem Client.url_sendable {base : String} (h : Url.Schemed base.toList) (path : String)
    (params : Fields) : ∃ sent, Url.normalize (Client.url base path params) = .ok sent := by
  apply Url.normalize_of_schemed
  rw [Client.url, String.toList_append, String.toList_append, Text.dropTrailing,
    String.toList_ofList]
  exact ((h.rdropWhile (by decide)).append _).append _

end CloudAudit
