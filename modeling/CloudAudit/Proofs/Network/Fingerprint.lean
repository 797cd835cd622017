import CloudAudit.Network.FirewallRule
import CloudAudit.Proofs.Network.Ports
import CloudAudit.Proofs.Text.Case

namespace CloudAudit

open Text

namespace Ports

variable {port : Int} {spec : String} {word segment cs ds : List Char}

theorem squeeze_spacedOut (h : SpacedOut isSpace word segment) : squeeze segment = word := by
  have hspace {cs : List Char} (h : ∀ c ∈ cs, isSpace c = true) : squeeze cs = [] :=
    squeeze_of_blank fun c hc => isBlank_of_isSpace (h c hc)
  have hyphen : isBlank '-' = false := by decide
  cases h with
  | word hb hword _ ha =>
    simp only [squeeze_append, squeeze_of_blank hb, squeeze_of_solid hword, squeeze_of_blank ha,
      List.nil_append, List.append_nil]
  | range hb hlow _ hgap hgap' hhigh ha =>
    simp only [squeeze_append, squeeze_cons_of_solid hyphen, squeeze_of_blank hb,
      squeeze_of_solid hlow, hspace hgap, hspace hgap', squeeze_of_solid hhigh, squeeze_of_blank ha,
      List.nil_append, List.append_nil]

/-- An item whose blanks say nothing: they stand around its words, or it names no port without them
either. -/
inductive Tidy (segment : List Char) : Prop
  | spaced {word : List Char} (h : SpacedOut isSpace word segment)
  | idle (h : ∀ port, segmentHas port (squeeze segment) = false)

theorem Tidy.segmentHas_squeeze (h : Tidy segment) (port : Int) :
    segmentHas port (squeeze segment) = segmentHas port segment := by
  have hspaced {word : List Char} (h : SpacedOut isSpace word segment) :
      segmentHas port (squeeze segment) = segmentHas port segment := by
    rw [squeeze_spacedOut h, segmentHas_spacedOut h]
  cases h with
  | spaced h => exact hspaced h
  | idle h =>
    cases hport : segmentHas port segment with
    | false => exact h port
    | true =>
      obtain ⟨word, hword⟩ := exists_spacedOut hport
      rw [← hport]
      exact hspaced hword

/-- A specification that is blank, or has an item and blanks that say nothing. -/
def Legible (spec : String) : Prop :=
  (∀ c ∈ spec.toList, isBlank c = true) ∨
    (∃ c ∈ spec.toList, isBlank c = false ∧ c ≠ ',') ∧ ∀ segment ∈ segments spec.toList, Tidy segment

/-- The items of a specification without blanks and without empty ones. -/
def pieces (spec : String) : List (List Char) :=
  ((segments spec.toList).map squeeze).filter (!·.isEmpty)

theorem toList_normalize (spec : String) :
    (normalize spec).toList = [','].intercalate (pieces spec) := by
  have hid : String.toList ∘ String.ofList = id := by
    funext cs
    exact String.toList_ofList
  rw [normalize, String.toList_intercalate, List.map_map, hid, List.map_id]
  rfl

theorem pieces_eq (spec : String) :
    pieces spec = (splitOnChar ',' (squeeze spec.toList)).filter (!·.isEmpty) := by
  have hsqueeze : (segments spec.toList).map squeeze = splitOnChar ',' (squeeze spec.toList) :=
    map_filter_splitOnChar (by decide) spec.toList
  rw [pieces, hsqueeze]

theorem comma_not_mem_pieces {piece : List Char} (h : piece ∈ pieces spec) : ',' ∉ piece := by
  rw [pieces_eq] at h
  exact not_mem_of_mem_splitOnChar (List.mem_filter.mp h).1

theorem any_pieces (h : ∀ segment ∈ segments spec.toList, Tidy segment) :
    (pieces spec).any (segmentHas port) = (segments spec.toList).any (segmentHas port) := by
  have hempty : segmentHas port [] = false := segmentHas_of_no_digit (List.forall_mem_nil _)
  rw [pieces, List.any_filter, List.any_map, Bool.eq_iff_iff, List.any_eq_true, List.any_eq_true]
  refine exists_congr fun segment => and_congr_right fun hs => ?_
  have hsame := (h segment hs).segmentHas_squeeze port
  rw [Function.comp_apply, Bool.and_eq_true, hsame, Bool.not_eq_true']
  constructor
  · exact fun hp => hp.2
  · intro hp
    refine ⟨List.isEmpty_eq_false_iff.mpr fun hnil => ?_, hp⟩
    rw [hnil, hempty, hp] at hsame
    cases hsame

/-- Leaving out blanks that say nothing changes no port. -/
theorem has_normalize (h : Legible spec) : has port (normalize spec) = has port spec := by
  rcases h with hblank | ⟨⟨c, hc, hmark, hcomma⟩, htidy⟩
  · have hnil : (normalize spec).toList = [] := by
      rw [toList_normalize, pieces_eq, squeeze_of_blank hblank]
      rfl
    rw [has_of_blank hblank, has_of_blank]
    rw [hnil]
    exact List.forall_mem_nil _
  · obtain ⟨segment, hs, hcs⟩ := (mem_splitOnChar hcomma).mpr hc
    have hpiece : squeeze segment ∈ pieces spec := by
      refine List.mem_filter.mpr ⟨List.mem_map.mpr ⟨segment, hs, rfl⟩, ?_⟩
      rw [Bool.not_eq_true', List.isEmpty_eq_false_iff]
      exact List.ne_nil_of_mem (mem_squeeze.mpr ⟨hcs, hmark⟩)
    have hsegments : segments (normalize spec).toList = pieces spec := by
      rw [segments, toList_normalize]
      exact splitOnChar_intercalate (fun _ hp => comma_not_mem_pieces hp)
        (List.ne_nil_of_mem hpiece)
    have hnot : ∃ c ∈ (normalize spec).toList, isBlank c = false := by
      refine ⟨c, (mem_splitOnChar hcomma).mp ⟨squeeze segment, ?_, ?_⟩, hmark⟩
      · rw [← segments, hsegments]
        exact hpiece
      · exact mem_squeeze.mpr ⟨hcs, hmark⟩
    rw [has_of_not_blank hnot, has_of_not_blank ⟨c, hc, hmark⟩, hsegments, any_pieces htidy]

theorem mem_of_mem_normalize {c : Char} (hcomma : c ≠ ',') (h : c ∈ (normalize spec).toList) :
    c ∈ spec.toList := by
  rw [toList_normalize] at h
  obtain ⟨piece, hp, hc⟩ := mem_of_mem_intercalate hcomma h
  rw [pieces_eq] at hp
  have hsqueezed := (mem_splitOnChar hcomma).mp ⟨piece, (List.mem_filter.mp hp).1, hc⟩
  exact (mem_squeeze.mp hsqueezed).1

/-- Blanks are put in around commas and hyphens. -/
inductive Loosened : List Char → List Char → Prop
  | nil : Loosened [] []
  | keep (c : Char) {cs ds : List Char} (h : Loosened cs ds) : Loosened (c :: cs) (c :: ds)
  | spaced {c : Char} {before after cs ds : List Char} (hc : c = ',' ∨ c = '-')
    (hb : ∀ c ∈ before, isBlank c = true) (ha : ∀ c ∈ after, isBlank c = true)
    (h : Loosened cs ds) : Loosened (c :: cs) (before ++ c :: (after ++ ds))

theorem Loosened.refl (cs : List Char) : Loosened cs cs := by
  induction cs with
  | nil => exact .nil
  | cons c _ ih => exact .keep c ih

theorem Loosened.squeeze_eq (h : Loosened cs ds) : squeeze ds = squeeze cs := by
  induction h with
  | nil => rfl
  | keep c _ ih =>
    cases hc : isBlank c with
    | true => rw [squeeze_cons_of_blank hc, squeeze_cons_of_blank hc, ih]
    | false => rw [squeeze_cons_of_solid hc, squeeze_cons_of_solid hc, ih]
  | @spaced c before after cs ds hc hb ha _ ih =>
    have hmark : isBlank c = false := by
      rcases hc with rfl | rfl
      · decide
      · decide
    rw [squeeze_append, squeeze_cons_of_solid hmark, squeeze_append, squeeze_of_blank hb,
      squeeze_of_blank ha, ih, squeeze_cons_of_solid hmark]
    rfl

theorem Loosened.normalize_eq {spec' : String} (h : Loosened spec.toList spec'.toList) :
    normalize spec' = normalize spec := by
  rw [← String.toList_inj, toList_normalize, toList_normalize, pieces_eq, pieces_eq, h.squeeze_eq]

end Ports

namespace FirewallRule

variable {r s : FirewallRule} {ss ss' : List String}

def listed (ss : List String) : List (List Char) :=
  (ss.mergeSort fun a b => decide (a ≤ b)).map String.toList

theorem toList_fingerprint (r : FirewallRule) : r.fingerprint.toList =
    r.normalizedAction.toList ++ '|' :: (r.normalizedProtocol.toList ++ '|' ::
      ((Ports.normalize (r.ports.getD "")).toList ++ '|' ::
        ([','].intercalate (listed r.addresses.ipv4) ++ '|' ::
          [','].intercalate (listed r.addresses.ipv6)))) := by
  have hbar : "|".toList = ['|'] := rfl
  have hsorted (ss : List String) :
      (",".intercalate (ss.mergeSort fun a b => decide (a ≤ b))).toList =
        [','].intercalate (listed ss) := String.toList_intercalate
  rw [fingerprint, String.toList_intercalate, hbar, ← hsorted, ← hsorted]
  simp only [List.map_cons, List.map_nil, List.intercalate_cons_cons, List.intercalate_singleton,
    List.append_assoc, List.singleton_append]
  rfl

theorem listed_perm (ss : List String) : (listed ss).Perm (ss.map String.toList) :=
  (List.mergeSort_perm ss _).map String.toList

theorem listed_eq_iff : listed ss = listed ss' ↔ ss.Perm ss' := by
  have htotal (a b : String) : (decide (a ≤ b) || decide (b ≤ a)) = true := by
    simpa only [Bool.or_eq_true, decide_eq_true_eq] using String.le_total a b
  have htrans (a b c : String) (h : decide (a ≤ b) = true) (h' : decide (b ≤ c) = true) :
      decide (a ≤ c) = true := by
    rw [decide_eq_true_eq] at h h' ⊢
    exact String.le_trans h h'
  have hsorted (ss : List String) := List.pairwise_mergeSort htrans htotal ss
  constructor
  · intro h
    have hmerge := List.map_injective_iff.mpr (fun _ _ => String.toList_inj.mp) h
    exact (List.mergeSort_perm ss _).symm.trans (hmerge ▸ List.mergeSort_perm ss' _)
  · intro h
    apply congrArg (List.map String.toList)
    refine List.Perm.eq_of_pairwise ?_ (hsorted ss) (hsorted ss') ?_
    · intro a b _ _ hab hba
      rw [decide_eq_true_eq] at hab hba
      exact String.le_antisymm hab hba
    · exact ((List.mergeSort_perm ss _).trans h).trans (List.mergeSort_perm ss' _).symm

/-- Addresses that come back from their list: none holds a comma, and not one alone is empty. -/
structure Listable (ss : List String) : Prop where
  comma : ∀ s ∈ ss, ',' ∉ s.toList
  notBlank : ss ≠ [""]

theorem listed_nil : listed [] = [] := by
  rw [listed, List.mergeSort_nil, List.map_nil]

theorem Listable.split (h : Listable ss) (hne : ss ≠ []) :
    splitOnChar ',' ([','].intercalate (listed ss)) = listed ss := by
  apply splitOnChar_intercalate
  · intro cs hcs
    obtain ⟨s, hs, rfl⟩ := List.mem_map.mp ((listed_perm ss).mem_iff.mp hcs)
    exact h.comma s hs
  · intro hnil
    have hlength := (listed_perm ss).length_eq
    rw [hnil, List.length_map] at hlength
    exact hne (List.length_eq_zero_iff.mp hlength.symm)

theorem Listable.joined_ne_nil (h : Listable ss) (hne : ss ≠ []) :
    [','].intercalate (listed ss) ≠ [] := by
  intro hempty
  have hsplit := h.split hne
  rw [hempty] at hsplit
  have hone : (ss.map String.toList).Perm ([""].map String.toList) := by
    apply (listed_perm ss).symm.trans
    rw [← hsplit]
    exact .refl _
  have hsingle : ss.map String.toList = [""].map String.toList := List.perm_singleton.mp hone
  exact h.notBlank (List.map_injective_iff.mpr (fun _ _ => String.toList_inj.mp) hsingle)

theorem Listable.perm (h : Listable ss) (h' : Listable ss')
    (he : [','].intercalate (listed ss) = [','].intercalate (listed ss')) : ss.Perm ss' := by
  have hnil : [','].intercalate (listed []) = [] := by
    rw [listed_nil]
    rfl
  by_cases hne : ss = []
  · by_cases hne' : ss' = []
    · rw [hne, hne']
    · rw [hne, hnil] at he
      exact absurd he.symm (h'.joined_ne_nil hne')
  · by_cases hne' : ss' = []
    · rw [hne', hnil] at he
      exact absurd he (h.joined_ne_nil hne)
    · rw [← listed_eq_iff, ← h.split hne, ← h'.split hne', he]

/-- The fields of a rule hold none of the marks that its fingerprint puts between them. -/
structure Unmarked (r : FirewallRule) : Prop where
  action : '|' ∉ (r.action.getD "").toList
  protocol : '|' ∉ (r.protocol.getD "").toList
  ports : '|' ∉ (r.ports.getD "").toList
  ipv4 : ∀ a ∈ r.addresses.ipv4, '|' ∉ a.toList
  listable4 : Listable r.addresses.ipv4
  listable6 : Listable r.addresses.ipv6

/-- Two rules are the same but for letter case, blanks in the ports, the order of the addresses and
what they are called. -/
structure SameRule (r s : FirewallRule) : Prop where
  action : r.normalizedAction = s.normalizedAction
  protocol : r.normalizedProtocol = s.normalizedProtocol
  ports : Ports.normalize (r.ports.getD "") = Ports.normalize (s.ports.getD "")
  ipv4 : r.addresses.ipv4.Perm s.addresses.ipv4
  ipv6 : r.addresses.ipv6.Perm s.addresses.ipv6

theorem SameRule.fingerprint_eq (h : SameRule r s) : r.fingerprint = s.fingerprint := by
  rw [← String.toList_inj, toList_fingerprint, toList_fingerprint, h.action, h.protocol, h.ports,
    listed_eq_iff.mpr h.ipv4, listed_eq_iff.mpr h.ipv6]

theorem Unmarked.action_upper (h : r.Unmarked) : '|' ∉ r.normalizedAction.toList :=
  fun hbar => h.action (bar_mem_of_upper hbar)

theorem Unmarked.protocol_upper (h : r.Unmarked) : '|' ∉ r.normalizedProtocol.toList :=
  fun hbar => h.protocol (bar_mem_of_upper hbar)

theorem Unmarked.ports_normal (h : r.Unmarked) :
    '|' ∉ (Ports.normalize (r.ports.getD "")).toList :=
  fun hbar => h.ports (Ports.mem_of_mem_normalize (by decide) hbar)

theorem Unmarked.ipv4_list (h : r.Unmarked) :
    '|' ∉ [','].intercalate (listed r.addresses.ipv4) := by
  intro hmem
  obtain ⟨cs, hcs, hbar⟩ := mem_of_mem_intercalate (by decide) hmem
  obtain ⟨a, ha, rfl⟩ := List.mem_map.mp ((listed_perm _).mem_iff.mp hcs)
  exact h.ipv4 a ha hbar

theorem Unmarked.sameRule (hr : r.Unmarked) (hs : s.Unmarked) (h : r.fingerprint = s.fingerprint) :
    SameRule r s := by
  rw [← String.toList_inj, toList_fingerprint, toList_fingerprint,
    append_sep_inj hr.action_upper hs.action_upper,
    append_sep_inj hr.protocol_upper hs.protocol_upper,
    append_sep_inj hr.ports_normal hs.ports_normal,
    append_sep_inj hr.ipv4_list hs.ipv4_list] at h
  obtain ⟨haction, hprotocol, hport, h4, h6⟩ := h
  exact ⟨String.toList_inj.mp haction, String.toList_inj.mp hprotocol, String.toList_inj.mp hport,
    hr.listable4.perm hs.listable4 h4, hr.listable6.perm hs.listable6 h6⟩

theorem SameRule.isOpenToWorld_eq (h : SameRule r s) : r.isOpenToWorld = s.isOpenToWorld :=
  (h.ipv4.append h.ipv6).any_eq

/-- Rules with one fingerprint let in the same, if their fields are free of the marks between them;
they cover the same ports, if besides the blanks of their port lists say nothing. -/
theorem fingerprint_sound (hr : r.Unmarked) (hs : s.Unmarked)
    (h : r.fingerprint = s.fingerprint) :
    r.isAccept = s.isAccept ∧ r.isTcpOrAll = s.isTcpOrAll ∧ r.isOpenToWorld = s.isOpenToWorld ∧
      r.addresses.ipv4.Perm s.addresses.ipv4 ∧ r.addresses.ipv6.Perm s.addresses.ipv6 ∧
      (Ports.Legible (r.ports.getD "") → Ports.Legible (s.ports.getD "") →
        ∀ port, r.coversPort port = s.coversPort port) := by
  have hsame := hr.sameRule hs h
  refine ⟨?_, ?_, hsame.isOpenToWorld_eq, hsame.ipv4, hsame.ipv6, ?_⟩
  · rw [isAccept, isAccept, hsame.action]
  · rw [isTcpOrAll, isTcpOrAll, hsame.protocol]
  · intro hlegible hlegible' port
    rw [coversPort, coversPort, hsame.protocol, ← Ports.has_normalize hlegible, hsame.ports,
      Ports.has_normalize hlegible']

/-- Two rules that differ in letter case, blanks and the order of their addresses. -/
theorem fingerprint_sound_spaced :
    let r : FirewallRule :=
      { action := some "accept", protocol := some "TCP", ports := some "22, 8000 -8100",
        addresses := ⟨["192.0.2.1/32", "198.51.100.0/24"], []⟩ }
    let s : FirewallRule :=
      { action := some "ACCEPT", protocol := some "tcp", ports := some "22,8000-8100",
        addresses := ⟨["198.51.100.0/24", "192.0.2.1/32"], []⟩ }
    r.Unmarked ∧ s.Unmarked ∧ Ports.Legible "22, 8000 -8100" ∧ Ports.Legible "22,8000-8100" ∧
      r.fingerprint = s.fingerprint ∧ r.isAccept = s.isAccept ∧
      ∀ port, r.coversPort port = s.coversPort port := by
  intro r s
  have h22 : Numeral ['2', '2'] 22 := by decide
  have h8000 : Numeral ['8', '0', '0', '0'] 8000 := by decide
  have h8100 : Numeral ['8', '1', '0', '0'] 8100 := by decide
  have hr : r.Unmarked :=
    ⟨by decide, by decide, by decide, by decide, ⟨by decide, by decide⟩, by decide, by decide⟩
  have hs : s.Unmarked :=
    ⟨by decide, by decide, by decide, by decide, ⟨by decide, by decide⟩, by decide, by decide⟩
  have hport : Ports.Tidy ['2', '2'] :=
    .spaced (.bare_word h22.solid (h22.not_mem (by decide)))
  have hspaced : Ports.SpacedOut isSpace (['8', '0', '0', '0'] ++ '-' :: ['8', '1', '0', '0'])
      ([' '] ++ ['8', '0', '0', '0'] ++ [' '] ++ '-' :: ([] ++ ['8', '1', '0', '0'] ++ [])) :=
    .range (by decide) h8000.solid (h8000.not_mem (by decide)) (by decide) (by decide) h8100.solid
      (by decide)
  have hbare : Ports.Tidy (['8', '0', '0', '0'] ++ '-' :: ['8', '1', '0', '0']) :=
    .spaced (.bare_range h8000.solid (h8000.not_mem (by decide)) h8100.solid)
  have hlegible : Ports.Legible "22, 8000 -8100" := by
    have hsegments : Ports.segments "22, 8000 -8100".toList =
      [['2', '2'], [' ', '8', '0', '0', '0', ' ', '-', '8', '1', '0', '0']] := rfl
    refine .inr ⟨by decide, ?_⟩
    rw [hsegments, List.forall_mem_cons, List.forall_mem_singleton]
    exact ⟨hport, .spaced hspaced⟩
  have hlegible' : Ports.Legible "22,8000-8100" := by
    have hsegments : Ports.segments "22,8000-8100".toList =
      [['2', '2'], ['8', '0', '0', '0', '-', '8', '1', '0', '0']] := rfl
    refine .inr ⟨by decide, ?_⟩
    rw [hsegments, List.forall_mem_cons, List.forall_mem_singleton]
    exact ⟨hport, hbare⟩
  have hsame : SameRule r s :=
    ⟨by decide +kernel, by decide +kernel, by decide +kernel, .swap _ _ _, .refl _⟩
  have hsound := fingerprint_sound hr hs hsame.fingerprint_eq
  exact ⟨hr, hs, hlegible, hlegible', hsame.fingerprint_eq, hsound.1,
    hsound.2.2.2.2.2 hlegible hlegible'⟩

/-- A blank between digits makes a list of ports that covers nothing look like another one, and a
bar in a field lets one field pass for two. -/
theorem fingerprint_sound_clashes :
    let http : FirewallRule := { ports := some "8080" }
    let blank : FirewallRule := { ports := some "80 80" }
    let tcp : FirewallRule := { action := some "ACCEPT", protocol := some "TCP|22" }
    let bar : FirewallRule := { action := some "ACCEPT|TCP", protocol := some "22" }
    (http.fingerprint = blank.fingerprint ∧ http.coversPort 8080 = true ∧
      blank.coversPort 8080 = false) ∧
    tcp.fingerprint = bar.fingerprint ∧ tcp.isAccept = true ∧ bar.isAccept = false := by
  intro http blank tcp bar
  have hsame : SameRule http blank := ⟨rfl, rfl, by decide +kernel, .refl _, .refl _⟩
  have hclash : tcp.fingerprint = bar.fingerprint := by
    rw [← String.toList_inj, toList_fingerprint, toList_fingerprint]
    simp only [tcp, bar, listed_nil]
    decide +kernel
  exact ⟨⟨hsame.fingerprint_eq, by decide +kernel, by decide +kernel⟩, hclash, by decide +kernel,
    by decide +kernel⟩

end FirewallRule

end CloudAudit
