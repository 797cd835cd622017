import CloudAudit.Check.Tags
import CloudAudit.Proofs.Check.Firewall
import CloudAudit.Proofs.Text.Lower
import CloudAudit.Proofs.Text.Split

namespace CloudAudit

open Result Text

variable {t : RequiredTag} {tag key value : String} {tags tags' : List String}
  {cfg : HasTagsConfig} {rule : Rule} {r r' : Resource} {inv inv' : Inventory}
  {items items' : List Json} {s : Status}

namespace RequiredTag

/-- Whether a tag has the key of a requirement. -/
def Names (t : RequiredTag) (tag : String) : Prop :=
  Tags.hasKey (lower t.key) (lower tag) = true

/-- Whether a tag with the key will do: any value will, or the tag has the wanted one. -/
def Accepts (t : RequiredTag) (tag : String) : Prop :=
  t.isWildcard = true ∨ (Tags.value? tag).map lower = some (lower (t.value.getD ""))

/-- Whether there is a tag with the key and the first one will do. -/
def MetBy (t : RequiredTag) (tags : List String) : Prop :=
  ∃ tag, Tags.find? tags t.key = some tag ∧ t.Accepts tag

/-- Whether some of the tags with the key will do and others will not. -/
def Mixed (t : RequiredTag) (tags : List String) : Prop :=
  (∃ tag ∈ tags, t.Names tag ∧ t.Accepts tag) ∧ ∃ tag ∈ tags, t.Names tag ∧ ¬ t.Accepts tag

instance : Decidable (t.Names tag) := inferInstanceAs (Decidable (_ = true))

instance : Decidable (t.Accepts tag) := inferInstanceAs (Decidable (_ ∨ _))

instance : Decidable (t.Mixed tags) := inferInstanceAs (Decidable (_ ∧ _))

theorem check_eq_met : t.check tags = .met ↔ t.MetBy tags := by
  rw [check, MetBy]
  split
  case h_1 hfind =>
    rw [hfind]
    exact ⟨nofun, nofun⟩
  case h_2 tag hfind =>
    simp only [hfind, Option.some.injEq, exists_eq_left', Accepts]
    split
    case isTrue hw => exact iff_of_true rfl (.inl hw)
    case isFalse hw =>
      rw [or_iff_right hw]
      split
      case h_1 hv =>
        rw [hv]
        exact ⟨nofun, nofun⟩
      case h_2 found hv =>
        rw [hv, Option.map_some, Option.some.injEq]
        split
        case isTrue he => exact iff_of_true rfl he
        case isFalse he => exact iff_of_false nofun he

theorem of_find? (h : Tags.find? tags t.key = some tag) : tag ∈ tags ∧ t.Names tag := by
  have hnames := List.find?_some h
  exact ⟨List.mem_of_find?_eq_some h, hnames⟩

theorem exists_find? (hmem : tag ∈ tags) (hnames : t.Names tag) :
    ∃ first, Tags.find? tags t.key = some first := by
  apply Option.isSome_iff_exists.mp
  rw [Tags.find?, List.find?_isSome]
  exact ⟨tag, hmem, hnames⟩

theorem metBy_iff (h : ¬ t.Mixed tags) :
    t.MetBy tags ↔ ∃ tag ∈ tags, t.Names tag ∧ t.Accepts tag := by
  constructor
  · rintro ⟨tag, hfind, haccepts⟩
    obtain ⟨hmem, hnames⟩ := of_find? hfind
    exact ⟨tag, hmem, hnames, haccepts⟩
  · intro hsome
    obtain ⟨tag, hmem, hnames, -⟩ := id hsome
    obtain ⟨first, hfirst⟩ := exists_find? hmem hnames
    obtain ⟨hmem', hnames'⟩ := of_find? hfirst
    refine ⟨first, hfirst, ?_⟩
    by_contra hno
    exact h ⟨hsome, first, hmem', hnames', hno⟩

theorem metBy_singleton : t.MetBy [tag] ↔ t.Names tag ∧ t.Accepts tag := by
  constructor
  · rintro ⟨first, hfind, haccepts⟩
    obtain ⟨hmem, hnames⟩ := of_find? hfind
    rw [List.mem_singleton] at hmem
    subst hmem
    exact ⟨hnames, haccepts⟩
  · rintro ⟨hnames, haccepts⟩
    exact ⟨tag, List.find?_cons_of_pos hnames, haccepts⟩

theorem Mixed.perm (hperm : tags.Perm tags') (h : t.Mixed tags) : t.Mixed tags' := by
  obtain ⟨⟨tag, hmem, haccepts⟩, other, hother, hno⟩ := h
  exact ⟨⟨tag, hperm.mem_iff.mp hmem, haccepts⟩, other, hperm.mem_iff.mp hother, hno⟩

theorem metBy_perm (hperm : tags.Perm tags') (h : ¬ t.Mixed tags) :
    t.MetBy tags ↔ t.MetBy tags' := by
  rw [metBy_iff h, metBy_iff fun hmixed => h (hmixed.perm hperm.symm)]
  simp only [hperm.mem_iff]

theorem toList_written (key value : String) :
    (key ++ ":" ++ value).toList = key.toList ++ ':' :: value.toList := by
  rw [String.toList_append, String.toList_append, List.append_assoc]
  rfl

theorem names_written :
    Names ⟨key, some value⟩ (key ++ ":" ++ value) ↔ ¬ SplitsWord key.toList value.toList := by
  have hne : lower (key ++ ":" ++ value) ≠ lower key := by
    intro he
    have hlength := congrArg (fun s => s.toList.length) he
    simp only [lower, String.toList_ofList, toList_written, length_lowerChars_append] at hlength
    have hrest : lowerChars (':' :: value.toList) ≠ [] :=
      fun hnil => List.cons_ne_nil _ _ (lowerChars_eq_nil.mp hnil)
    have hpos := List.length_pos_iff.mpr hrest
    omega
  have hkey : (lower key ++ ":").toList = lowerChars key.toList ++ [':'] := by
    rw [String.toList_append, lower, String.toList_ofList]
    rfl
  have htag : (lower (key ++ ":" ++ value)).toList =
      lowerChars (key.toList ++ ':' :: value.toList) := by
    rw [lower, String.toList_ofList, toList_written]
  rw [Names, Tags.hasKey, beq_false_of_ne hne, Bool.false_or, List.isPrefixOf_iff_prefix, hkey,
    htag, prefix_lowerChars]

theorem value?_written : (Tags.value? (key ++ ":" ++ value)).map lower = some (lower value) ↔
    ':' ∉ key.toList ∧ trim value = value := by
  have hlower {cs : List Char} :
      lower (String.ofList cs) = lower value ↔ lowerChars cs = lowerChars value.toList := by
    rw [lower, lower, String.toList_ofList, String.ofList_inj]
  rw [Tags.value?, toList_written]
  by_cases hcolon : ':' ∈ key.toList
  · obtain ⟨before, after, hkey, hno⟩ := List.eq_append_cons_of_mem hcolon
    rw [hkey, List.append_assoc, List.cons_append, cutAt?_append hno, Option.map_some,
      Option.map_some, Option.some.injEq, hlower]
    apply iff_of_false
    · exact lowerChars_trimChars_colon after value.toList
    · exact fun h => h.1 (List.mem_append_right _ List.mem_cons_self)
  · rw [cutAt?_append hcolon, Option.map_some, Option.map_some, Option.some.injEq, hlower,
      trimChars, lowerChars_trimBy, and_iff_right hcolon, ← String.toList_inj, trim,
      String.toList_ofList]
    rfl

end RequiredTag

/-- Whether tags meet every requirement that names a key, or are enough where none does. -/
structure HasTagsConfig.MetBy (cfg : HasTagsConfig) (tags : List String) : Prop where
  named : ∀ t ∈ cfg.requiredTags, t.key ≠ "" → t.MetBy tags
  enough : (∀ t ∈ cfg.requiredTags, t.key = "") → cfg.minTags ≤ tags.length

namespace Check

theorem ofResource_eq (h : r.spec "tags" = .arr items) :
    Tags.ofResource r = .ok (items.map Json.text) := by
  rw [Tags.ofResource, h]
  cases items <;> rfl

theorem missingKeys_wrongValues {required : List RequiredTag} :
    (missingKeys required tags).isEmpty = true ∧ (wrongValues required tags).isEmpty = true ↔
      ∀ t ∈ required, t.MetBy tags := by
  simp only [missingKeys, wrongValues, List.isEmpty_iff, List.map_eq_nil_iff,
    List.filter_eq_nil_iff, List.filterMap_eq_nil_iff, beq_iff_eq, ← RequiredTag.check_eq_met]
  constructor
  · rintro ⟨hmissing, hwrong⟩ t ht
    have hm := hmissing t ht
    have hw := hwrong t ht
    cases hcheck : t.check tags with
    | met => rfl
    | missing => exact absurd hcheck hm
    | wrongValue found =>
      rw [hcheck] at hw
      cases hw
  · intro h
    constructor
    · intro t ht
      rw [h t ht]
      exact nofun
    · intro t ht
      rw [h t ht]

theorem mem_named : t ∈ cfg.requiredTags.filter (·.key != "") ↔
    t ∈ cfg.requiredTags ∧ t.key ≠ "" := by
  rw [List.mem_filter, bne_iff_ne]

theorem named_isEmpty :
    (cfg.requiredTags.filter (·.key != "")).isEmpty = true ↔ ∀ t ∈ cfg.requiredTags, t.key = "" := by
  rw [List.isEmpty_iff, List.eq_nil_iff_forall_not_mem]
  simp only [mem_named, not_and, not_not]

theorem metBy_of_unnamed (h : ∀ t ∈ cfg.requiredTags, t.key = "") :
    cfg.MetBy tags ↔ cfg.minTags ≤ tags.length := by
  constructor
  · intro hmet
    exact hmet.enough h
  · intro hmet
    exact ⟨fun t ht hkey => absurd (h t ht) hkey, fun _ => hmet⟩

theorem metBy_of_named (h : ¬ ∀ t ∈ cfg.requiredTags, t.key = "") :
    cfg.MetBy tags ↔ ∀ t ∈ cfg.requiredTags.filter (·.key != ""), t.MetBy tags := by
  constructor
  · intro hmet t ht
    obtain ⟨hmem, hkey⟩ := mem_named.mp ht
    exact hmet.named t hmem hkey
  · intro hmet
    exact ⟨fun t ht hkey => hmet t (mem_named.mpr ⟨ht, hkey⟩), fun hnone => absurd hnone h⟩

theorem metBy_of_one (hone : cfg.requiredTags = [t]) (hkey : t.key ≠ "") :
    cfg.MetBy tags ↔ t.MetBy tags := by
  rw [metBy_of_named, hone, List.filter_singleton, bne_iff_ne.mpr hkey, cond_true]
  · exact List.forall_mem_singleton
  · rw [hone, List.forall_mem_singleton]
    exact hkey

theorem hasTags_status (inv : Inventory) (hcfg : rule.configAs HasTagsConfig.schema = .ok cfg)
    (htags : r.spec "tags" = .arr items) : ∃ o, hasTags rule r inv = .ok o ∧
      (o.status = .compliant ∧ cfg.MetBy (items.map Json.text) ∨
        o.status = .nonCompliant ∧ ¬ cfg.MetBy (items.map Json.text)) := by
  have hbody := hasTags.eq_1 rule r inv
  rw [hcfg, ofResource_eq htags] at hbody
  rw [hbody]
  generalize items.map Json.text = tags
  change ∃ o, (if (cfg.requiredTags.filter (·.key != "")).isEmpty = true then _ else _) = _ ∧ _
  split
  case isTrue hempty =>
    rw [metBy_of_unnamed (named_isEmpty.mp hempty)]
    split
    case isTrue h => exact ⟨_, rfl, .inl ⟨rfl, h⟩⟩
    case isFalse h => exact ⟨_, rfl, .inr ⟨rfl, h⟩⟩
  case isFalse hempty =>
    rw [metBy_of_named (hempty ∘ named_isEmpty.mpr), ← missingKeys_wrongValues, ← Bool.and_eq_true]
    split
    case isTrue h => exact ⟨_, rfl, .inl ⟨rfl, h⟩⟩
    case isFalse h => exact ⟨_, rfl, .inr ⟨rfl, h⟩⟩

theorem metBy_perm (hperm : tags.Perm tags')
    (h : ∀ t ∈ cfg.requiredTags, t.key ≠ "" → ¬ t.Mixed tags) :
    cfg.MetBy tags ↔ cfg.MetBy tags' := by
  have hnamed : (∀ t ∈ cfg.requiredTags, t.key ≠ "" → t.MetBy tags) ↔
      ∀ t ∈ cfg.requiredTags, t.key ≠ "" → t.MetBy tags' := by
    refine forall₃_congr fun t ht hkey => ?_
    exact RequiredTag.metBy_perm hperm (h t ht hkey)
  constructor
  · intro hmet
    exact ⟨hnamed.mp hmet.named, hperm.length_eq ▸ hmet.enough⟩
  · intro hmet
    exact ⟨hnamed.mpr hmet.named, hperm.length_eq ▸ hmet.enough⟩

theorem hasTags_gives (inv : Inventory) (hcfg : rule.configAs HasTagsConfig.schema = .ok cfg)
    (htags : r.spec "tags" = .arr items) :
    (Gives (hasTags rule r inv) .compliant ↔ cfg.MetBy (items.map Json.text)) ∧
      (Gives (hasTags rule r inv) .nonCompliant ↔ ¬ cfg.MetBy (items.map Json.text)) := by
  obtain ⟨o, ho, ⟨hs, hmet⟩ | ⟨hs, hmet⟩⟩ := hasTags_status inv hcfg htags
  · rw [ho, gives_ok, gives_ok, hs]
    exact ⟨iff_of_true rfl hmet, iff_of_false nofun (not_not_intro hmet)⟩
  · rw [ho, gives_ok, gives_ok, hs]
    exact ⟨iff_of_false nofun hmet, iff_of_true rfl hmet⟩

theorem exists_perm_not_metBy (ht : t ∈ cfg.requiredTags) (hkey : t.key ≠ "")
    (h : t.Mixed (items.map Json.text)) :
    ∃ items', items.Perm items' ∧ ¬ cfg.MetBy (items'.map Json.text) := by
  obtain ⟨-, tag, hmem, hnames, hno⟩ := h
  obtain ⟨item, hitem, rfl⟩ := List.mem_map.mp hmem
  obtain ⟨before, after, rfl⟩ := List.append_of_mem hitem
  refine ⟨item :: (before ++ after), List.perm_middle, fun hmet => ?_⟩
  obtain ⟨first, hfirst, haccepts⟩ := hmet.named t ht hkey
  have hfind : Tags.find? ((item :: (before ++ after)).map Json.text) t.key = some item.text :=
    List.find?_cons_of_pos hnames
  cases hfind.symm.trans hfirst
  exact hno haccepts

/-- The order of the tags does not matter to the status, nor to the fault of a malformed
configuration, unless among the tags with the key of a requirement some have the wanted value and
others do not. The first tag with its key decides a requirement, so in the latter case the check
fails for some order of the tags. -/
theorem hasTags_perm (htags : r.spec "tags" = .arr items) :
    ((∀ cfg, rule.configAs HasTagsConfig.schema = .ok cfg →
        ∀ t ∈ cfg.requiredTags, t.key ≠ "" → ¬ t.Mixed (items.map Json.text)) →
      ∀ r' items', r'.spec "tags" = .arr items' → items.Perm items' →
        (hasTags rule r' inv).map (·.status) = (hasTags rule r inv).map (·.status)) ∧
    ∀ cfg, rule.configAs HasTagsConfig.schema = .ok cfg →
      ((∃ t ∈ cfg.requiredTags, t.key ≠ "") →
        (Gives (hasTags rule r inv) .compliant ↔
          ∀ t ∈ cfg.requiredTags, t.key ≠ "" →
            ∃ tag, Tags.find? (items.map Json.text) t.key = some tag ∧ t.Accepts tag)) ∧
      ∀ t ∈ cfg.requiredTags, t.key ≠ "" → t.Mixed (items.map Json.text) →
        ∃ items', items.Perm items' ∧
          ∀ r', r'.spec "tags" = .arr items' → Gives (hasTags rule r' inv) .nonCompliant := by
  constructor
  · intro h r' items' htags' hperm
    cases hcfg : rule.configAs HasTagsConfig.schema with
    | error fault =>
      have hfault (r : Resource) : hasTags rule r inv = .error (.config fault) := by
        rw [hasTags, hcfg]
        rfl
      rw [hfault, hfault]
    | ok cfg =>
      have hmet := metBy_perm (hperm.map Json.text) (h cfg hcfg)
      obtain ⟨o, ho, hs⟩ := hasTags_status inv hcfg htags
      obtain ⟨o', ho', hs'⟩ := hasTags_status inv hcfg htags'
      rw [ho, ho']
      apply congrArg Except.ok
      rcases hs with ⟨hs, hyes⟩ | ⟨hs, hno⟩
      · rcases hs' with ⟨hs', -⟩ | ⟨-, hno'⟩
        · exact hs'.trans hs.symm
        · exact absurd (hmet.mp hyes) hno'
      · rcases hs' with ⟨-, hyes'⟩ | ⟨hs', -⟩
        · exact absurd (hmet.mpr hyes') hno
        · exact hs'.trans hs.symm
  · intro cfg hcfg
    constructor
    · rintro ⟨t, ht, hkey⟩
      rw [(hasTags_gives inv hcfg htags).1]
      exact ⟨HasTagsConfig.MetBy.named, fun h => ⟨h, fun hnone => absurd (hnone t ht) hkey⟩⟩
    · intro t ht hkey hmixed
      obtain ⟨items', hperm, hno⟩ := exists_perm_not_metBy ht hkey hmixed
      refine ⟨items', hperm, fun r' htags' => ?_⟩
      exact (hasTags_gives inv hcfg htags').2.mpr hno

/-- Two tags with one key and one value in different case, before and after another tag. -/
theorem hasTags_perm_alike :
    let rule : Rule := ⟨"tags", "Tags", "", ["linode"], "has_tags",
      [("required_tags", .arr [.obj [("key", .str "env"), ("value", .str "prod")],
        .obj [("key", .str "owner")]])], .warning, true, none, false⟩
    let cfg : HasTagsConfig := ⟨[⟨"env", some "prod"⟩, ⟨"owner", some "*"⟩], 1⟩
    let r (items : List Json) : Resource :=
      { id := "vm", type := "linode", specs := [("tags", .arr items)] }
    let items : List Json := [.str "env:Prod", .str "Owner:ann", .str "ENV: prod", .str "owner"]
    let inv : Inventory := ⟨"a", [], ⟨2026, 3, 1, 9, 0, 0, 0, some 0⟩⟩
    (∀ t ∈ cfg.requiredTags, t.key ≠ "" → ¬ t.Mixed (items.map Json.text)) ∧
      (hasTags rule (r items.reverse) inv).map (·.status) =
        (hasTags rule (r items) inv).map (·.status) ∧
      Gives (hasTags rule (r items) inv) .compliant := by
  intro rule cfg r items inv
  have hcfg : rule.configAs HasTagsConfig.schema = .ok cfg := rfl
  have hapart : ∀ t ∈ cfg.requiredTags, t.key ≠ "" → ¬ t.Mixed (items.map Json.text) := by
    decide +kernel
  have htags (items : List Json) : (r items).spec "tags" = .arr items := rfl
  refine ⟨hapart, (hasTags_perm (htags items)).1 ?_ (r items.reverse) items.reverse (htags _)
    items.reverse_perm.symm, gives_iff.mpr (by decide +kernel)⟩
  intro cfg' hcfg'
  cases hcfg.symm.trans hcfg'
  exact hapart

/-- Of two tags with one key and different values the first decides. -/
theorem hasTags_perm_first :
    let rule : Rule := ⟨"tags", "Tags", "", ["linode"], "has_tags",
      [("required_tags", .arr [.obj [("key", .str "env"), ("value", .str "prod")]])],
      .warning, true, none, false⟩
    let r (items : List Json) : Resource :=
      { id := "vm", type := "linode", specs := [("tags", .arr items)] }
    let items : List Json := [.str "env:prod", .str "env:dev"]
    let inv : Inventory := ⟨"a", [], ⟨2026, 3, 1, 9, 0, 0, 0, some 0⟩⟩
    Gives (hasTags rule (r items) inv) .compliant ∧ items.Perm items.reverse ∧
      Gives (hasTags rule (r items.reverse) inv) .nonCompliant := by
  intro rule r items inv
  rw [gives_iff, gives_iff]
  exact ⟨by decide +kernel, items.reverse_perm.symm, by decide +kernel⟩

/-- What a requirement says, written as the only tag, meets it just where the key has no colon, the
value has no blanks at its ends, and no word goes on behind a capital sigma at the key's end. -/
theorem hasTags_written (hcfg : rule.configAs HasTagsConfig.schema = .ok cfg)
    (hone : cfg.requiredTags = [⟨key, some value⟩]) (hkey : key ≠ "") (hempty : value ≠ "")
    (hstar : value ≠ "*") (htags : r.spec "tags" = .arr [.str (key ++ ":" ++ value)]) :
    RequiredTag.describe ⟨key, some value⟩ = key ++ ":" ++ value ∧
    (Gives (hasTags rule r inv) .compliant ↔
      ':' ∉ key.toList ∧ trim value = value ∧ ¬ SplitsWord key.toList value.toList) ∧
    (Gives (hasTags rule r inv) .nonCompliant ↔
      ¬ (':' ∉ key.toList ∧ trim value = value ∧ ¬ SplitsWord key.toList value.toList)) := by
  have hvalue : RequiredTag.isWildcard ⟨key, some value⟩ = false := by
    change (value == "" || value == "*") = false
    rw [beq_false_of_ne hempty, beq_false_of_ne hstar]
    rfl
  have hmet : cfg.MetBy [key ++ ":" ++ value] ↔
      ':' ∉ key.toList ∧ trim value = value ∧ ¬ SplitsWord key.toList value.toList := by
    rw [metBy_of_one hone hkey, RequiredTag.metBy_singleton, RequiredTag.names_written,
      RequiredTag.Accepts, hvalue, or_iff_right Bool.false_ne_true]
    change _ ∧ (Tags.value? (key ++ ":" ++ value)).map lower = some (lower value) ↔ _
    rw [RequiredTag.value?_written, and_comm, and_assoc]
  obtain ⟨hgood, hbad⟩ := hasTags_gives inv hcfg htags
  rw [← hmet]
  refine ⟨?_, hgood, hbad⟩
  rw [RequiredTag.describe, hvalue]
  rfl

/-- A value with a colon and a blank inside. -/
theorem hasTags_written_inner :
    let rule : Rule := ⟨"tags", "Tags", "", ["linode"], "has_tags",
      [("required_tags", .arr [.obj [("key", .str "Cost Center"), ("value", .str "a: B")]])],
      .warning, true, none, false⟩
    let r : Resource :=
      { id := "vm", type := "linode", specs := [("tags", .arr [.str "Cost Center:a: B"])] }
    let inv : Inventory := ⟨"a", [], ⟨2026, 3, 1, 9, 0, 0, 0, some 0⟩⟩
    rule.configAs HasTagsConfig.schema = .ok ⟨[⟨"Cost Center", some "a: B"⟩], 1⟩ ∧
      ':' ∉ "Cost Center".toList ∧ trim "a: B" = "a: B" ∧
      Gives (hasTags rule r inv) .compliant := by
  intro rule r inv
  have hcfg : rule.configAs HasTagsConfig.schema = .ok ⟨[⟨"Cost Center", some "a: B"⟩], 1⟩ := rfl
  have hcolon : ':' ∉ "Cost Center".toList := by decide
  have htrim : trim "a: B" = "a: B" := by decide +kernel
  have hword : ¬ SplitsWord "Cost Center".toList "a: B".toList := by
    rintro ⟨before, after, he, -⟩
    have hsigma : capitalSigma ∈ "Cost Center".toList :=
      he ▸ List.mem_append_right before List.mem_cons_self
    exact absurd hsigma (by decide)
  have hgood : Gives (hasTags rule r inv) .compliant ↔ _ :=
    (hasTags_written hcfg rfl (by decide) (by decide) (by decide) rfl).2.1
  exact ⟨hcfg, hcolon, htrim, hgood.mpr ⟨hcolon, htrim, hword⟩⟩

/-- A key with a colon, a value with a blank in front, and a key that ends in a capital sigma: the
tag that the requirement says does not meet it. -/
theorem hasTags_written_apart :
    let rule (key value : String) : Rule := ⟨"tags", "Tags", "", ["linode"], "has_tags",
      [("required_tags", .arr [.obj [("key", .str key), ("value", .str value)]])],
      .warning, true, none, false⟩
    let r (tag : String) : Resource :=
      { id := "vm", type := "linode", specs := [("tags", .arr [.str tag])] }
    let inv : Inventory := ⟨"a", [], ⟨2026, 3, 1, 9, 0, 0, 0, some 0⟩⟩
    Gives (hasTags (rule "team:web" "prod") (r "team:web:prod") inv) .nonCompliant ∧
      Gives (hasTags (rule "env" " prod") (r "env: prod") inv) .nonCompliant ∧
      Gives (hasTags (rule "ΟΔΟΣ" "a") (r "ΟΔΟΣ:a") inv) .nonCompliant := by
  intro rule r inv
  rw [gives_iff, gives_iff, gives_iff]
  exact ⟨by decide +kernel, by decide +kernel, by decide +kernel⟩

end Check

end CloudAudit
