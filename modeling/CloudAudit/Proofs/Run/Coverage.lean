import CloudAudit.Proofs.Run.Mention
import CloudAudit.Proofs.Run.Transcript

namespace CloudAudit

variable {σ : Type}

namespace CompositeContext

variable {ctx : CompositeContext} {rule : Rule} {ids : List String}

theorem openVerdict_ne_nil (detail : String) : openVerdict rule detail ≠ [] := List.cons_ne_nil _ _

theorem junction_ne_nil (j : Junction) : ctx.junction rule ids j ≠ [] := by
  rw [junction]
  split
  · exact openVerdict_ne_nil _
  dsimp only
  split
  · exact openVerdict_ne_nil _
  split
  · exact openVerdict_ne_nil _
  case h_2 hg => exact fun h => hg (List.map_eq_nil_iff.mp h)

theorem negation_ne_nil : ctx.negation rule ids ≠ [] := by
  cases ids with
  | nil => exact openVerdict_ne_nil _
  | cons target _ =>
    rw [negation]
    split
    · exact openVerdict_ne_nil _
    split
    · exact openVerdict_ne_nil _
    case h_2 hv => exact fun h => hv (List.map_eq_nil_iff.mp h)

theorem conditional_ne_nil (ifId thenId : Option String) :
    ctx.conditional rule ifId thenId ≠ [] := by
  rw [conditional]
  split
  · exact openVerdict_ne_nil _
  split
  · exact openVerdict_ne_nil _
  case h_2 hg => exact fun h => hg (List.map_eq_nil_iff.mp h)

theorem resolveRule_ne_nil (ctx : CompositeContext) (rule : Rule) : ctx.resolveRule rule ≠ [] := by
  rw [resolveRule]
  split
  · exact openVerdict_ne_nil _
  split
  · exact conditional_ne_nil _ _
  · exact negation_ne_nil
  · exact junction_ne_nil _
  · exact junction_ne_nil _
  · exact openVerdict_ne_nil _

variable {v : Verdict}

theorem mem_resolve {composites : List Rule} :
    v ∈ ctx.resolve composites ↔ ∃ r ∈ composites, v ∈ ctx.resolveRule r := List.mem_flatMap

end CompositeContext

namespace FirstPass

variable {provider : Option (Provider σ)} {inv : Inventory} {rules : List Rule} {rule : Rule}
  {entries : List Entry}

theorem slots_of_rule (hn : (rules.map Rule.id).Nodup) (hr : rule ∈ rules)
    (hc : rule.isComposite = false) :
    (slots inv rules).filter (·.rule.id == rule.id) = rule.slots inv := by
  have hsub : ((rules.filter (!·.isComposite)).map Rule.id).Nodup :=
    (List.filter_sublist.map Rule.id).nodup hn
  have hmem : rule ∈ rules.filter (!·.isComposite) :=
    List.mem_filter.mpr ⟨hr, by rw [hc]; rfl⟩
  have hown : ∀ r ∈ rules.filter (!·.isComposite), ∀ s ∈ r.slots inv, s.rule.id = r.id := by
    intro r _ s hs
    rw [Rule.rule_of_mem_slots hs]
  rw [slots, Table.filter_flatMap hown (· == rule.id), Table.filter_key_eq_singleton hsub hmem,
    List.flatMap_singleton]

theorem entries_of_rule (hslots : entries.map Entry.slot = slots inv rules)
    (hs : ∀ e ∈ entries, e.Sound provider inv) (hn : (rules.map Rule.id).Nodup) (hr : rule ∈ rules)
    (hc : rule.isComposite = false) : ∃ own : List Entry, own.map Entry.slot = rule.slots inv ∧
      (∀ e ∈ own, e.Sound provider inv) ∧
      (entries.flatMap Entry.found).filter (·.ruleId == rule.id) = own.flatMap Entry.found := by
  refine ⟨entries.filter (·.slot.rule.id == rule.id), ?_, ?_, ?_⟩
  · rw [← slots_of_rule hn hr hc, ← hslots, List.filter_map]
    rfl
  · exact fun e he => hs e (List.mem_filter.mp he).1
  · exact Table.filter_flatMap (fun e he v hv => ((hs e he).own v hv).1) (· == rule.id)

theorem map_resourceId_found {own : List Entry} (hw : rule.isAccountWide = false)
    (hslots : own.map Entry.slot = rule.slots inv) (hs : ∀ e ∈ own, e.Sound provider inv) :
    (own.flatMap Entry.found).map Verdict.resourceId =
      (rule.applicable inv.resources).map (some ·.id) := by
  have hfound : ∀ e ∈ own, e.found.map Verdict.resourceId = [e.slot.target.map Resource.id] := by
    intro e he
    have hm : e.slot ∈ rule.slots inv := hslots ▸ List.mem_map_of_mem he
    have hrule := Rule.rule_of_mem_slots hm
    obtain ⟨v, hv⟩ := (hs e he).single (hrule ▸ hw)
    rw [hv, List.map_singleton, ((hs e he).own v (by simp [hv])).2]
  have hmap : (own.flatMap Entry.found).map Verdict.resourceId =
      (own.map Entry.slot).map fun slot => slot.target.map Resource.id := by
    rw [List.map_flatMap, List.flatMap_congr hfound, ← List.map_eq_flatMap, List.map_map]
    rfl
  rw [hmap, hslots, Rule.slots_of_not_accountWide hw, List.map_map]
  rfl

theorem found_of_accountWide {own : List Entry} (hw : rule.isAccountWide = true)
    (hslots : own.map Entry.slot = rule.slots inv) (hs : ∀ e ∈ own, e.Sound provider inv) :
    own.flatMap Entry.found ≠ [] ∧ ∀ v ∈ own.flatMap Entry.found, v.resourceId = none := by
  rw [Rule.slots_of_accountWide hw, List.map_eq_singleton_iff] at hslots
  obtain ⟨e, rfl, he⟩ := hslots
  have hsound := hs e (List.mem_singleton.mpr rfl)
  rw [List.flatMap_singleton]
  refine ⟨hsound.nonempty, fun v hv => ?_⟩
  rw [(hsound.own v hv).2, he]
  rfl

end FirstPass

def Report.ofRule (report : Report) (ruleId : String) : List Finding :=
  report.findings.filter (·.ruleId == ruleId)

/-- A report covers the selected rules: its findings are those of the first pass and after them
those of the composites. A rule that is checked on resources has one for each resource that it
applies to, a rule on the account or a composite has at least one. -/
structure Report.Covers (inv : Inventory) (selected : List Rule) (first : List Verdict)
    (report : Report) : Prop where
  passes : report.findings.map Finding.verdict =
    first ++ CompositeContext.resolve ⟨selected, ⟨first⟩⟩ (selected.filter (·.isComposite))
  resources : ∀ r ∈ selected, r.isComposite = false → r.isAccountWide = false →
    (report.ofRule r.id).map Finding.resourceId = (r.applicable inv.resources).map (some ·.id)
  account : ∀ r ∈ selected, r.isAccountWide = true →
    report.ofRule r.id ≠ [] ∧ ∀ f ∈ report.ofRule r.id, f.resourceId = none
  composites : ∀ r ∈ selected, r.isComposite = true → report.ofRule r.id ≠ []
  own : ∀ f ∈ report.findings, f.accountId = inv.accountId ∧ f.evaluatedAt = inv.now ∧
    ∃ r ∈ selected, f.ruleId = r.id
  totals : report.Tallied

namespace Run

open FirstPass (Entry)

variable {limits : LiveLimits} {provider : Option (Provider σ)} {inv : Inventory}
  {rules : List Rule} {ruleIds : Option (List String)} {ids i : IdSupply} {state : σ}
  {report : Report} {selected : List Rule} {entries : List Entry} {r : Rule}

namespace Transcribed

theorem verdicts (h : Transcribed limits provider inv selected state report entries) :
    report.findings.map Finding.verdict = entries.flatMap Entry.found ++
      CompositeContext.resolve ⟨selected, ⟨entries.flatMap Entry.found⟩⟩
        (selected.filter (·.isComposite)) := by
  have hv := congrArg (List.map Finding.verdict) h.findings
  rw [List.map_map, List.map_map] at hv
  exact hv.trans (List.map_id _)

theorem ofRule_verdicts (h : Transcribed limits provider inv selected state report entries)
    (hn : (selected.map Rule.id).Nodup) (hr : r ∈ selected) (hc : r.isComposite = false) :
    (report.ofRule r.id).map Finding.verdict =
      (entries.flatMap Entry.found).filter (·.ruleId == r.id) := by
  -- No composite has the identifier of the rule.
  have hno : (selected.filter (·.isComposite)).filter (·.id == r.id) = [] := by
    rw [List.filter_comm, Table.filter_key_eq_singleton hn hr, List.filter_cons_of_neg (by simp [hc]),
      List.filter_nil]
  have hf : (report.ofRule r.id).map Finding.verdict =
      (report.findings.map Finding.verdict).filter (·.ruleId == r.id) := by
    rw [List.filter_map]
    rfl
  rw [hf, h.verdicts, List.filter_append, CompositeContext.resolve,
    Verdict.filter_flatMap (fun _ _ _ => CompositeContext.ruleId_of_mem_resolveRule) (· == r.id),
    hno, List.flatMap_nil, List.append_nil]

theorem own (h : Transcribed limits provider inv selected state report entries)
    (hs : ∀ e ∈ entries, e.Sound provider inv) {f : Finding} (hf : f ∈ report.findings) :
    f.accountId = inv.accountId ∧ f.evaluatedAt = inv.now ∧ ∃ r ∈ selected, f.ruleId = r.id := by
  have hm : f.unnamed ∈ report.findings.map Finding.unnamed := List.mem_map_of_mem hf
  rw [h.findings] at hm
  obtain ⟨v, hv, he⟩ := List.mem_map.mp hm
  refine ⟨(congrArg Finding.accountId he).symm, (congrArg Finding.evaluatedAt he).symm, ?_⟩
  have hid : f.ruleId = v.ruleId := (congrArg Finding.ruleId he).symm
  obtain hv | hv := List.mem_append.mp hv
  · obtain ⟨e, hmem, hv⟩ := List.mem_flatMap.mp hv
    have hslot : e.slot ∈ FirstPass.slots inv selected := h.slots ▸ List.mem_map_of_mem hmem
    obtain ⟨r, hr, -, hslot⟩ := FirstPass.mem_slots.mp hslot
    refine ⟨r, hr, hid.trans ?_⟩
    rw [((hs e hmem).own v hv).1, Rule.rule_of_mem_slots hslot]
  · obtain ⟨r, hr, hv⟩ := CompositeContext.mem_resolve.mp hv
    exact ⟨r, (List.mem_filter.mp hr).1,
      hid.trans (CompositeContext.ruleId_of_mem_resolveRule hv)⟩

theorem covers (h : Transcribed limits provider inv selected state report entries)
    (hs : ∀ e ∈ entries, e.Sound provider inv) (hn : (selected.map Rule.id).Nodup)
    (ht : report.Tallied) : report.Covers inv selected (entries.flatMap Entry.found) where
  passes := h.verdicts
  resources := by
    intro r hr hc hw
    obtain ⟨own, hslots, hsound, he⟩ := FirstPass.entries_of_rule h.slots hs hn hr hc
    rw [← FirstPass.map_resourceId_found hw hslots hsound, ← he, ← h.ofRule_verdicts hn hr hc,
      List.map_map]
    rfl
  account := by
    intro r hr hw
    have hc : r.isComposite = false := by
      cases hk : r.check? with
      | none => simp [Rule.isAccountWide, hk] at hw
      | some check => exact Rule.isComposite_of_check? hk
    obtain ⟨own, hslots, hsound, he⟩ := FirstPass.entries_of_rule h.slots hs hn hr hc
    obtain ⟨hne, hnone⟩ := FirstPass.found_of_accountWide hw hslots hsound
    rw [← he, ← h.ofRule_verdicts hn hr hc] at hne hnone
    refine ⟨fun hnil => hne (by rw [hnil]; rfl), fun f hf => ?_⟩
    exact hnone f.verdict (List.mem_map_of_mem hf)
  composites := by
    intro r hr hc hnil
    obtain ⟨v, hv⟩ := List.exists_mem_of_ne_nil _ (CompositeContext.resolveRule_ne_nil
      ⟨selected, ⟨entries.flatMap Entry.found⟩⟩ r)
    have hm : v ∈ report.findings.map Finding.verdict := by
      rw [h.verdicts]
      exact List.mem_append_right _ (CompositeContext.mem_resolve.mpr
        ⟨r, List.mem_filter.mpr ⟨hr, hc⟩, hv⟩)
    obtain ⟨f, hf, rfl⟩ := List.mem_map.mp hm
    have hf : f ∈ report.ofRule r.id := List.mem_filter.mpr
      ⟨hf, beq_iff_eq.mpr (CompositeContext.ruleId_of_mem_resolveRule hv)⟩
    rw [hnil] at hf
    cases hf
  own := fun f hf => h.own hs hf
  totals := ht

end Transcribed

theorem findings_own (h : (run limits provider inv rules ruleIds ids state).1 = .ok (report, i)) :
    ∀ f ∈ report.findings, ∃ r ∈ report.rules, f.ruleId = r.id := by
  intro f hf
  obtain ⟨entries, ht, hs⟩ := run_transcribed h
  obtain ⟨-, hrules, -⟩ := run_report h
  rw [hrules]
  exact (ht.own hs hf).2.2

/-- The report of a run over rules with identifiers of their own covers the selected rules. -/
theorem run_covers (hn : (rules.map Rule.id).Nodup)
    (h : (run limits provider inv rules ruleIds ids state).1 = .ok (report, i)) :
    ∃ first, ((FirstPass.run limits provider inv (select rules ruleIds)).run ⟨state, 0⟩).1 =
        .ok first ∧
      report.Covers inv (select rules ruleIds) first := by
  obtain ⟨entries, ht, hs⟩ := run_transcribed h
  obtain ⟨pool, hfirst⟩ := ht.firstPass
  have hsel : ((select rules ruleIds).map Rule.id).Nodup :=
    (List.filter_sublist.map Rule.id).nodup hn
  obtain ⟨-, -, htallied⟩ := run_report h
  exact ⟨_, congrArg Prod.fst hfirst, ht.covers hs hsel htallied⟩

/-- Two users, a kind that nobody knows, a cluster rule meant for other resources, and a rule that
is not selected. -/
theorem run_covers_mixed :
    let rule (id kind : String) (config : Fields) : Rule :=
      ⟨id, id, "", ["linode"], kind, config, .warning, true, none, false⟩
    let rules : List Rule := [rule "c" "composite" [("rule_ids", .arr [.str "u", .str "t"])],
      rule "u" "tfa_users" [], rule "x" "unheard_of" [], rule "k" "lke_control_plane_acl" [],
      rule "o" "has_tags" [], rule "t" "has_tags" []]
    let inv : Inventory := {
      accountId := "a"
      resources := [{ id := "i", type := "linode", specs := [("tags", .arr [.str "x"])] },
        { id := "k", type := "lke_cluster", providerId := "7" }, { id := "j", type := "linode" }]
      now := ⟨2026, 3, 1, 9, 0, 0, 0, some 0⟩ }
    let user (name : String) (tfa : Bool) : Json :=
      .obj [("username", .str name), ("tfa_enabled", .bool tfa)]
    let answer : LiveCall → Reply
      | .users => .answer (.arr [user "ann" true, user "bob" false])
      | _ => .fault .unreadableText
    let provider : Provider Nat := ⟨fun call n => (answer call, n + 1)⟩
    let chosen := some ["c", "u", "x", "k", "t"]
    let outcome := (run {} (some provider) inv rules chosen {} 0).1
    (rules.map Rule.id).Nodup ∧
      outcome.toOption.map (·.1.findings.map fun f => (f.ruleId, f.resourceId, f.status)) =
        some [("u", none, .compliant), ("u", none, .nonCompliant),
          ("x", some "i", .notApplicable), ("x", some "j", .notApplicable),
          ("k", some "k", .notApplicable), ("t", some "i", .compliant),
          ("t", some "j", .nonCompliant), ("c", some "i", .nonCompliant),
          ("c", some "j", .nonCompliant)] ∧
      outcome.toOption.map (·.1.totals) =
        some [(.compliant, 2), (.nonCompliant, 4), (.notApplicable, 3)] ∧
      ∃ report i first, outcome = .ok (report, i) ∧
        report.Covers inv (select rules chosen) first := by
  intro rule rules inv user answer provider chosen outcome
  have hn : (rules.map Rule.id).Nodup := by decide
  obtain ⟨⟨report, i⟩, h⟩ := Result.of_isOk (x := outcome) (by decide +kernel)
  obtain ⟨first, -, hc⟩ := run_covers hn h
  exact ⟨hn, by decide +kernel, by decide +kernel, report, i, first, h, hc⟩

end Run

end CloudAudit
