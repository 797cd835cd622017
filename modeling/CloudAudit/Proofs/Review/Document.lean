import CloudAudit.Proofs.Command.Reviewing
import CloudAudit.Proofs.Service.Score
import CloudAudit.Proofs.Text.Split

namespace CloudAudit

open Result

variable {findings : List Finding} {rules : List Rule} {rule : Rule} {a : String}

namespace Review

/-! ### Sections -/

def findingsOn (findings : List Finding) (rule : Rule) : List Finding :=
  findings.filter (·.ruleId == rule.id)

/-- How many findings on a rule have a status and are not acknowledged. -/
def openCount (findings : List Finding) (rule : Rule) (s : Status) : Nat :=
  (findingsOn findings rule).countP fun f => f.status == s && !f.acknowledged

/-- The section of a rule, from the stored findings. -/
def ruleSection (findings : List Finding) (rule : Rule) : List String :=
  ["", "### " ++ rule.name ++ " (" ++ rule.severity.text ++ ")"] ++
    (if rule.description = "" then [] else [rule.description]) ++
    ["- compliant=" ++ toString (openCount findings rule .compliant) ++
      " non_compliant=" ++ toString (openCount findings rule .nonCompliant) ++
      " not_applicable=" ++ toString (openCount findings rule .notApplicable)] ++
    (findingsOn findings rule).map findingLine

/-- The breakdown of a rule, from the stored findings. -/
def breakdownOf (findings : List Finding) (rule : Rule) : RuleBreakdown where
  ruleId := rule.id
  ruleName := rule.name
  severity := rule.severity
  compliant := openCount findings rule .compliant
  nonCompliant := openCount findings rule .nonCompliant
  notApplicable := openCount findings rule .notApplicable

theorem count_opened (findings : List Finding) (rule : Rule) (s : Status) :
    (StatusCounts.ofFindings (((findings.filter (!·.acknowledged)).filter
      (!·.acknowledged)).filter (·.ruleId == rule.id))).count s = openCount findings rule s := by
  rw [StatusCounts.count_ofFindings, openCount, findingsOn, List.filter_filter, List.filter_filter,
    List.countP_filter, List.countP_filter]
  refine List.countP_congr fun f _ => ?_
  cases f.acknowledged <;> cases f.ruleId == rule.id <;> simp

theorem breakdown_eq {e : ScoreEntry} (h : e.Balanced findings rules) :
    e.breakdown = rules.map (breakdownOf findings) := by
  rw [← congrArg ScoreEntry.breakdown h.opened]
  refine List.map_congr_left fun rule _ => ?_
  have hcount := count_opened findings rule
  simp only [breakdownOf, ← hcount]
  rfl

theorem descriptionLines_eq (hn : (rules.map Rule.id).Nodup) (hr : rule ∈ rules) :
    descriptionLines rules rule.id =
      if rule.description = "" then [] else [rule.description] := by
  have hreverse : (rules.reverse.map Rule.id).Nodup := by
    rw [List.map_reverse]
    exact List.nodup_reverse.mpr hn
  have hlast : Rule.lastById? rules rule.id = some rule :=
    Table.find?_of_mem hreverse (List.mem_reverse.mpr hr)
  rw [descriptionLines, hlast]

variable {r : Review}

theorem sectionLines_breakdownOf (hn : (r.rules.map Rule.id).Nodup) (hr : rule ∈ r.rules) :
    r.sectionLines (breakdownOf r.findings rule) = ruleSection r.findings rule := by
  have hdescription := descriptionLines_eq hn hr
  rw [sectionLines]
  simp only [breakdownOf, hdescription]
  rfl

/-! ### The document -/

/-- A document that shows a run without loss. -/
structure Lossless (r : Review) : Prop where
  /-- Below the head, the active rules have a section each. -/
  lines : r.lines = r.head ++ r.rules.flatMap (ruleSection r.findings)
  rules : (r.rules.map Rule.id).Nodup
  /-- The sections together show every finding once. -/
  findings : (r.rules.flatMap (findingsOn r.findings)).Perm r.findings
  /-- There are as many lines of findings as the totals add up to. -/
  totals :
    ((r.rules.flatMap fun rule => (findingsOn r.findings rule).map findingLine).length : Int) =
    r.summary.compliant + r.summary.nonCompliant + r.summary.notApplicable + r.summary.acknowledged
  /-- The text is cut into lines where they end and at the line breaks in them. -/
  text : Text.splitOnChar '\n' r.markdown.toList =
    r.lines.flatMap (fun line => Text.splitOnChar '\n' line.toList) ++ [[]]

theorem splitOnChar_markdown (r : Review) : Text.splitOnChar '\n' r.markdown.toList =
    r.lines.flatMap (fun line => Text.splitOnChar '\n' line.toList) ++ [[]] := by
  have hne : r.lines.map String.toList ≠ [] := by
    rw [lines, head]
    exact nofun
  have hcut : Text.splitOnChar '\n' (['\n'].intercalate (r.lines.map String.toList) ++ ['\n']) =
      (r.lines.map String.toList).flatMap (Text.splitOnChar '\n') ++ [[]] :=
    Text.splitOnChar_intercalate_end hne
  rw [markdown, String.toList_append, String.toList_intercalate]
  rw [List.flatMap_map] at hcut
  exact hcut

theorem findingsOn_perm (hn : (rules.map Rule.id).Nodup)
    (hown : ∀ f ∈ findings, ∃ rule ∈ rules, f.ruleId = rule.id) :
    (rules.flatMap (findingsOn findings)).Perm findings := by
  have hm : ∀ f ∈ findings, f.ruleId ∈ rules.map Rule.id := by
    intro f hf
    obtain ⟨rule, hr, he⟩ := hown f hf
    exact he ▸ List.mem_map_of_mem hr
  have hperm := Table.flatMap_filter_key_perm hn hm
  rw [List.flatMap_map] at hperm
  exact hperm

theorem Lossless.finding_lines {f : Finding} (h : r.Lossless) (hf : f ∈ r.findings)
    {line : List Char} (hl : line ∈ Text.splitOnChar '\n' (findingLine f).toList) :
    line ∈ Text.splitOnChar '\n' r.markdown.toList := by
  obtain ⟨rule, hr, hon⟩ := List.mem_flatMap.mp (h.findings.mem_iff.mpr hf)
  have hsection : findingLine f ∈ ruleSection r.findings rule :=
    List.mem_append_right _ (List.mem_map_of_mem hon)
  have hentry : findingLine f ∈ r.lines := by
    rw [h.lines]
    exact List.mem_append_right _ (List.mem_flatMap.mpr ⟨rule, hr, hsection⟩)
  rw [h.text]
  exact List.mem_append_left _ (List.mem_flatMap.mpr ⟨findingLine f, hentry, hl⟩)

/-- The review of a recorded run shows it without loss. -/
theorem lossless_of_scored {σ : Type} {s s' : Service σ} {now : Time.Moment} {summary : Summary}
    {e : ScoreEntry} (h : Service.Scored s s' a now summary e)
    (hn : ((s'.store.effectiveRules a).map Rule.id).Nodup)
    (hown : ∀ f ∈ s'.store.findingsOf a, ∃ rule ∈ s'.store.effectiveRules a, f.ruleId = rule.id) :
    Lossless ⟨summary, e, s'.store.findingsOf a, s'.store.effectiveRules a⟩ where
  lines := by
    rw [lines, breakdown_eq h.balanced, List.flatMap_map]
    congr 1
    exact List.flatMap_congr fun rule hr => sectionLines_breakdownOf hn hr
  rules := hn
  findings := findingsOn_perm hn hown
  totals := by
    have hlength := (findingsOn_perm hn hown).length_eq
    rw [← List.map_flatMap, List.length_map, hlength, ← h.evaluated]
    exact h.partition
  text := splitOnChar_markdown _

end Review

/-! ### The command -/

namespace Reviewing

variable {b : Bounds} {env : Environment} {web : WebService} {inventory : InventorySource}
  {profile : String} {now : Time.Moment} {ids : IdSupply}

theorem prepared_keyed {s : Service Wire}
    (h : prepare b inventory a profile now (.builtin ids {}) = .ok s) :
    s.store.Keyed ∧ s.store.scores = [] := by
  obtain ⟨inputs, ids', store, store', -, hfile, hprofile, rfl⟩ := prepare_ok h
  have hreg := (Store.fileRules_eq_ok.mp hfile).1
  have hbuiltin := Store.ofCatalogue_keyed Builtin.rules Builtin.profiles
  have hkeyed := Store.registerRules_keyed hbuiltin a inputs.extraRules
  have hscores := congrArg Store.scores (Store.registerRules_store
    (.ofCatalogue Builtin.rules Builtin.profiles) a inputs.extraRules)
  have hstore : ((Store.ofCatalogue Builtin.rules Builtin.profiles).registerRules a
      inputs.extraRules).2 = store := congrArg Prod.snd hreg
  rw [hstore] at hkeyed hscores
  obtain rfl | ⟨p, rfl⟩ := applyProfile_ok hprofile
  · exact ⟨hkeyed, hscores⟩
  · exact ⟨Store.applied_keyed hkeyed p a now, hscores⟩

theorem scoreHistory_single {store : Store} {e : ScoreEntry} (h : store.scores = [e])
    (ha : e.accountId = a) : store.scoreHistory a 1 = .ok [e] := by
  have hfilter : store.scores.filter (·.accountId == a) = [e] := by
    rw [h, List.filter_cons, if_pos (beq_iff_eq.mpr ha), List.filter_nil]
  have hsort : Time.sortByMoment? ScoreEntry.evaluatedAt [e] = some [e] := by
    simp [Time.sortByMoment?]
  rw [Store.scoreHistory, hfilter, hsort]
  rfl

theorem review_ok {r : Review} {reports : List (Path × Json)}
    (h : review b env web inventory a profile now ids = .ok (r, reports)) :
    ∃ s p s', prepare b inventory a profile now (.builtin ids {}) = .ok s ∧
      Pipeline.ofEnvironment b env inventory web = .ok p ∧
      s.evaluate p a now = (.ok r.summary, s') ∧
      r.findings = s'.store.findingsOf a ∧ r.rules = s'.store.effectiveRules a ∧ r.Lossless := by
  obtain ⟨s, hs, h⟩ := bind_eq_ok.mp h
  obtain ⟨p, hp, h⟩ := bind_eq_ok.mp h
  have hp := mapError_eq_ok.mp hp
  obtain ⟨hkeyed, hscores⟩ := prepared_keyed hs
  cases he : s.evaluate p a now with
  | mk result s' =>
    rw [he] at h
    cases result with
    | error f => cases h
    | ok summary =>
      have hrun : (s.evaluate p a now).1 = .ok summary := congrArg Prod.fst he
      obtain ⟨e, hscored⟩ := Service.evaluate_scored hkeyed hrun
      obtain ⟨hn, hown⟩ := Service.evaluate_own hkeyed hrun
      rw [he] at hscored hn hown
      have hhistory : s'.store.scoreHistory a 1 = .ok [e] :=
        scoreHistory_single (by rw [hscored.history, hscores]; rfl) hscored.account
      dsimp only at h
      rw [hhistory] at h
      cases h
      exact ⟨s, p, s', hs, hp, he, rfl, rfl, Review.lossless_of_scored hscored hn hown⟩

variable {o : ReviewOptions} {current : Path} {folderExists : Path → Bool}
  {files : Path → AccountFiles} {out : ReviewFiles}

/-- The document of the command shows the run in its own store without loss: every active rule has
its section, in the order of the rules, with every stored finding on it, as it is stored. -/
theorem run_lossless (h : run b o current folderExists env web files now ids = .ok out)
    (hf : o.asJson = false) :
    ∃ (r : Review) (s : Service Wire) (p : Pipeline Wire) (s' : Service Wire),
      prepare b (.ofFiles b (o.fixturesPath current) files) o.accountId o.profile now
        (.builtin ids {}) = .ok s ∧
      Pipeline.ofEnvironment b env (.ofFiles b (o.fixturesPath current) files) web = .ok p ∧
      s.evaluate p o.accountId now = (.ok r.summary, s') ∧
      r.findings = s'.store.findingsOf o.accountId ∧
      r.rules = s'.store.effectiveRules o.accountId ∧ r.rules.Sublist s'.store.rules ∧
      out.text = r.markdown ∧ r.Lossless := by
  obtain ⟨⟨r, reports⟩, hreview, h⟩ := bind_eq_ok.mp h
  obtain ⟨s, p, s', hs, hp, he, hfindings, hrules, hlossless⟩ := review_ok hreview
  have hsub : r.rules.Sublist s'.store.rules :=
    hrules ▸ List.filter_sublist.trans List.filter_sublist
  refine ⟨r, s, p, s', hs, hp, he, hfindings, hrules, hsub, ?_, hlossless⟩
  dsimp only at h
  split at h
  · cases h
    rw [hf]
    rfl
  · cases h

/-- One instance without a firewall. -/
theorem run_lossless_instance :
    let o : ReviewOptions :=
      { fixturesFolder := "fx", accountId := "acct-1", profile := "minimal-dev" }
    let now : Time.Moment := ⟨2026, 3, 1, 9, 0, 0, 0, some 0⟩
    let doc := "[\x7b\"id\":\"vm-1\",\"resource_type\":\"linode\"\x7d]"
    let files : Path → AccountFiles := fun _ => { resources := .content doc.toUTF8.data.toList }
    let web : WebService := fun _ _ => .success []
    ∃ out, run {} o ⟨"/", []⟩ (fun _ => true) [] web files now {} = .ok out ∧ o.asJson = false ∧
      ∃ (r : Review) (s : Service Wire) (p : Pipeline Wire) (s' : Service Wire),
        prepare {} (.ofFiles {} (o.fixturesPath ⟨"/", []⟩) files) o.accountId o.profile now
          (.builtin {} {}) = .ok s ∧
        Pipeline.ofEnvironment {} [] (.ofFiles {} (o.fixturesPath ⟨"/", []⟩) files) web = .ok p ∧
        s.evaluate p o.accountId now = (.ok r.summary, s') ∧
        r.findings = s'.store.findingsOf o.accountId ∧
        r.rules = s'.store.effectiveRules o.accountId ∧ r.rules.Sublist s'.store.rules ∧
        out.text = r.markdown ∧ r.Lossless := by
  intro o now doc files web
  obtain ⟨out, h⟩ := of_isOk (x := run {} o ⟨"/", []⟩ (fun _ => true) [] web files now {})
    (by decide +kernel)
  exact ⟨out, h, rfl, run_lossless h rfl⟩

/-- An identifier with a line break: the finding on it has no line of its own, and there is a line
that reads like a compliant finding. -/
theorem run_lossless_break :
    let o : ReviewOptions :=
      { fixturesFolder := "fx", accountId := "acct-1", profile := "minimal-dev" }
    let now : Time.Moment := ⟨2026, 3, 1, 9, 0, 0, 0, some 0⟩
    let doc :=
      "[\x7b\"id\":\"vm-1\\n  - [compliant] vm-2\",\"resource_type\":\"linode\"\x7d]"
    let files : Path → AccountFiles := fun _ => { resources := .content doc.toUTF8.data.toList }
    let web : WebService := fun _ _ => .success []
    ∃ out r reports, run {} o ⟨"/", []⟩ (fun _ => true) [] web files now {} = .ok out ∧
      review {} [] web (.ofFiles {} (o.fixturesPath ⟨"/", []⟩) files) o.accountId o.profile now
        {} = .ok (r, reports) ∧
      out.text = r.markdown ∧
      (∃ f ∈ r.findings,
        (Review.findingLine f).toList ∉ Text.splitOnChar '\n' out.text.toList) ∧
      r.summary.compliant = 0 ∧
      "  - [compliant] vm-2: No firewall is attached to this Linode.".toList ∈
        Text.splitOnChar '\n' out.text.toList := by
  intro o now doc files web
  have hrun : (review {} [] web (.ofFiles {} (o.fixturesPath ⟨"/", []⟩) files) o.accountId
      o.profile now {}).toOption.map (fun x => (x.1.summary.compliant,
        x.1.findings.head?.map fun f => (f.resourceId, f.status, f.detail))) =
      some (0, some (some "vm-1\n  - [compliant] vm-2", .nonCompliant,
        "No firewall is attached to this Linode.")) := by decide +kernel
  obtain ⟨⟨r, reports⟩, hr, hfacts⟩ := of_map_toOption hrun
  obtain ⟨hcompliant, hfirst⟩ := Prod.mk.inj hfacts
  obtain ⟨f, hhead, hf⟩ := Option.map_eq_some_iff.mp hfirst
  obtain ⟨-, -, -, -, -, -, -, -, hlossless⟩ := review_ok hr
  have hmem : f ∈ r.findings := List.mem_of_mem_head? hhead
  have hline : Review.findingLine f = "  - [non_compliant] vm-1\n  - [compliant] vm-2: " ++
      "No firewall is attached to this Linode." := by
    obtain ⟨hid, hf⟩ := Prod.mk.inj hf
    obtain ⟨hstatus, hdetail⟩ := Prod.mk.inj hf
    rw [Review.findingLine, hid, hstatus, hdetail]
    rfl
  have hout : run {} o ⟨"/", []⟩ (fun _ => true) [] web files now {} = .ok
      { path := o.reviewPath ⟨"/", []⟩ r.summary.evaluatedAt, text := r.markdown
        reports := reports.map fun x => (Path.join ⟨"/", []⟩ x.1, x.2.indented 0) } := by
    rw [run, hr]
    rfl
  refine ⟨_, r, reports, hout, hr, rfl, ⟨f, hmem, fun hno => ?_⟩, hcompliant, ?_⟩
  · refine Text.not_mem_of_mem_splitOnChar hno ?_
    rw [hline]
    decide +kernel
  · refine hlossless.finding_lines hmem ?_
    rw [hline]
    decide +kernel

end Reviewing

end CloudAudit
