import Mathlib.Data.Prod.Basic
import CloudAudit.Proofs.Run.Replay
import CloudAudit.Proofs.Service.Score

namespace CloudAudit

open Time (Moment)

variable {σ : Type}

/-! ### Numbers and identifiers -/

theorem Ledger.map_unnamed_restamp (l : Ledger) (found : List Finding) :
    (l.restamp found).map Finding.unnamed = l.restamp (found.map Finding.unnamed) := by
  rw [restamp, restamp, List.map_map, List.map_map]
  rfl

theorem StatusCounts.ofFindings_unnamed (found : List Finding) :
    ofFindings (found.map Finding.unnamed) = ofFindings found := by
  simp only [ofFindings, List.countP_map]
  rfl

theorem Finding.filter_map_unnamed {p : Finding → Bool} (h : ∀ f, p f.unnamed = p f)
    (found : List Finding) :
    (found.map Finding.unnamed).filter p = (found.filter p).map Finding.unnamed := by
  rw [List.filter_map]
  exact congrArg _ (List.filter_congr fun f _ => h f)

theorem ScoreEntry.ofFindings_unnamed (id : String) (found : List Finding) (rules : List Rule)
    (a : String) (now : Moment) :
    ofFindings id (found.map Finding.unnamed) rules a now = ofFindings id found rules a now := by
  have hopened := Finding.filter_map_unnamed (p := fun f => !f.acknowledged) (fun _ => rfl) found
  have hown (ruleId : String) (fs : List Finding) :=
    Finding.filter_map_unnamed (p := fun f => f.ruleId == ruleId) (fun _ => rfl) fs
  simp only [ofFindings, hopened, hown, StatusCounts.ofFindings_unnamed, List.length_map]

theorem ScoreEntry.ofFindings_congr {found found' : List Finding}
    (h : found'.map Finding.unnamed = found.map Finding.unnamed) (id id' : String)
    (rules : List Rule) (a : String) (now : Moment) :
    ofFindings id' found' rules a now = { ofFindings id found rules a now with id := id' } := by
  rw [← ofFindings_unnamed id', h, ofFindings_unnamed]
  rfl

namespace Service

variable {p q : Pipeline σ} {a : String} {now : Moment} {s s₁ t u : Service σ}
  {report report' : Report}

/-- The replies that a run of an account gets from its provider, if there is one. -/
def heard (p : Pipeline σ) (a : String) (now : Moment) (s : Service σ) : Option (List Reply) :=
  match gather p a s with
  | (.error _, _) => none
  | (.ok run, s₁) =>
    Run.replies p.limits run.provider ⟨a, run.resources, now⟩ run.rules s₁.outside

/-- A run is given what the run before was given: it has the same answer of its inventory and the
same replies of its provider. -/
structure SameAnswers (p : Pipeline σ) (s : Service σ) (q : Pipeline σ) (t : Service σ)
    (a : String) (now : Moment) : Prop where
  limits : q.limits = p.limits
  inventory : ((q.inventory a).run t.ids).1 = ((p.inventory a).run s.ids).1
  provider : heard q a now t = heard p a now s

theorem heard_of_gather {run : RunInputs σ} (h : gather p a s = (.ok run, s₁)) (now : Moment) :
    heard p a now s =
      Run.replies p.limits run.provider ⟨a, run.resources, now⟩ run.rules s₁.outside := by
  rw [heard, h]

/-! ### Recording the same findings -/

/-- Acknowledgements that were carried over to findings are carried over alike to findings that
differ from those in their identifiers only. -/
theorem record_findings_again
    (hfound : report'.findings.map Finding.unnamed = report.findings.map Finding.unnamed)
    (hstored : t.store.findingsOf report'.accountId = (record report s).1) :
    (record report' t).1.map Finding.unnamed = (record report s).1.map Finding.unnamed := by
  have hkeys : ∀ g ∈ report'.findings, ∃ f ∈ report.findings, f.ledgerKey = g.ledgerKey := by
    intro g hg
    have hm : g.unnamed ∈ report.findings.map Finding.unnamed := hfound ▸ List.mem_map_of_mem hg
    obtain ⟨f, hf, he⟩ := List.mem_map.mp hm
    have hk : f.unnamed.ledgerKey = g.unnamed.ledgerKey := congrArg Finding.ledgerKey he
    exact ⟨f, hf, hk⟩
  have hs : (record report s).1 =
      (Ledger.capture (s.store.findingsOf report.accountId)).restamp report.findings := rfl
  have ht : (record report' t).1 =
      (Ledger.capture (t.store.findingsOf report'.accountId)).restamp report'.findings := rfl
  rw [ht, hstored, hs, Ledger.restamp_capture_restamp _ hkeys, Ledger.map_unnamed_restamp, hfound,
    Ledger.map_unnamed_restamp]

theorem record_again
    (hfound : report'.findings.map Finding.unnamed = report.findings.map Finding.unnamed)
    (haccount : report'.accountId = report.accountId)
    (htime : report'.evaluatedAt = report.evaluatedAt) (hrules : report'.rules = report.rules)
    (hstored : t.store.findingsOf report.accountId = (record report s).1) :
    (record report' t).1.map Finding.unnamed = (record report s).1.map Finding.unnamed ∧
      (record report' t).2.1 = { (record report s).2.1 with id := t.ids.peek } ∧
      Summary.ofRun (record report' t).1 (record report' t).2.1 =
        .ofRun (record report s).1 (record report s).2.1 := by
  have hfindings := record_findings_again hfound (haccount ▸ hstored)
  have hentry : (record report' t).2.1 = { (record report s).2.1 with id := t.ids.peek } := by
    change ScoreEntry.ofFindings _ (record report' t).1 report'.rules report'.accountId
      report'.evaluatedAt = _
    rw [hrules, haccount, htime]
    exact ScoreEntry.ofFindings_congr hfindings _ _ _ _ _
  have hlength : (record report' t).1.length = (record report s).1.length := by
    rw [← List.length_map Finding.unnamed, hfindings, List.length_map]
  refine ⟨hfindings, hentry, ?_⟩
  rw [hentry, Summary.ofRun, hlength]
  rfl

/-! ### Evaluating once more -/

variable {once twice : Summary}

/-- What two successful runs of an account in a row leave behind where the second one has nothing
new to say: the first leads from the service `s` to `t`, the second on to `u`. -/
structure Repeated (s t u : Service σ) (a : String) (once twice : Summary) : Prop where
  findings : (u.store.findingsOf a).map Finding.unnamed = (t.store.findingsOf a).map Finding.unnamed
  rules : u.store.rules = t.store.rules
  overrides : u.store.overrides = t.store.overrides
  notes : u.store.notes = t.store.notes
  scores : ∃ e id, t.store.scores = s.store.scores ++ [e] ∧
    u.store.scores = t.store.scores ++ [{ e with id }]
  summary : twice = once

/-- Loading the same inputs once more, where their rules are registered already, changes nothing in
the store and leads to the same run. -/
theorem gather_again {run run' : RunInputs σ} {t₁ : Service σ} (hs : s.store.Keyed)
    (hg : gather p a s = (.ok run, s₁)) (hg' : gather q a t = (.ok run', t₁))
    (hinventory : ((q.inventory a).run t.ids).1 = ((p.inventory a).run s.ids).1)
    (hrules : t.store.rules = s₁.store.rules) (hoverrides : t.store.overrides = s₁.store.overrides) :
    t₁.store = t.store ∧ run'.resources = run.resources ∧ run'.rules = run.rules := by
  obtain ⟨inputs, _, hi, hreg, hresources, hactive⟩ := gather_ok hg
  obtain ⟨inputs', _, hi', hreg', hresources', hactive'⟩ := gather_ok hg'
  rw [hi, hi'] at hinventory
  obtain rfl : inputs' = inputs := Except.ok.inj hinventory
  have hstore : t₁.store = t.store := Store.registerRules_again hs.rules hreg hrules hreg'
  refine ⟨hstore, hresources'.trans hresources.symm, ?_⟩
  rw [hactive', hactive, hstore, Store.effectiveRules, Store.effectiveRules, Store.overridesOf,
    Store.overridesOf, hrules, hoverrides]

theorem evaluate_again (hs : s.store.Keyed) (h : s.evaluate p a now = (.ok once, t))
    (hq : SameAnswers p s q t a now) (h' : t.evaluate q a now = (.ok twice, u)) :
    Repeated s t u a once twice := by
  obtain ⟨run, s₁, report, ids, outside, hg, hrun, ht, honce⟩ := evaluate_ok (congrArg Prod.fst h)
  obtain ⟨run', t₁, report', ids', outside', hg', hrun', hu, htwice⟩ :=
    evaluate_ok (congrArg Prod.fst h')
  rw [h] at ht
  rw [h'] at hu
  have hrules : t.store.rules = s₁.store.rules := by
    rw [ht]
    rfl
  have hoverrides : t.store.overrides = s₁.store.overrides := by
    rw [ht]
    rfl
  obtain ⟨hstore, hresources, hactive⟩ :=
    gather_again hs hg hg' hq.inventory hrules hoverrides
  have hreplies := hq.provider
  rw [heard_of_gather hg', heard_of_gather hg, hq.limits, hresources, hactive,
    ← Run.select_none run.rules] at hreplies
  rw [hq.limits, hresources, hactive] at hrun'
  have hfound := Run.run_replay hreplies hrun hrun'
  obtain ⟨(hof : report.IsOf a now), hselected, -⟩ := Run.run_report (congrArg Prod.fst hrun)
  obtain ⟨(hof' : report'.IsOf a now), hselected', -⟩ :=
    Run.run_report (congrArg Prod.fst hrun')
  have hstored : t₁.store.findingsOf report.accountId =
      (record report { s₁ with ids, outside }).1 := by
    rw [hstore, ht, record_findingsOf]
  obtain ⟨hfindings, hentry, hsummary⟩ := record_again (s := { s₁ with ids, outside })
    (t := { t₁ with ids := ids', outside := outside' }) hfound
    (hof'.account.trans hof.account.symm) (hof'.time.trans hof.time.symm)
    (hselected'.trans hselected.symm) hstored
  have hscores : s₁.store.scores = s.store.scores := gather_scores hg
  constructor
  case findings =>
    have hstored' := record_findingsOf report' { t₁ with ids := ids', outside := outside' }
    rw [hof'.account, ← hu] at hstored'
    rw [hstore, hof.account] at hstored
    rw [hstored', hstored]
    exact hfindings
  case rules =>
    rw [hu, ← hstore]
    rfl
  case overrides =>
    rw [hu, ← hstore]
    rfl
  case notes =>
    rw [hu, ← hstore]
    rfl
  case scores =>
    refine ⟨(record report { s₁ with ids, outside }).2.1, ids'.peek, ?_, ?_⟩
    · rw [ht, ← hscores]
      rfl
    · rw [hu, ← hentry, ← hstore]
      rfl
  case summary => rw [htwice, honce, hsummary]

/-- Whatever was done before, a run that is repeated adds nothing but an entry in the history that
says the same. -/
theorem performAll_evaluate_again {rules : List Rule} {profiles : List Profile}
    (hs : s.store = .ofCatalogue rules profiles) (acts : List (Action σ))
    (h : (s.performAll acts).evaluate p a now = (.ok once, t))
    (hq : SameAnswers p (s.performAll acts) q t a now) (h' : t.evaluate q a now = (.ok twice, u)) :
    Repeated (s.performAll acts) t u a once twice :=
  evaluate_again (performAll_keyed (hs ▸ Store.ofCatalogue_keyed rules profiles) acts) h hq h'

/-- The account ships a rule of its own, its provider counts how often it is asked, and one finding
is acknowledged. -/
theorem performAll_evaluate_again_counted :
    let rule (id kind : String) (owner : Option String) : Rule :=
      ⟨id, id, "", ["linode"], kind, [], .warning, true, owner, false⟩
    let now : Moment := ⟨2026, 3, 1, 9, 0, 0, 0, some 0⟩
    let p : Pipeline Nat := {
      inventory := InventoryTable.source ⟨[("a", [{ id := "i", type := "linode" }])],
        [("a", .str "token")], [("a", [rule "own" "has_tags" (some "a")])]⟩
      factory := fun _ asked => (.ok (some { call := fun _ n => (.answer (.arr []), n + 1) }), asked) }
    let first : Service Nat :=
      { store := .ofCatalogue [rule "u" "tfa_users" none] [], outside := 0 }
    let s := first.performAll [.evaluate p "a" now,
      .acknowledge "00000000-0000-0000-0000-000000000002" (some "known") none now]
    let t := (s.evaluate p "a" now).2
    let u := (t.evaluate p "a" now).2
    let known : List (String × Option String) := [("u", none), ("own", some "known")]
    [s, t, u].map (fun s => (s.outside, (s.store.findingsOf "a").map fun f =>
      (f.ruleId, f.acknowledgedNote))) = [(1, known), (2, known), (3, known)] ∧
    ∃ once twice, (s.evaluate p "a" now).1 = .ok once ∧ (t.evaluate p "a" now).1 = .ok twice ∧
      Repeated s t u "a" once twice := by
  intro rule now p first s t u known
  have hinventory (ids : IdSupply) : ((p.inventory "a").run ids).1 = .ok ⟨"a",
      [{ id := "i", type := "linode" }], .str "token", [rule "own" "has_tags" (some "a")]⟩ := rfl
  have hheard {heard : Option (List Reply)}
      (h : heard.map (List.map Reply.isEmptyList) = some [true]) :
      heard = some [.answer (.arr [])] := by
    obtain ⟨replies, rfl, hreplies⟩ := Option.map_eq_some_iff.mp h
    obtain ⟨reply, rfl, hreply⟩ := List.map_eq_singleton_iff.mp hreplies
    rw [Reply.eq_of_isEmptyList hreply]
  have hs : heard p "a" now s = some [.answer (.arr [])] := hheard (by decide +kernel)
  have ht : heard p "a" now t = some [.answer (.arr [])] := hheard (by decide +kernel)
  have hq : SameAnswers p s p t "a" now := {
    limits := rfl
    inventory := (hinventory t.ids).trans (hinventory s.ids).symm
    provider := ht.trans hs.symm }
  obtain ⟨once, h⟩ := Result.of_isOk (x := (s.evaluate p "a" now).1) (by decide +kernel)
  obtain ⟨twice, h'⟩ := Result.of_isOk (x := (t.evaluate p "a" now).1) (by decide +kernel)
  refine ⟨by decide +kernel, once, twice, h, h', ?_⟩
  exact performAll_evaluate_again (s := first) rfl _ (Prod.fst_eq_iff.mp h) hq
    (Prod.fst_eq_iff.mp h')

end Service

end CloudAudit
