import CloudAudit.Proofs.Run.Transcript

namespace CloudAudit

variable {σ τ : Type}

namespace Run

open FirstPass (Entry)

variable {provider : Option (Provider σ)} {inv : Inventory} {entries : List Entry}

/-- Where the rules do not ask the provider, with the verdicts. -/
def offline (entries : List Entry) : List (Slot × List Verdict) :=
  (entries.filter (!·.slot.rule.isLive)).map fun e => (e.slot, e.found)

theorem offline_eq (h : ∀ e ∈ entries, e.Sound provider inv) : offline entries =
    ((entries.map Entry.slot).filter (!·.rule.isLive)).map fun slot =>
      (slot, FirstPass.plainVerdicts inv slot) := by
  rw [List.filter_map, List.map_map]
  refine List.map_congr_left fun e he => ?_
  obtain ⟨hm, hl⟩ := List.mem_filter.mp he
  rw [Bool.not_eq_true'] at hl
  exact congrArg (Prod.mk e.slot) ((h e hm).plain hl)

/-- Whether a run comes to a report does not depend on the provider. Of two reports with different
providers, the first passes say the same about the rules that do not ask the provider; and where a
rule does ask and has no answer, there is one finding, and it is open. -/
theorem run_contains_live_failures (limits : LiveLimits) (provider : Option (Provider σ))
    (provider' : Option (Provider τ)) (inv : Inventory) (rules : List Rule)
    (ruleIds : Option (List String)) (ids ids' : IdSupply) (state : σ) (state' : τ) :
    (∀ f, (run limits provider inv rules ruleIds ids state).1 = .error f ↔
      (run limits provider' inv rules ruleIds ids' state').1 = .error f) ∧
    ∀ report i, (run limits provider inv rules ruleIds ids state).1 = .ok (report, i) →
      ∃ entries, Transcribed limits provider inv (select rules ruleIds) state report entries ∧
        (∀ e ∈ entries, e.slot.rule.isLive = true →
          (provider = none ∨ ∀ v, e.reply ≠ some (.answer v)) → ∃ detail, e.found =
            [⟨e.slot.rule.id, e.slot.target.map Resource.id, .notApplicable, detail⟩]) ∧
        ∃ report' i' entries',
          (run limits provider' inv rules ruleIds ids' state').1 = .ok (report', i') ∧
          Transcribed limits provider' inv (select rules ruleIds) state' report' entries' ∧
          offline entries' = offline entries := by
  have herr (f : CheckFault) : (run limits provider inv rules ruleIds ids state).1 = .error f ↔
      (run limits provider' inv rules ruleIds ids' state').1 = .error f := by
    rw [run_eq_error_iff, run_eq_error_iff]
  refine ⟨herr, fun report i h => ?_⟩
  obtain ⟨entries, ht, hs⟩ := run_transcribed h
  refine ⟨entries, ht, fun e he => (hs e he).unanswered, ?_⟩
  cases h' : (run limits provider' inv rules ruleIds ids' state').1 with
  | error f => cases h.symm.trans ((herr f).mpr h')
  | ok out =>
    obtain ⟨entries', ht', hs'⟩ := run_transcribed h'
    refine ⟨out.1, out.2, entries', rfl, ht', ?_⟩
    rw [offline_eq hs, offline_eq hs', ht.slots, ht'.slots]

/-- One provider breaks on the users and sends logins that are no list; the other one is missing. -/
theorem run_contains_live_failures_malformed :
    let rule (id kind : String) (config : Fields) : Rule :=
      ⟨id, id, "", ["linode"], kind, config, .warning, true, none, false⟩
    let rules : List Rule := [rule "c" "composite" [("rule_ids", .arr [.str "t", .str "u"])],
      rule "u" "tfa_users" [], rule "t" "has_tags" [], rule "x" "unheard_of" [],
      rule "l" "login_allowed_ips" [("allowed_ips", .arr [.str "192.0.2.1"])],
      rule "k" "lke_control_plane_acl" []]
    let inv : Inventory := {
      accountId := "a"
      resources := [{ id := "i", type := "linode", specs := [("tags", .arr [.str "x"])] },
        { id := "k", type := "lke_cluster", providerId := "7" }]
      now := ⟨2026, 3, 1, 9, 0, 0, 0, some 0⟩ }
    let answer : LiveCall → Reply
      | .users => .fault (.broken (.other "ZeroDivisionError") "division by zero")
      | .logins => .answer (.int 3)
      | .controlPlaneAcl _ => .answer (.obj [("acl", .str "on")])
    let provider : Provider Nat := ⟨fun call n => (answer call, n + 1)⟩
    let broken := (run {} (some provider) inv rules none {} 0).1
    let absent := (run {} (none : Option (Provider Unit)) inv rules none {} ()).1
    broken.toOption.map (·.1.findings.map fun f => (f.ruleId, f.resourceId, f.status)) =
        some [("u", none, .notApplicable), ("t", some "i", .compliant),
          ("x", some "i", .notApplicable), ("l", none, .notApplicable),
          ("k", some "k", .notApplicable), ("c", some "i", .notApplicable)] ∧
      (∃ report i, broken = .ok (report, i)) ∧
      ∀ report i, broken = .ok (report, i) →
        ∃ entries, Transcribed {} (some provider) inv rules 0 report entries ∧
          (∀ e ∈ entries, e.slot.rule.isLive = true → (∀ v, e.reply ≠ some (.answer v)) →
            ∃ detail, e.found =
              [⟨e.slot.rule.id, e.slot.target.map Resource.id, .notApplicable, detail⟩]) ∧
          ∃ report' i' entries', absent = .ok (report', i') ∧
            Transcribed {} (none : Option (Provider Unit)) inv rules () report' entries' ∧
            offline entries' = offline entries := by
  intro rule rules inv answer provider broken absent
  obtain ⟨-, h⟩ := run_contains_live_failures {} (some provider) (none : Option (Provider Unit)) inv
    rules none {} {} 0 ()
  obtain ⟨⟨report, i⟩, hok⟩ := Result.of_isOk (x := broken) (by decide +kernel)
  refine ⟨by decide +kernel, ⟨report, i, hok⟩, fun report i hb => ?_⟩
  obtain ⟨entries, ht, hl, hother⟩ := h report i hb
  exact ⟨entries, ht, fun e he hlive hr => hl e he hlive (.inr hr), hother⟩

end Run

end CloudAudit
