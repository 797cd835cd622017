import CloudAudit.Proofs.Check.AccessList
import CloudAudit.Proofs.Run.LiveFailure

namespace CloudAudit

variable {σ : Type} {limits : LiveLimits} {provider : Option (Provider σ)} {inv : Inventory}

namespace FirstPass

variable {rules : List Rule} {rule : Rule} {target : Option Resource} {check : LiveCheck}
  {pool : LivePool σ} {entries : List Entry} {entry : Entry} {answer : Json}

theorem runLive_of_answer
    (h : replyTo limits provider check ⟨rule, target⟩ pool = some (.answer answer)) :
    (runLive limits provider check rule target pool).1 =
      containLive (check.judge rule (.ok answer)) := by
  cases provider with
  | none => cases h
  | some p =>
    rw [replyTo] at h
    rw [runLive]
    dsimp only at h ⊢
    split at h
    case isTrue => cases h
    case isFalse hfree =>
      rw [if_neg hfree]
      cases hq : check.question rule target with
      | error f =>
        rw [hq] at h
        cases h
      | ok call =>
        rw [hq] at h
        dsimp only at h ⊢
        cases hc : p.call call pool.state with
        | mk reply state =>
          rw [hc] at h
          cases h
          rfl

/-- Every entry is what filling its slot gives in some state of the pool. -/
theorem exists_pool_of_mem_transcript
    (h : ((transcript limits provider inv rules).run pool).1 = .ok entries) (he : entry ∈ entries) :
    ∃ pool, ((fill limits provider inv entry.slot).run pool).1 = .ok entry := by
  have hslots := ((transcript_ends limits provider inv rules pool).2 entries h).1
  have hfill : ∀ slot ∈ slots inv rules, Ends (fun _ => True)
      (fun e => ∃ pool, ((fill limits provider inv slot).run pool).1 = .ok e)
      (fill limits provider inv slot) :=
    fun slot _ pool => ⟨fun _ _ => trivial, fun e he => ⟨pool, he⟩⟩
  have hall := (Ends.mapM hfill pool).2 entries h
  rw [← hslots, List.forall₂_map_left_iff, List.forall₂_same] at hall
  exact hall entry he

theorem found_of_answer (hk : entry.slot.rule.check? = some (.liveResource check))
    (h : ((transcript limits provider inv rules).run pool).1 = .ok entries) (he : entry ∈ entries)
    (hr : entry.reply = some (.answer answer)) :
    entry.found = verdicts entry.slot.rule entry.slot.target
      (containLive (check.judge entry.slot.rule (.ok answer))) := by
  obtain ⟨pool, hp⟩ := exists_pool_of_mem_transcript h he
  rw [fill_live (.inr hk)] at hp
  have hentry := Except.ok.inj hp
  have hreply : replyTo limits provider check entry.slot pool = some (.answer answer) :=
    (congrArg Entry.reply hentry).trans hr
  rw [← runLive_of_answer hreply]
  exact (congrArg Entry.found hentry).symm

end FirstPass

theorem Rule.check?_controlPlaneAcl {rule : Rule}
    (h : rule.conditionType = "lke_control_plane_acl") :
    rule.check? = some (.liveResource Check.controlPlaneAcl) := by
  have hid : ConditionKind.ofId? "lke_control_plane_acl" = some .controlPlaneAcl := by decide
  rw [Rule.check?, h, hid]
  rfl

namespace Run

open FirstPass (Entry)
open AccessList

/-- No answer of the provider ends a run: a run that ends with a fault does so without a provider
too, and a run of rules on access lists comes to a report. In a report, every answer on the access
list of a control plane has led to one finding, with the status that the answer calls for. So an
access list that is on and lets someone in from everywhere is never found compliant. -/
theorem run_controlPlaneAcl (limits : LiveLimits) (provider : Option (Provider σ))
    (inv : Inventory) (rules : List Rule) (ruleIds : Option (List String)) (ids : IdSupply)
    (state : σ) :
    (∀ f, (run limits provider inv rules ruleIds ids state).1 = .error f →
      (run limits (none : Option (Provider σ)) inv rules ruleIds ids state).1 = .error f) ∧
    ((∀ r ∈ select rules ruleIds, r.conditionType = "lke_control_plane_acl") →
      ∃ report i, (run limits provider inv rules ruleIds ids state).1 = .ok (report, i)) ∧
    ∀ report i, (run limits provider inv rules ruleIds ids state).1 = .ok (report, i) →
      ∃ entries, Transcribed limits provider inv (select rules ruleIds) state report entries ∧
        ∀ e ∈ entries, e.slot.rule.conditionType = "lke_control_plane_acl" →
          ∀ answer, e.reply = some (.answer answer) →
            (∃ detail, e.found =
              [⟨e.slot.rule.id, e.slot.target.map Resource.id, status answer, detail⟩]) ∧
            ((∃ v ∈ items (ofAnswer answer), isWildcard v = true) →
              ∀ v ∈ e.found, v.status ≠ .compliant) := by
  refine ⟨?_, ?_, ?_⟩
  · intro f hf
    rw [run_eq_error_iff] at hf ⊢
    exact hf
  · intro hacl
    cases hrun : (run limits provider inv rules ruleIds ids state).1 with
    | ok out => exact ⟨out.1, out.2, rfl⟩
    | error f =>
      obtain ⟨-, rule, hrule, check, hk, -⟩ := (run_eq_error_iff ..).mp hrun
      cases hk.symm.trans (Rule.check?_controlPlaneAcl (hacl rule hrule))
  · intro report i h
    obtain ⟨entries, ht, -⟩ := run_transcribed h
    refine ⟨entries, ht, fun e he hrule answer hr => ?_⟩
    obtain ⟨pool, hpool⟩ := ht.transcript
    have hjudged := FirstPass.found_of_answer (Rule.check?_controlPlaneAcl hrule)
      (congrArg Prod.fst hpool) he hr
    obtain ⟨detail, hdetail⟩ := (Check.judgeAcl_settles answer).contained
    have hfound : e.found =
        [⟨e.slot.rule.id, e.slot.target.map Resource.id, status answer, detail⟩] :=
      hjudged.trans (congrArg (FirstPass.verdicts e.slot.rule e.slot.target) hdetail)
    refine ⟨⟨detail, hfound⟩, ?_⟩
    rintro ⟨v, hv, hwild⟩ verdict hverdict hcompliant
    rw [hfound, List.mem_singleton] at hverdict
    rw [hverdict] at hcompliant
    have hclosed := (status_compliant hcompliant v hv).2
    cases hwild.symm.trans hclosed

/-- The access lists of four clusters hold a wildcard: among the names of an object, beside a list,
before something that cannot be listed, and in a list that is off. The fifth is restricted. -/
theorem run_controlPlaneAcl_wildcards :
    let acl (enabled : Bool) (ipv4 ipv6 : Json) : Json := .obj [("acl", .obj [
      ("enabled", .bool enabled), ("addresses", .obj [("ipv4", ipv4), ("ipv6", ipv6)])])]
    let answers : List (String × Json) := [
      ("1", acl true (.obj [("0.0.0.0/0", .null)]) (.str "::")),
      ("2", acl true (.arr [.str "0.0.0.0/0", .arr []]) .null),
      ("3", acl true (.arr [.str "0.0.0.0/0"]) (.bool true)),
      ("4", acl false .null (.arr [.str "2000::/3"])),
      ("5", acl true (.arr [.str "192.0.2.0/24"]) (.arr []))]
    let rule : Rule := ⟨"r", "r", "", [], "lke_control_plane_acl", [], .critical, true, none, false⟩
    let inv : Inventory := {
      accountId := "a"
      resources := answers.map fun a => { id := a.1, type := "lke_cluster" }
      now := ⟨2026, 3, 1, 9, 0, 0, 0, some 0⟩ }
    let provider : Provider Unit := ⟨fun call s =>
      (.answer ((answers.find? fun a => call = .controlPlaneAcl a.1).elim .null Prod.snd), s)⟩
    let result := (run {} (some provider) inv [rule] none {} ()).1
    result.toOption.map (·.1.findings.map fun f => (f.resourceId, f.status)) =
        some [(some "1", .nonCompliant), (some "2", .notApplicable), (some "3", .notApplicable),
          (some "4", .nonCompliant), (some "5", .compliant)] ∧
      (∃ report i, result = .ok (report, i)) ∧
      ∀ report i, result = .ok (report, i) →
        ∃ entries, Transcribed {} (some provider) inv [rule] () report entries ∧
          ∀ e ∈ entries, ∃ a ∈ answers, e.reply = some (.answer a.2) ∧
            (∃ detail, e.found = [⟨"r", some a.1, status a.2, detail⟩]) ∧
            (a.1 ≠ "5" → ∀ v ∈ e.found, v.status ≠ .compliant) := by
  intro acl answers rule inv provider result
  obtain ⟨-, hreport, h⟩ := run_controlPlaneAcl {} (some provider) inv [rule] none {} ()
  have hwild : ∀ a ∈ answers, a.1 ≠ "5" → ∃ v ∈ items (ofAnswer a.2), isWildcard v = true := by
    decide
  have hreplies : ((FirstPass.transcript {} (some provider) inv [rule]).run ⟨(), 0⟩).1.toOption.map
      (·.map fun e => (e.slot.target.map Resource.id, e.reply)) =
        some (answers.map fun a => (some a.1, some (.answer a.2))) := rfl
  refine ⟨by decide +kernel, hreport (by decide +kernel), fun report i hr => ?_⟩
  obtain ⟨entries, ht, hentries⟩ := h report i hr
  obtain ⟨pool, hpool⟩ := ht.transcript
  refine ⟨entries, ht, fun e he => ?_⟩
  have hrule : e.slot.rule = rule := by
    have hslot : e.slot ∈ FirstPass.slots inv [rule] := ht.slots ▸ List.mem_map_of_mem he
    obtain ⟨r, hr, -, hm⟩ := FirstPass.mem_slots.mp hslot
    exact (Rule.rule_of_mem_slots hm).trans (List.mem_singleton.mp hr)
  have hreplied : (e.slot.target.map Resource.id, e.reply) ∈
      answers.map fun a => (some a.1, some (.answer a.2)) := by
    change (FirstPass.transcript {} (some provider) inv [rule]).run ⟨(), 0⟩ = _ at hpool
    rw [hpool] at hreplies
    rw [← Option.some.inj hreplies]
    exact List.mem_map_of_mem he
  obtain ⟨a, ha, hfields⟩ := List.mem_map.mp hreplied
  obtain ⟨hid, hreply⟩ := Prod.mk.inj hfields
  obtain ⟨⟨detail, hfound⟩, hopen⟩ :=
    hentries e he (congrArg Rule.conditionType hrule) a.2 hreply.symm
  rw [hrule, ← hid] at hfound
  exact ⟨a, ha, hreply.symm, ⟨detail, hfound⟩, fun hother => hopen (hwild a ha hother)⟩

end Run

end CloudAudit
