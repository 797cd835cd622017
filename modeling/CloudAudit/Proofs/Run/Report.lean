import Mathlib.Data.List.Induction
import CloudAudit.Proofs.Table
import CloudAudit.Run.Report

namespace CloudAudit

variable {σ : Type}

namespace IdSupply

variable {α β γ : Type}

theorem mem_label {f : String → α → β} {b : β} {as : List α} {s : IdSupply}
    (h : b ∈ (s.label f as).1) : ∃ id, ∃ a ∈ as, b = f id a := by
  induction as generalizing s with
  | nil => cases h
  | cons a as ih =>
    rw [label, List.mem_cons] at h
    obtain rfl | h := h
    · exact ⟨_, a, List.mem_cons_self, rfl⟩
    · obtain ⟨id, a', ha', he⟩ := ih h
      exact ⟨id, a', List.mem_cons_of_mem _ ha', he⟩

theorem map_label {f : String → α → β} {g : β → γ} {k : α → γ} (h : ∀ id a, g (f id a) = k a)
    (s : IdSupply) (as : List α) : (s.label f as).1.map g = as.map k := by
  induction as generalizing s with
  | nil => rfl
  | cons a as ih => rw [label, List.map_cons, List.map_cons, h, ih]

end IdSupply

theorem Run.run_ok {limits : LiveLimits} {provider : Option (Provider σ)} {inv : Inventory}
    {rules : List Rule} {ruleIds : Option (List String)} {ids ids' : IdSupply} {state state' : σ}
    {report : Report}
    (h : Run.run limits provider inv rules ruleIds ids state = (.ok (report, ids'), state')) :
    ∃ found pool, (Run.verdicts limits provider inv (Run.select rules ruleIds)).run ⟨state, 0⟩ =
        (.ok found, pool) ∧ pool.state = state' ∧
      (report, ids') = Run.report inv (Run.select rules ruleIds) found ids := by
  rw [Run.run] at h
  generalize (Run.verdicts limits provider inv (Run.select rules ruleIds)).run ⟨state, 0⟩ = result
    at h ⊢
  obtain ⟨found, pool⟩ := result
  obtain ⟨hr, hs⟩ := Prod.mk.inj h
  cases found with
  | error f => cases hr
  | ok found => exact ⟨found, pool, rfl, hs, (Except.ok.inj hr).symm⟩

/-- A report of one account at one time. -/
structure Report.IsOf (accountId : String) (now : Time.Moment) (report : Report) : Prop where
  account : report.accountId = accountId
  time : report.evaluatedAt = now
  owner : ∀ f ∈ report.findings, f.accountId = accountId

theorem Run.report_isOf (inv : Inventory) (rules : List Rule) (found : List Verdict)
    (ids : IdSupply) : (Run.report inv rules found ids).1.IsOf inv.accountId inv.now where
  account := rfl
  time := rfl
  owner := by
    intro f hf
    obtain ⟨id, v, -, rfl⟩ := IdSupply.mem_label hf
    rfl

namespace Report

variable {totals : List (Status × Int)} {statuses : List Status} {s : Status} {n : Int}

theorem tally_eq_upsert (totals : List (Status × Int)) (s : Status) :
    tally totals s = Table.upsert Prod.fst (s, (totals.lookup s).getD 0 + 1) totals := by
  induction totals with
  | nil => rfl
  | cons row totals ih =>
    obtain ⟨t, n⟩ := row
    rw [tally, Table.upsert]
    by_cases h : t = s
    · rw [if_pos h, if_pos h, h, List.lookup_cons_self]
      rfl
    · rw [if_neg h, if_neg h, ih, List.lookup_cons, beq_false_of_ne (Ne.symm h)]

theorem sum_tally (totals : List (Status × Int)) (s : Status) :
    ((tally totals s).map Prod.snd).sum = (totals.map Prod.snd).sum + 1 := by
  induction totals with
  | nil => rfl
  | cons row totals ih =>
    obtain ⟨t, n⟩ := row
    rw [tally]
    split
    · simp only [List.map_cons, List.sum_cons]
      omega
    · simp only [List.map_cons, List.sum_cons, ih]
      omega

theorem tallied_keys_nodup (statuses : List Status) :
    ((statuses.foldl tally []).map Prod.fst).Nodup := by
  induction statuses using List.reverseRecOn with
  | nil => exact .nil
  | append_singleton statuses s ih =>
    rw [List.foldl_append, List.foldl_cons, List.foldl_nil, tally_eq_upsert]
    exact Table.upsert_keys_nodup ih

theorem lookup_tallied (statuses : List Status) (s : Status) : (statuses.foldl tally []).lookup s =
    if s ∈ statuses then some (statuses.count s : Int) else none := by
  induction statuses using List.reverseRecOn with
  | nil => rfl
  | append_singleton statuses t ih =>
    rw [List.foldl_append, List.foldl_cons, List.foldl_nil, tally_eq_upsert, Table.lookup_upsert,
      List.count_append]
    by_cases hs : s = t
    · subst hs
      have hc : ((statuses.foldl tally []).lookup s).getD 0 = statuses.count s := by
        rw [ih]
        split
        · rfl
        case isFalse h => rw [List.count_eq_zero.mpr h]; rfl
      rw [if_pos rfl, if_pos (by simp), hc, List.count_singleton_self]
      rfl
    · have hm : s ∈ statuses ++ [t] ↔ s ∈ statuses := by simp [hs]
      rw [if_neg hs, ih, List.count_singleton, beq_false_of_ne (Ne.symm hs)]
      simp only [hm]
      rfl

theorem mem_tallied : (s, n) ∈ statuses.foldl tally [] ↔
    s ∈ statuses ∧ n = (statuses.count s : Int) := by
  have hl := lookup_tallied statuses s
  constructor
  · intro h
    rw [Table.lookup_of_mem (tallied_keys_nodup statuses) h] at hl
    split at hl
    case isTrue hs => exact ⟨hs, Option.some.inj hl⟩
    case isFalse => cases hl
  · rintro ⟨hs, rfl⟩
    rw [if_pos hs] at hl
    exact Table.mem_of_lookup hl

theorem sum_tallied (statuses : List Status) :
    ((statuses.foldl tally []).map Prod.snd).sum = statuses.length := by
  induction statuses using List.reverseRecOn with
  | nil => rfl
  | append_singleton statuses s ih =>
    rw [List.foldl_append, List.foldl_cons, List.foldl_nil, sum_tally, ih, List.length_append]
    rfl

/-- The totals are the statuses that occur among the findings, each with its count. -/
structure Tallied (report : Report) : Prop where
  distinct : (report.totals.map Prod.fst).Nodup
  counts : ∀ s n, (s, n) ∈ report.totals ↔ s ∈ report.findings.map Finding.status ∧
    n = ((report.findings.map Finding.status).count s : Int)
  sum : (report.totals.map Prod.snd).sum = report.findings.length

end Report

theorem Run.report_tallied (inv : Inventory) (rules : List Rule) (found : List Verdict)
    (ids : IdSupply) : (Run.report inv rules found ids).1.Tallied := by
  have hs : (Run.report inv rules found ids).1.findings.map Finding.status =
      found.map Verdict.status :=
    IdSupply.map_label (f := Finding.ofVerdict inv.accountId inv.now) (fun _ _ => rfl) ids.advance
      found
  have ht : (Run.report inv rules found ids).1.totals =
      ((Run.report inv rules found ids).1.findings.map Finding.status).foldl Report.tally [] := by
    rw [hs, List.foldl_map]
    rfl
  constructor
  · rw [ht]
    exact Report.tallied_keys_nodup _
  · intro s n
    rw [ht]
    exact Report.mem_tallied
  · rw [ht, Report.sum_tallied, List.length_map]

end CloudAudit
