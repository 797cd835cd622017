import CloudAudit.Proofs.Service.Acknowledgement

namespace CloudAudit

open Time (Moment)

variable {σ : Type}

namespace Service

variable {s : Service σ} {id : String} {f : Finding} {before after : List Finding}

theorem evaluate_not_acknowledges {p : Pipeline σ} {b a key : String} {now : Moment} :
    ¬ Acknowledges a key s (.evaluate p b now) := by
  rintro ⟨f, hf, -⟩
  cases hf

theorem perform_unacknowledge (h : s.store.FindingsFiled) (hf : s.store.finding id = .ok f) :
    ∃ before after, s.store.findingsOf f.accountId = before ++ f :: after ∧
      (s.perform (.unacknowledge id)).store.findingsOf f.accountId =
        before ++ f.unacknowledge :: after := by
  obtain ⟨before, after, hs, hu⟩ := Store.updateFinding_withAcknowledgement h hf none
  have hstore : (s.perform (.unacknowledge id)).store =
      s.store.replaceFindings f.accountId (before ++ f.unacknowledge :: after) := by
    rw [perform, Store.unacknowledge, hf]
    change (s.adopt (do return (_, ← s.store.updateFinding _))).store = _
    rw [Finding.unacknowledge, hu]
    rfl
  refine ⟨before, after, hs, ?_⟩
  rw [hstore, Store.findingsOf_replaceFindings, if_pos rfl]

theorem lapsed_unacknowledge (h : s.store.FindingsFiled)
    (hafter : (s.perform (.unacknowledge id)).store.findingsOf f.accountId =
      before ++ f.unacknowledge :: after)
    (hothers : ∀ g ∈ before ++ after, g.ledgerKey = f.ledgerKey → g.acknowledged = false) :
    Lapsed f.accountId f.ledgerKey (s.perform (.unacknowledge id)) := by
  refine ⟨perform_findingsFiled h (.unacknowledge id), ?_⟩
  intro g hg hkey
  rw [hafter, List.perm_middle.mem_iff] at hg
  obtain rfl | hg := List.mem_cons.mp hg
  · rfl
  · exact hothers g hg hkey

/-- A finding whose acknowledgement was taken back is not acknowledged again, whatever is done, if
nobody acknowledges a finding under its key and no other finding of its account is acknowledged
under the key. If another one is, the next run acknowledges all findings under the key. -/
theorem unacknowledge_sticks (hs : s.Reachable) (hf : s.store.finding id = .ok f) :
    ∃ before after, s.store.findingsOf f.accountId = before ++ f :: after ∧
      ((∀ g ∈ before ++ after, g.ledgerKey = f.ledgerKey → g.acknowledged = false) → ∀ acts,
        Along (fun s act => ¬ Acknowledges f.accountId f.ledgerKey s act)
          (s.perform (.unacknowledge id)) acts →
        ∀ g ∈ ((s.perform (.unacknowledge id)).performAll acts).store.findingsOf f.accountId,
          g.ruleId = f.ruleId → g.resourceId = f.resourceId → g.acknowledged = false) ∧
      ((∃ g ∈ before ++ after, g.ledgerKey = f.ledgerKey ∧ g.acknowledged = true) →
        ∀ p now summary,
          ((s.perform (.unacknowledge id)).evaluate p f.accountId now).1 = .ok summary →
          ∀ g ∈ ((s.perform (.unacknowledge id)).evaluate p f.accountId now).2.store.findingsOf
              f.accountId, g.ledgerKey = f.ledgerKey → g.acknowledged = true) := by
  have hfiled := hs.findingsFiled
  obtain ⟨before, after, hbefore, hafter⟩ := perform_unacknowledge hfiled hf
  refine ⟨before, after, hbefore, ?_, ?_⟩
  · intro hothers acts hacts g hg hrule hresource
    have hkey : g.ledgerKey = f.ledgerKey := by
      rw [Finding.ledgerKey, Finding.ledgerKey, hrule, hresource]
    -- From here on nothing under the key is acknowledged, and a run carries over what it finds.
    have hlapsed := lapsed_unacknowledge hfiled hafter hothers
    have hend := performAll_induction (fun _ _ hact h => h.perform hact) hlapsed hacts
    exact hend.blank g hg hkey
  · rintro ⟨h, hh, hkey, hack⟩ p now summary hrun g hg hgkey
    have hmem : h ∈ (s.perform (.unacknowledge id)).store.findingsOf f.accountId := by
      rw [hafter, List.perm_middle.mem_iff]
      exact List.mem_cons_of_mem _ hh
    have hcarry := evaluate_carry hrun
    exact (hcarry.acknowledged g hg).mpr ⟨h, hmem, hack, hkey.trans hgkey.symm⟩

/-- Of the findings on two resources the first is acknowledged and then not any more; two runs
later it still is not, and the other one has been acknowledged in between. -/
theorem unacknowledge_sticks_alone :
    let rule : Rule := ⟨"tags", "Tags", "", ["linode"], "has_tags", [], .warning, true, none, false⟩
    let p : Pipeline Unit := {
      inventory := InventoryTable.source
        ⟨[("a", [{ id := "x", type := "linode" }, { id := "y", type := "linode" }])], [], []⟩
      factory := fun _ outside => (.ok none, outside) }
    let now : Moment := ⟨2026, 3, 1, 9, 0, 0, 0, some 0⟩
    let first : Service Unit := { store := .ofCatalogue [rule] [], outside := () }
    let s := first.performAll [.evaluate p "a" now,
      .acknowledge "00000000-0000-0000-0000-000000000001" none none now,
      .acknowledge "00000000-0000-0000-0000-000000000002" none none now, .evaluate p "a" now]
    let t := (s.perform (.unacknowledge "00000000-0000-0000-0000-000000000007")).performAll
      [.evaluate p "a" now, .evaluate p "a" now]
    s.Reachable ∧
      (s.store.finding "00000000-0000-0000-0000-000000000007").map (fun f =>
        (f.accountId, f.ruleId, f.resourceId)) = .ok ("a", "tags", some "x") ∧
      ((t.store.findingsOf "a").map fun f => (f.resourceId, f.acknowledged)) =
        [(some "x", false), (some "y", true)] ∧
      ∀ g ∈ t.store.findingsOf "a", g.ruleId = "tags" → g.resourceId = some "x" →
        g.acknowledged = false := by
  intro rule p now first s t
  have hs : s.Reachable := (Reachable.start rfl).performAll _
  have hid : (s.store.finding "00000000-0000-0000-0000-000000000007").map (fun f =>
      (f.accountId, f.ruleId, f.resourceId)) = .ok ("a", "tags", some "x") := by decide +kernel
  refine ⟨hs, hid, by decide +kernel, ?_⟩
  obtain ⟨f, hf, hpair⟩ := Result.map_eq_ok.mp hid
  obtain ⟨haccount, hpair⟩ := Prod.mk.inj hpair
  obtain ⟨hrule, hresource⟩ := Prod.mk.inj hpair
  obtain ⟨before, after, hlist, hsticks, -⟩ := unacknowledge_sticks hs hf
  rw [haccount] at hlist hsticks
  have hkeys : ((s.store.findingsOf "a").map Finding.ledgerKey).Nodup := by decide +kernel
  rw [hlist, (List.perm_middle.map _).nodup_iff, List.map_cons, List.nodup_cons] at hkeys
  have hothers : ∀ g ∈ before ++ after, g.ledgerKey = f.ledgerKey → g.acknowledged = false := by
    intro g hg hkey
    exact absurd (hkey ▸ List.mem_map_of_mem hg) hkeys.1
  have hruns : Along (fun s act => ¬ Acknowledges "a" f.ledgerKey s act)
      (s.perform (.unacknowledge "00000000-0000-0000-0000-000000000007"))
      [.evaluate p "a" now, .evaluate p "a" now] :=
    ⟨evaluate_not_acknowledges, evaluate_not_acknowledges, trivial⟩
  rw [← hrule, ← hresource]
  exact hsticks hothers _ hruns

/-- The two findings of one rule on the account are acknowledged. Once the first is not any more,
the next run acknowledges it again, as it does the second. -/
theorem unacknowledge_sticks_shared :
    let rule : Rule := ⟨"tfa", "TFA", "", [], "tfa_users", [], .warning, true, none, false⟩
    let user (name : String) : Json := .obj [("username", .str name), ("tfa_enabled", .bool false)]
    let provider : Provider Unit := ⟨fun _ n => (.answer (.arr [user "ann", user "bob"]), n)⟩
    let p : Pipeline Unit := {
      inventory := InventoryTable.source ⟨[("a", [])], [("a", .str "token")], []⟩
      factory := fun _ outside => (.ok (some provider), outside) }
    let now : Moment := ⟨2026, 3, 1, 9, 0, 0, 0, some 0⟩
    let first : Service Unit := { store := .ofCatalogue [rule] [], outside := () }
    let s := first.performAll [.evaluate p "a" now,
      .acknowledge "00000000-0000-0000-0000-000000000001" none (some "dana") now,
      .acknowledge "00000000-0000-0000-0000-000000000002" none (some "dana") now]
    let t := s.perform (.unacknowledge "00000000-0000-0000-0000-000000000001")
    s.Reachable ∧ (∃ summary, (t.evaluate p "a" now).1 = .ok summary) ∧
      (∃ f, s.store.finding "00000000-0000-0000-0000-000000000001" = .ok f) ∧
      ¬ ∀ f, s.store.finding "00000000-0000-0000-0000-000000000001" = .ok f →
        ∀ g ∈ (t.evaluate p "a" now).2.store.findingsOf "a", g.ruleId = f.ruleId →
          g.resourceId = f.resourceId → g.acknowledged = false := by
  intro rule user provider p now first s t
  have hs : s.Reachable := (Reachable.start rfl).performAll _
  have hrun : ∃ summary, (t.evaluate p "a" now).1 = .ok summary :=
    Result.of_isOk (by decide +kernel)
  have hid : (s.store.finding "00000000-0000-0000-0000-000000000001").map (fun f =>
      (f.ruleId, f.resourceId)) = .ok ("tfa", none) := by decide +kernel
  obtain ⟨f, hf, hpair⟩ := Result.map_eq_ok.mp hid
  obtain ⟨hrule, hresource⟩ := Prod.mk.inj hpair
  refine ⟨hs, hrun, ⟨f, hf⟩, ?_⟩
  intro hall
  have hback : ∃ g ∈ (t.evaluate p "a" now).2.store.findingsOf "a", g.ruleId = "tfa" ∧
      g.resourceId = none ∧ g.acknowledged = true := by decide +kernel
  obtain ⟨g, hg, hgrule, hgresource, hack⟩ := hback
  have hfalse := hall f hf g hg (hgrule.trans hrule.symm) (hgresource.trans hresource.symm)
  exact Bool.false_ne_true (hfalse.symm.trans hack)

end Service

end CloudAudit
