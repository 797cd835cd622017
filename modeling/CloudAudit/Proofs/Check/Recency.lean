import CloudAudit.Check.Instance
import CloudAudit.Proofs.Check.Firewall
import CloudAudit.Proofs.Time.Iso

namespace CloudAudit

open Time (Moment)
open Time.Iso (Rendering)

variable {enabled : Json} {last : Option Json} {specs : Fields} {m : Moment} {s s' : String}
  {i : Int} {rule : Rule} {r r' : Resource} {inv : Inventory}
  {cfg : BackupRecencyConfig}

theorem toMoment?_of_rendering (h : Rendering i s) :
    ∃ m, (Json.str s).toMoment? = some m ∧ m.offset.isSome = true ∧ m.instant = i := by
  obtain ⟨m, hread, hoffset, hinstant⟩ := h.moment?
  refine ⟨m.assumeUniversal, ?_, hoffset, hinstant⟩
  rw [Json.toMoment?, Json.text, hread]
  rfl

/-- Fields that carry whether backups are on and when the last one was made: in a group of their
own, or beside the other fields where there is no such group. -/
inductive CarriesBackups (enabled : Json) (last : Option Json) (specs : Fields) : Prop
  | nested {backups : Fields} (hgroup : specs.getD "backups" = .obj backups)
      (henabled : Fields.getD backups "enabled" = enabled)
      (hlast : Fields.get? backups "last_successful" = last)
  | flat (hgroup : ∀ backups, specs.getD "backups" ≠ .obj backups)
      (henabled : specs.getD "backups_enabled" = enabled)
      (hlast : specs.get? "backups_last_successful" = last)

theorem CarriesBackups.ofSpecs (h : CarriesBackups enabled last specs) :
    BackupState.ofSpecs specs = ⟨if enabled.isNull then none else some enabled.truthy, last⟩ := by
  rw [BackupState.ofSpecs]
  cases h with
  | nested hgroup henabled hlast =>
    rw [hgroup]
    dsimp only
    rw [henabled, hlast]
  | flat hgroup henabled hlast =>
    cases hvalue : specs.getD "backups" with
    | obj backups => exact absurd hvalue (hgroup backups)
    | _ =>
      dsimp only
      rw [henabled, hlast]

namespace Check

/-- The status of a backup that was made at an instant. -/
def recencyStatus (now last : Int) (maxAgeDays : Float) : Status :=
  if Number.floatOfQuotient (now - last) Time.second / 3600.0 / 24.0 ≤ maxAgeDays then .compliant
  else .nonCompliant

/-- The status by what is known of backups, the last of which was made at an instant. -/
def backupStatus (enabled : Json) (now last : Int) (maxAgeDays : Float) : Status :=
  if enabled.isNull then .notApplicable
  else if enabled.truthy then recencyStatus now last maxAgeDays
  else .nonCompliant

theorem judgeBackup_status (now last : Moment) (maxAgeDays : Float) :
    (judgeBackup now last maxAgeDays).status =
      recencyStatus now.instant last.instant maxAgeDays := by
  rw [judgeBackup, recencyStatus]
  dsimp only
  split <;> rfl

theorem backupRecency_rejected {fault : Rejection}
    (hcfg : rule.configAs BackupRecencyConfig.schema = .error fault) :
    backupRecency rule r inv = .error (.config fault) := by
  rw [backupRecency, hcfg]
  rfl

/-- Where the time of the last backup can be read, the check comes to a verdict, and the instant
decides it. -/
theorem backupRecency_gives (hnow : inv.now.offset.isSome = true)
    (hcfg : rule.configAs BackupRecencyConfig.schema = .ok cfg)
    (hspecs : CarriesBackups enabled (some (.str s)) r.specs) (hs : s ≠ "")
    (hread : (Json.str s).toMoment? = some m) (hoffset : m.offset.isSome = true) :
    Gives (backupRecency rule r inv)
      (backupStatus enabled inv.now.instant m.instant cfg.maxAgeDays) := by
  have hlast : (!(Json.str s).truthy) = false := by
    rw [Json.truthy, bne_iff_ne.mpr hs]
    rfl
  have hcomparable : inv.now.comparable m = true := by
    rw [Moment.comparable, hnow, hoffset]
    rfl
  have hbody := backupRecency.eq_1 rule r inv
  rw [hcfg, hspecs.ofSpecs] at hbody
  rw [hbody, backupStatus]
  cases enabled.isNull with
  | true => exact ⟨_, rfl, rfl⟩
  | false =>
    cases enabled.truthy with
    | false => exact ⟨_, rfl, rfl⟩
    | true =>
      simp only [hlast, hread, hcomparable]
      exact ⟨_, rfl, judgeBackup_status inv.now m cfg.maxAgeDays⟩

theorem backupRecency_rendered (hnow : inv.now.offset.isSome = true)
    (hcfg : rule.configAs BackupRecencyConfig.schema = .ok cfg)
    (hspecs : CarriesBackups enabled (some (.str s)) r.specs) (h : Rendering i s) :
    Gives (backupRecency rule r inv)
      (backupStatus enabled inv.now.instant i cfg.maxAgeDays) := by
  obtain ⟨m, hread, hoffset, rfl⟩ := toMoment?_of_rendering h
  exact backupRecency_gives hnow hcfg hspecs h.ne_empty hread hoffset

/-- For a run whose time has an offset, the verdict on backups depends on the instant of the last
one, not on the text that it is written as nor on the place of the fields. -/
theorem backupRecency_instant (hnow : inv.now.offset.isSome = true) :
    (∀ i s, Rendering i s →
      ∃ m, (Json.str s).toMoment? = some m ∧ m.offset.isSome = true ∧ m.instant = i) ∧
    (∀ enabled last r r', CarriesBackups enabled last r.specs →
      CarriesBackups enabled last r'.specs →
      backupRecency rule r inv = backupRecency rule r' inv) ∧
    ∀ i s s' enabled r r', Rendering i s → Rendering i s' →
      CarriesBackups enabled (some (.str s)) r.specs →
      CarriesBackups enabled (some (.str s')) r'.specs →
      (backupRecency rule r inv).map (·.status) = (backupRecency rule r' inv).map (·.status) ∧
      ∀ cfg, rule.configAs BackupRecencyConfig.schema = .ok cfg →
        Gives (backupRecency rule r inv)
          (backupStatus enabled inv.now.instant i cfg.maxAgeDays) := by
  refine ⟨fun i s => toMoment?_of_rendering, ?_, ?_⟩
  · intro enabled last r r' hspecs hspecs'
    rw [backupRecency, backupRecency, hspecs.ofSpecs, hspecs'.ofSpecs]
  · intro i s s' enabled r r' h h' hspecs hspecs'
    refine ⟨?_, fun cfg hcfg => backupRecency_rendered hnow hcfg hspecs h⟩
    cases hcfg : rule.configAs BackupRecencyConfig.schema with
    | error fault => rw [backupRecency_rejected hcfg, backupRecency_rejected hcfg]
    | ok cfg =>
      obtain ⟨o, ho, hstatus⟩ := backupRecency_rendered hnow hcfg hspecs h
      obtain ⟨o', ho', hstatus'⟩ := backupRecency_rendered hnow hcfg hspecs' h'
      rw [ho, ho']
      exact congrArg Except.ok (hstatus.trans hstatus'.symm)

/-- A backup late on a leap day by a clock behind universal time. -/
theorem backupRecency_instant_leap :
    let rule : Rule := ⟨"backups", "Backups", "", ["linode"], "linode_backup_recency",
      [("max_age_days", .int 2)], .warning, true, none, false⟩
    let r : Resource := { id := "vm", type := "linode", specs := [("backups", .obj
      [("enabled", .bool true), ("last_successful", .str "2024-02-29T23:30:00.000000-05:30")])] }
    let r' : Resource := { id := "vm", type := "linode", specs := [("backups_enabled", .bool true),
      ("backups_last_successful", .str "2024-03-01T05:00:00Z")] }
    let inv : Inventory := ⟨"a", [], ⟨2024, 3, 2, 9, 0, 0, 0, some 0⟩⟩
    inv.now.offset.isSome = true ∧
      Rendering 63844866000000000 "2024-02-29T23:30:00.000000-05:30" ∧
      Rendering 63844866000000000 "2024-03-01T05:00:00Z" ∧
      (backupRecency rule r inv).map (·.status) = (backupRecency rule r' inv).map (·.status) := by
  intro rule r r' inv
  have hnow : inv.now.offset.isSome = true := rfl
  have htext : "2024-02-29T23:30:00.000000-05:30" = Time.Iso.written
      (Moment.ofLocalMicros (63844866000000000 + -19800000000) (some (-19800000000)))
      ("." ++ Number.padded 6 0) (Moment.offsetText (-19800000000)) := by
    decide +kernel
  have htext' : "2024-03-01T05:00:00Z" = Time.Iso.written
      (Moment.ofLocalMicros (63844866000000000 + 0) (some 0)) "" "Z" := by
    decide +kernel
  have h : Rendering 63844866000000000 "2024-02-29T23:30:00.000000-05:30" := by
    rw [htext]
    exact .clock ⟨by decide, by decide⟩ (by decide +kernel) (.digits 0) (.offset _)
  have h' : Rendering 63844866000000000 "2024-03-01T05:00:00Z" := by
    rw [htext']
    exact .clock ⟨by decide, by decide⟩ (by decide +kernel) .none .zulu
  have hspecs : CarriesBackups (.bool true) (some (.str "2024-02-29T23:30:00.000000-05:30"))
      r.specs := .nested rfl rfl rfl
  have hspecs' : CarriesBackups (.bool true) (some (.str "2024-03-01T05:00:00Z")) r'.specs :=
    .flat nofun rfl rfl
  exact ⟨hnow, h, h',
    ((backupRecency_instant hnow).2.2 _ _ _ _ r r' h h' hspecs hspecs').1⟩

end Check

end CloudAudit
