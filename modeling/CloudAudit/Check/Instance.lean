import CloudAudit.Check.Outcome
import CloudAudit.Time.Iso

namespace CloudAudit

open Time (Moment)

/-- Reads a moment from a value as messages show it. Without an offset it is universal time. -/
def Json.toMoment? (v : Json) : Option Moment :=
  (Time.Iso.moment? (Time.Iso.spellOutZulu (Text.trimChars v.text.toList))).map
    Moment.assumeUniversal

/-- What the inventory knows about the backups of an instance. -/
structure BackupState where
  /-- Whether backups are on, if that is known. -/
  enabled : Option Bool
  /-- The time of the last backup, if the inventory has that field at all. -/
  lastSuccessful : Option Json

namespace BackupState

/-- Reads the state from a group of fields, or from two fields beside the others. -/
def ofSpecs (specs : Fields) : BackupState :=
  let (enabled, last) := match specs.getD "backups" with
    | .obj backups => (Fields.getD backups "enabled", Fields.get? backups "last_successful")
    | _ => (specs.getD "backups_enabled", specs.get? "backups_last_successful")
  ⟨if enabled.isNull then none else some enabled.truthy, last⟩

end BackupState

namespace Check

open Outcome

def backupsEnabled : ResourceCheck := fun _ r _ =>
  match (BackupState.ofSpecs r.specs).enabled with
  | none =>
    .ok (notApplicable "Backup status not available. Re-sync to fetch the latest instance data.")
  | some true => .ok (compliant "Backups are enabled for this Linode.")
  | some false => .ok (nonCompliant "Backups are not enabled for this Linode.")

/-- A number of hours or days without fraction. -/
private def wholeText (x : Float) : String := toString ((Number.round? x).getD 0)

def judgeBackup (now last : Moment) (maxAgeDays : Float) : Outcome :=
  let ageSeconds := Number.floatOfQuotient (now.instant - last.instant) Time.second
  let ageHours := ageSeconds / 3600.0
  let ageDays := ageHours / 24.0
  let window := Number.general maxAgeDays ++ "-day window."
  if ageDays ≤ maxAgeDays then
    let age := if ageHours < 24.0 then wholeText ageHours ++ "h ago"
      else wholeText ageDays ++ " day(s) ago"
    compliant ("Last successful backup was " ++ age ++ " (" ++ last.dayText ++ "), within the " ++
      window)
  else
    nonCompliant ("Last successful backup was " ++ wholeText ageDays ++ " day(s) ago (" ++
      last.dayText ++ "), which exceeds the required " ++ window)

def backupRecency : ResourceCheck := fun rule r inv => do
  let cfg ← rule.configAs BackupRecencyConfig.schema
  let state := BackupState.ofSpecs r.specs
  match state.enabled with
  | none =>
    return notApplicable "Backup status not available. Re-sync to fetch the latest instance data."
  | some false =>
    return nonCompliant
      "Backups are not enabled for this Linode, so no recent recovery point exists."
  | some true =>
    match state.lastSuccessful with
    | none =>
      return notApplicable
        "Last backup timestamp not available. Re-sync to fetch the latest instance data."
    | some last =>
      if !last.truthy then
        return nonCompliant "Backups are enabled but no successful backup has been recorded yet."
      match last.toMoment? with
      | none =>
        return notApplicable ("Last backup timestamp \"" ++ last.text ++ "\" could not be parsed.")
      | some lastAt =>
        if inv.now.comparable lastAt then return judgeBackup inv.now lastAt cfg.maxAgeDays
        else throw (.data .mixedOffsets)

def diskEncryption : ResourceCheck := fun _ r _ =>
  let value := r.spec "disk_encryption"
  if value.isNull then
    .ok (notApplicable
      "Disk encryption status not available. Re-sync to fetch the latest instance data.")
  else if value.isText "enabled" then .ok (compliant "Disk encryption is enabled for this Linode.")
  else
    .ok (nonCompliant ("Disk encryption is \"" ++ value.text ++
      "\". It must be set to \"enabled\"."))

def lockConfigured : ResourceCheck := fun rule r _ => do
  if !r.hasSpec "locks" then
    return notApplicable "Lock data not available. Re-sync to fetch the latest instance data."
  let cfg ← rule.configAs LockConfig.schema
  let locks := (← (r.spec "locks").itemsOrNone).map Json.text
  let required := cfg.requiredLockTypes
  if locks.isEmpty then
    if required.isEmpty then
      return nonCompliant "No deletion lock is configured for this Linode."
    return nonCompliant ("No lock configured. Required: " ++ commaList required ++ ".")
  let missing := required.filter (!locks.contains ·)
  if !missing.isEmpty then
    return nonCompliant ("Lock(s) present (" ++ commaList locks ++
      ") but missing required type(s): " ++ commaList missing ++ ".")
  if required.isEmpty then
    return compliant ("Deletion lock is configured: " ++ commaList locks ++ ".")
  return compliant ("Required lock(s) configured: " ++ commaList locks ++ ".")

def notOffline : ResourceCheck := fun _ r _ =>
  let status := ((r.spec "status").orElse (.str r.status)).text
  if status = "" then
    .ok (notApplicable "Instance status not available. Re-sync to fetch the latest data.")
  else if status = "offline" then .ok (nonCompliant "Linode is offline.")
  else .ok (compliant ("Linode status is \"" ++ status ++ "\"."))

end Check

end CloudAudit
