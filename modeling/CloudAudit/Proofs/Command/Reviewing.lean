import CloudAudit.Command.Reviewing
import CloudAudit.Proofs.Service.Evaluation
import CloudAudit.Proofs.Source.Inputs
import CloudAudit.Proofs.Store.Profiles
import CloudAudit.Proofs.Store.Registration

namespace CloudAudit

open Result AccountFiles

variable {a id : String} {r : Rule} {s : Store}

/-! ### The rules that may be registered -/

theorem Builtin.accountId_eq_none (h : r ∈ Builtin.rules) : r.accountId = none := by
  have hall : ∀ r ∈ Builtin.rules, r.accountId = none := by decide +kernel
  exact hall r h

theorem Service.builtin_rules {σ : Type} (ids : IdSupply) (outside : σ) :
    (Service.builtin ids outside).store.rules = Builtin.rules :=
  Table.ofList_of_nodup Builtin.ruleIds_nodup

namespace Store

/-- A store that holds rules of one account beside built-in ones only. -/
def OwnBeside (s : Store) (a : String) : Prop :=
  ∀ r ∈ s.rules, r.accountId = some a ∨ r ∈ Builtin.rules

theorem OwnBeside.not_barred (h : s.OwnBeside a) (hr : IsOwn a r) (f : StoreFault) :
    ¬ s.Barred a r f := by
  intro hb
  cases hb with
  | foreign ho => exact ho hr.1
  | taken _ hk ho =>
    obtain ⟨hmem, hid⟩ := rule_ok hk
    refine hr.2 (hid ▸ List.mem_map_of_mem ?_)
    exact (h _ hmem).resolve_left ho

theorem barred_of_not_own (hs : s.rules = Builtin.rules) (h : ¬ IsOwn a r) :
    ∃ f, s.Barred a r f := by
  by_cases ho : r.accountId = some a
  · have hid : r.id ∈ Builtin.rules.map Rule.id := by
      by_contra hno
      exact h ⟨ho, hno⟩
    obtain ⟨known, hmem, hk⟩ := List.mem_map.mp hid
    have hrule : s.rule r.id = .ok known := by
      rw [rule_eq_ok, hs, ← hk]
      exact Table.find?_of_mem Builtin.ruleIds_nodup hmem
    refine ⟨_, .taken ho hrule ?_⟩
    rw [Builtin.accountId_eq_none hmem]
    exact nofun
  · exact ⟨_, .foreign ho⟩

/-- The rules of an account are registered beside the built-in ones where all of them are its own,
and none of them is a built-in one. -/
theorem registerRules_builtin (hs : s.rules = Builtin.rules) (rules : List Rule) :
    (∃ s', s.registerRules a rules = (.ok (), s')) ↔ ∀ r ∈ rules, IsOwn a r := by
  rw [registerRules_ok_iff]
  constructor
  · intro h r hr
    by_contra hno
    obtain ⟨f, hf⟩ := barred_of_not_own hs hno
    exact h r hr f hf
  · intro h r hr
    exact OwnBeside.not_barred (fun r hr => .inr (hs ▸ hr)) (h r hr)

theorem OwnBeside.register {s' : Store} {rules : List Rule} (h : s.OwnBeside a)
    (hr : s.registerRules a rules = (.ok (), s')) (hown : ∀ r ∈ rules, IsOwn a r) :
    s'.OwnBeside a := by
  rw [registerRules_ok hr]
  intro r hr
  obtain hr | hr := Table.mem_insertAll hr
  · exact h r hr
  · exact .inl (hown r hr).1

end Store

/-! ### Before the run -/

namespace Reviewing

variable {b : Bounds} {root : Path} {files : Path → AccountFiles} {profile : String}
  {now : Time.Moment} {s s' : Service Wire} {store store' : Store} {f : ReviewFault}

theorem applyProfile_ok (h : applyProfile store a profile now = .ok store') : store' = store ∨
    ∃ p : Profile, store' = store.replaceOverrides a (p.apply store.rules a now).overrides := by
  rw [applyProfile] at h
  split at h
  case isTrue =>
    cases h
    exact .inl rfl
  case isFalse =>
    split at h
    case h_1 => cases h
    case h_2 p hp =>
      obtain ⟨applied, happlied, rfl⟩ := map_eq_ok.mp h
      obtain ⟨p, -, -, he⟩ := Store.applyProfile_ok (mapError_eq_ok.mp happlied)
      exact .inr ⟨p, he⟩

theorem applyProfile_rules (h : applyProfile store a profile now = .ok store') :
    store'.rules = store.rules := by
  obtain rfl | ⟨p, rfl⟩ := applyProfile_ok h
  · rfl
  · rfl

theorem applyProfile_error (h : applyProfile store a profile now = .error f) :
    f = .unknownProfile profile ∨ ∃ cause, f = .input cause := by
  rw [applyProfile] at h
  split at h
  case isTrue => cases h
  case isFalse =>
    split at h
    case h_1 =>
      cases h
      exact .inl rfl
    case h_2 p hp =>
      obtain h | ⟨applied, -, h⟩ := bind_eq_error.mp h
      · obtain ⟨g, -, rfl⟩ := mapError_eq_error.mp h
        exact .inr ⟨_, rfl⟩
      · cases h

theorem prepare_ok {inventory : InventorySource}
    (h : prepare b inventory a profile now s = .ok s') : ∃ inputs ids store store',
      (inventory a).run s.ids = (.ok inputs, ids) ∧
      s.store.fileRules b.copying a inputs.extraRules = (.ok (), store) ∧
      applyProfile store a profile now = .ok store' ∧ s' = { s with ids, store := store' } := by
  rw [prepare] at h
  cases hi : (inventory a).run s.ids with
  | mk inputs ids =>
    rw [hi] at h
    cases inputs with
    | error f => cases h
    | ok inputs =>
      dsimp only at h
      cases hfile : s.store.fileRules b.copying a inputs.extraRules with
      | mk result store =>
        rw [hfile] at h
        cases result with
        | error f => cases h
        | ok u =>
          obtain ⟨store', hstore, h⟩ := bind_eq_ok.mp h
          cases h
          exact ⟨inputs, ids, store, store', rfl, hfile, hstore, rfl⟩

/-- Files that cannot be loaded end the command with the fault of loading, and rules that are barred
with that of the store. -/
theorem prepare_unloadable (profile : String) (now : Time.Moment)
    (hs : s.store.rules = Builtin.rules) (h : ¬ (files (root.child a)).Loadable b a) :
    ∃ cause, prepare b (.ofFiles b root files) a profile now s = .error (.input cause) ∧
      ((∃ f, cause = .load f) ∨ ∃ f, cause = .store f) := by
  rw [prepare]
  cases hi : ((InventorySource.ofFiles b root files) a).run s.ids with
  | mk inputs ids =>
    cases inputs with
    | error f => exact ⟨.load f, rfl, .inl ⟨f, rfl⟩⟩
    | ok inputs =>
      dsimp only
      cases hfile : s.store.fileRules b.copying a inputs.extraRules with
      | mk result store =>
        cases result with
        | error f => exact ⟨.store f, rfl, .inr ⟨f, rfl⟩⟩
        | ok u =>
          obtain ⟨hreg, hcopy, -⟩ := Store.fileRules_eq_ok.mp hfile
          have hown := (Store.registerRules_builtin hs inputs.extraRules).mp ⟨store, hreg⟩
          have hcopied : ∀ r ∈ inputs.extraRules, r.canBeCopied b.copying = true :=
            fun r hr => (Bool.and_eq_true_iff.mp (hcopy r hr)).1
          refine absurd ((loadable_iff _ s.ids).mpr ⟨inputs, ids, hi, fun r hr => ?_⟩) h
          exact ⟨hown r hr, hcopied r hr⟩

theorem prepare_error (h : prepare b (.ofFiles b root files) a profile now s = .error f) :
    f = .unknownProfile profile ∨ ∃ cause, f = .input cause := by
  rw [prepare] at h
  cases hi : ((InventorySource.ofFiles b root files) a).run s.ids with
  | mk inputs ids =>
    rw [hi] at h
    cases inputs with
    | error g =>
      cases h
      exact .inr ⟨_, rfl⟩
    | ok inputs =>
      dsimp only at h
      cases hfile : s.store.fileRules b.copying a inputs.extraRules with
      | mk result store =>
        rw [hfile] at h
        cases result with
        | error g =>
          cases h
          exact .inr ⟨_, rfl⟩
        | ok u =>
          obtain h | ⟨store', -, h⟩ := bind_eq_error.mp h
          · exact applyProfile_error h
          · cases h

/-! ### The run -/

variable {p : Pipeline Wire} {env : Environment} {web : WebService} {ids : IdSupply}
  {o : ReviewOptions} {current : Path} {folderExists : Path → Bool} {cause : InputFault}

theorem ofEnvironment_ok {inventory : InventorySource}
    (hp : Pipeline.ofEnvironment b env inventory web = .ok p) :
    p.inventory = inventory ∧ p.bounds = b ∧ p.factory = clientFactory b env web := by
  obtain ⟨settings, -, rfl⟩ := map_eq_ok.mp hp
  exact ⟨rfl, rfl, rfl⟩

/-- A run after the preparation finds the same files and may register their rules again, so that
only the client of the web service can be missing. -/
theorem gather_prepared {s₁ : Service Wire} (hload : (files (root.child a)).Loadable b a)
    (hs : s.store.OwnBeside a) (hcopied : ∀ r ∈ s.store.rules, r.canBeCopied b.copying = true)
    (hp : Pipeline.ofEnvironment b env (.ofFiles b root files) web = .ok p)
    (h : Service.gather p a s = (.error cause, s₁)) : ∃ g, cause = .settings g := by
  obtain ⟨hinventory, rfl, hfactory⟩ := ofEnvironment_ok hp
  obtain ⟨inputs, ids, hi, hown⟩ := (loadable_iff (root.child a) s.ids).mp hload
  have hi : (p.inventory a).run s.ids = (.ok inputs, ids) := hinventory ▸ hi
  have hfree : ∀ r ∈ inputs.extraRules, ∀ f, ¬ s.store.Barred a r f :=
    fun r hr => hs.not_barred (hown r hr).1
  obtain ⟨store, hreg⟩ := (s.store.registerRules_ok_iff a inputs.extraRules).mpr hfree
  have hfile := Store.fileRules_of_registerRules hreg hcopied fun r hr => (hown r hr).2
  rw [Service.gather, hi] at h
  dsimp only at h
  rw [hfile] at h
  dsimp only at h
  rw [Service.providerFor] at h
  split at h
  case isFalse => cases h
  case isTrue =>
    rw [hfactory, clientFactory] at h
    cases hc : ClientConfig.ofEnvironment env inputs.token with
    | ok config =>
      rw [hc] at h
      cases h
    | error g =>
      rw [hc] at h
      cases h
      exact ⟨g, rfl⟩

theorem gather_of_told {a' : String} (hheld : s.isHeld a = false)
    (h : (s.evaluate p a now).1 = .error (.inputs a' cause)) :
    a' = a ∧ ∃ s₁, Service.gather p a s = (.error cause, s₁) := by
  rw [Service.evaluate_of_not_held p now hheld] at h
  cases hg : Service.gather p a s with
  | mk result s₁ =>
    cases result with
    | error f =>
      rw [Service.evaluateHeld_of_inputFault hg] at h
      dsimp only at h
      split at h
      · cases h
        exact ⟨rfl, s₁, rfl⟩
      · cases h
    | ok run =>
      cases hr : Run.run p.limits run.provider ⟨a, run.resources, now⟩ run.rules none s₁.ids
          s₁.outside with
      | mk result outside =>
        cases result with
        | error f =>
          rw [Service.evaluateHeld_of_checkFault hg hr] at h
          cases h
        | ok r =>
          rw [Service.evaluateHeld_of_report hg hr] at h
          generalize Service.record _ _ = done at h
          dsimp only at h
          obtain hk | hk := Service.keep_result p { r.1 with findings := done.1 } done.2.2
          · rw [hk] at h
            cases h
          · rw [hk] at h
            cases h

/-- The prepared service is not under way, and knows rules of the account beside the built-in ones
only, all of which can be copied. -/
theorem prepared (h : prepare b (.ofFiles b root files) a profile now (.builtin ids {}) = .ok s) :
    s.isHeld a = false ∧ s.store.OwnBeside a ∧
      ∀ r ∈ s.store.rules, r.canBeCopied b.copying = true := by
  obtain ⟨inputs, ids', store, store', hi, hfile, hprofile, rfl⟩ := prepare_ok h
  obtain ⟨hreg, -, hcopied⟩ := Store.fileRules_eq_ok.mp hfile
  have hbuiltin := Service.builtin_rules ids ({} : Wire)
  have hown := (Store.registerRules_builtin hbuiltin inputs.extraRules).mp ⟨store, hreg⟩
  have hstore : store.OwnBeside a :=
    Store.OwnBeside.register (fun r hr => .inr (hbuiltin ▸ hr)) hreg hown
  have hrules := applyProfile_rules hprofile
  exact ⟨rfl, fun r hr => hstore r (hrules ▸ hr), fun r hr => hcopied r (hrules ▸ hr)⟩

theorem evaluate_told {g : RunFault} (hload : (files (root.child a)).Loadable b a)
    (hs : prepare b (.ofFiles b root files) a profile now (.builtin ids {}) = .ok s)
    (hp : Pipeline.ofEnvironment b env (.ofFiles b root files) web = .ok p)
    (h : (s.evaluate p a now).1 = .error g) (ht : (ReviewFault.run g).isTold = true) :
    ∃ fault, g = .inputs a (.settings fault) := by
  obtain ⟨hheld, hown, hcopied⟩ := prepared hs
  cases g with
  | inputs a' cause =>
    obtain ⟨rfl, s₁, hg⟩ := gather_of_told hheld h
    obtain ⟨fault, rfl⟩ := gather_prepared hload hown hcopied hp hg
    exact ⟨fault, rfl⟩
  | _ => cases ht

theorem review_told (h : review b env web (.ofFiles b root files) a profile now ids = .error f)
    (ht : f.isTold = true) :
    f = .unknownProfile profile ∨ ∃ s p g,
      prepare b (.ofFiles b root files) a profile now (.builtin ids {}) = .ok s ∧
      Pipeline.ofEnvironment b env (.ofFiles b root files) web = .ok p ∧
      (s.evaluate p a now).1 = .error g ∧ f = .run g := by
  obtain h | ⟨s, hs, h⟩ := bind_eq_error.mp h
  · obtain rfl | ⟨cause, rfl⟩ := prepare_error h
    · exact .inl rfl
    · cases ht
  obtain h | ⟨p, hp, h⟩ := bind_eq_error.mp h
  · obtain ⟨g, -, rfl⟩ := mapError_eq_error.mp h
    cases ht
  cases he : s.evaluate p a now with
  | mk result s₁ =>
    rw [he] at h
    cases result with
    | error g =>
      cases h
      exact .inr ⟨s, p, g, hs, mapError_eq_ok.mp hp, congrArg Prod.fst he, rfl⟩
    | ok summary =>
      obtain h | ⟨scores, -, h⟩ := bind_eq_error.mp h
      · obtain ⟨g, -, rfl⟩ := mapError_eq_error.mp h
        cases ht
      · split at h
        · cases h
          cases ht
        · cases h

/-- Where an account cannot be loaded from its files, or they hold a rule that it may not bring
along, the command ends with the cause as it is: no review is written, and nothing is told. What it
does tell is that a profile is unknown or that the settings of the client are missing. -/
theorem run_unloadable (b : Bounds) (o : ReviewOptions) (current : Path)
    (folderExists : Path → Bool) (env : Environment) (web : WebService)
    (files : Path → AccountFiles) (now : Time.Moment) (ids : IdSupply) :
    let account := files ((o.fixturesPath current).child o.accountId)
    let out := run b o current folderExists env web files now ids
    (¬ account.Loadable b o.accountId → ∃ cause, out = .error (.input cause) ∧
      (ReviewFault.input cause).isTold = false ∧
      ((∃ f, cause = .load f) ∨ ∃ f, cause = .store f)) ∧
    ∀ f, out = .error f → f.isTold = true → account.Loadable b o.accountId ∧
      (f = .unknownProfile o.profile ∨ ∃ g, f = .run (.inputs o.accountId (.settings g))) := by
  intro account out
  have hunloadable (h : ¬ account.Loadable b o.accountId) : ∃ cause, out = .error (.input cause) ∧
      (ReviewFault.input cause).isTold = false ∧
      ((∃ f, cause = .load f) ∨ ∃ f, cause = .store f) := by
    obtain ⟨cause, hc, hkind⟩ :=
      prepare_unloadable o.profile now (Service.builtin_rules ids {}) h
    refine ⟨cause, ?_, rfl, hkind⟩
    have hreview : review b env web (.ofFiles b (o.fixturesPath current) files) o.accountId o.profile
        now ids = .error (.input cause) := by
      rw [review, hc]
      rfl
    change run b o current folderExists env web files now ids = _
    rw [run, hreview]
    rfl
  refine ⟨hunloadable, fun f h ht => ?_⟩
  have hload : account.Loadable b o.accountId := by
    by_contra hno
    obtain ⟨cause, hc, hf, -⟩ := hunloadable hno
    rw [hc] at h
    cases h
    cases hf.symm.trans ht
  refine ⟨hload, ?_⟩
  obtain h | ⟨r, -, h⟩ := bind_eq_error.mp h
  · obtain hf | ⟨s, p, g, hs, hp, he, rfl⟩ := review_told h ht
    · exact .inl hf
    · obtain ⟨fault, rfl⟩ := evaluate_told hload hs hp he ht
      exact .inr ⟨fault, rfl⟩
  · dsimp only at h
    split at h
    · cases h
    · cases h
      cases ht

/-- A folder in the place of the account file is not told, and an unknown profile is. -/
theorem run_unloadable_folder :
    let o : ReviewOptions := { fixturesFolder := "fx", accountId := "acct-1" }
    let now : Time.Moment := ⟨2026, 3, 1, 9, 0, 0, 0, some 0⟩
    let plain : AccountFiles := { resources := .content [0x5b, 0x5d] }
    let folder : AccountFiles := { plain with account := .folder }
    let out (o : ReviewOptions) (account : AccountFiles) :=
      run {} o ⟨"/", []⟩ (fun _ => true) [] (fun _ _ => .success []) (fun _ => account) now {}
    ¬ folder.Loadable {} "acct-1" ∧
      (∃ cause, out o folder = .error (.input cause) ∧
        (ReviewFault.input cause).isTold = false ∧
        ((∃ f, cause = .load f) ∨ ∃ f, cause = .store f)) ∧
      out { o with profile := "none" } plain = .error (.unknownProfile "none") ∧
      plain.Loadable {} "acct-1" := by
  intro o now plain folder out
  have hfolder : ¬ folder.Loadable {} "acct-1" := by
    rintro ⟨-, h | ⟨doc, bytes, s, h, -⟩, -⟩
    · cases h
    · cases h
  have hprofile : out { o with profile := "none" } plain = .error (.unknownProfile "none") := rfl
  refine ⟨hfolder, ?_, hprofile, ?_⟩
  · exact (run_unloadable {} o ⟨"/", []⟩ (fun _ => true) [] (fun _ _ => .success [])
      (fun _ => folder) now {}).1 hfolder
  · exact ((run_unloadable {} { o with profile := "none" } ⟨"/", []⟩ (fun _ => true) []
      (fun _ _ => .success []) (fun _ => plain) now {}).2 _ hprofile rfl).1

/-- An account without a folder: the missing file is not told. -/
theorem run_unloadable_missing :
    let o : ReviewOptions := { fixturesFolder := "fx", accountId := "acct-1" }
    let now : Time.Moment := ⟨2026, 3, 1, 9, 0, 0, 0, some 0⟩
    let out := run {} o ⟨"/", []⟩ (fun _ => true) [] (fun _ _ => .success []) (fun _ => {}) now {}
    let f : ReviewFault := .input (.load (.missingFile ⟨"/", ["fx", "acct-1", "resources.json"]⟩))
    out = .error f ∧ f.isTold = false :=
  ⟨rfl, rfl⟩

end Reviewing

end CloudAudit
