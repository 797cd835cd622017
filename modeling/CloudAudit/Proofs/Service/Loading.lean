import CloudAudit.Proofs.Json.Nesting
import CloudAudit.Proofs.Service.Evaluation
import CloudAudit.Proofs.Source.Inputs
import CloudAudit.Service.Defaults

namespace CloudAudit

open Result

/-! ### What the files can say -/

namespace AccountFiles

variable {Q : LoadFault → Prop} {α β : Type} {b : Bounds} {path folder : Path} {a : String}
  {files : AccountFiles} {ids ids' : IdSupply}

/-- A step of loading fails with faults of one sort only, whatever identifiers are left. -/
def FailsOnly (Q : LoadFault → Prop) (m : Load α) : Prop :=
  ∀ ids, Result.FailsOnly Q (m.run ids).1

theorem FailsOnly.pure (x : α) : FailsOnly Q (pure x : Load α) := fun _ => nofun

theorem FailsOnly.throw {f : LoadFault} (h : Q f) : FailsOnly Q (throw f : Load α) :=
  fun _ => failsOnly_error.mpr h

theorem FailsOnly.bind_except {x : Except LoadFault α} {g : α → Load β}
    (h : Result.FailsOnly Q x) (hg : ∀ v, x = .ok v → FailsOnly Q (g v)) :
    FailsOnly Q ((liftM x : Load α) >>= g) := by
  intro ids
  cases x with
  | ok v => exact hg v rfl ids
  | error f => exact failsOnly_error.mpr (h f rfl)

theorem FailsOnly.bind {m : Load α} {g : α → Load β} (h : FailsOnly Q m)
    (hg : ∀ x, FailsOnly Q (g x)) : FailsOnly Q (m >>= g) := by
  intro ids
  have hm := h ids
  rw [run_bind]
  cases hr : m.run ids with
  | mk result ids' =>
    rw [hr] at hm
    cases result with
    | error f => exact failsOnly_error.mpr (failsOnly_error.mp hm)
    | ok x => exact hg x ids'

theorem FailsOnly.mapM {g : α → Load β} {as : List α} (h : ∀ x ∈ as, FailsOnly Q (g x)) :
    FailsOnly Q (as.mapM g) := by
  induction as with
  | nil => exact .pure []
  | cons x as ih =>
    have ih := ih fun y hy => h y (List.mem_cons_of_mem _ hy)
    rw [List.mapM_cons]
    exact (h x List.mem_cons_self).bind fun y => ih.bind fun ys => .pure _

theorem exists_of_mem_mapM {g : α → Load β} {as : List α} {ys : List β} {y : β}
    (h : (as.mapM g).run ids = (.ok ys, ids')) (hy : y ∈ ys) :
    ∃ x ∈ as, ∃ ids₁ ids₂, (g x).run ids₁ = (.ok y, ids₂) := by
  induction as generalizing ids ys with
  | nil =>
    cases h
    cases hy
  | cons x as ih =>
    rw [List.mapM_cons] at h
    obtain ⟨z, ids₁, hz, h⟩ := of_run_bind h
    obtain ⟨zs, ids₂, hzs, h⟩ := of_run_bind h
    cases h
    obtain rfl | hy := List.mem_cons.mp hy
    · exact ⟨x, List.mem_cons_self, ids, ids₁, hz⟩
    · obtain ⟨x', hx', hrun⟩ := ih hzs hy
      exact ⟨x', List.mem_cons_of_mem _ hx', hrun⟩

/-- An item of the rules file that is no object. -/
def HasStray (b : Bounds) (folder : Path) (files : AccountFiles) (shape : Shape) : Prop :=
  ∃ items item, document? b (folder.child "rules.json") files.rules = .ok (some (.arr items)) ∧
    item ∈ items ∧ item.shape = shape ∧ shape ≠ .obj

/-- A rule of the rules file whose configuration is too high to be copied. -/
def HasHigh (b : Bounds) (folder : Path) (files : AccountFiles) : Prop :=
  ∃ items fields, document? b (folder.child "rules.json") files.rules = .ok (some (.arr items)) ∧
    .obj fields ∈ items ∧
    b.copying < ((Fields.get? fields "condition_config").getD (.obj [])).copyCalls

/-- One of the files nests lists or objects deeper than can be read. -/
def HasDeep (b : Bounds) (files : AccountFiles) (inList : Bool) : Prop :=
  ∃ bytes s, .content bytes ∈ [files.resources, files.account, files.rules] ∧
    String.fromUTF8? ⟨bytes.toArray⟩ = some s ∧
    Json.parse b.nesting s = .error (.nestedTooDeep inList)

/-- A fault of loading is reported, or the files account for it. -/
inductive Accounted (b : Bounds) (folder : Path) (files : AccountFiles) : LoadFault → Prop
  | reported {f} (h : (InputFault.load f).isReported = true) : Accounted b folder files f
  | stray {shape} (h : HasStray b folder files shape) : Accounted b folder files (.notMapping shape)
  | deep {inList} (h : HasDeep b files inList) :
    Accounted b folder files (.unreadableJson (.nestedTooDeep inList))

theorem document?_accounted {state : FileState}
    (h : state ∈ [files.resources, files.account, files.rules]) :
    Result.FailsOnly (Accounted b folder files) (document? b path state) := by
  cases state with
  | missing => exact failsOnly_ok
  | folder => exact failsOnly_error.mpr (.reported rfl)
  | content bytes =>
    simp only [document?]
    split
    case h_1 => exact failsOnly_error.mpr (.reported rfl)
    case h_2 s hs =>
      split
      case h_1 => exact failsOnly_ok
      case h_2 fault hp =>
        cases fault with
        | nestedTooDeep inList => exact failsOnly_error.mpr (.deep ⟨bytes, s, h, hs, hp⟩)
        | _ => exact failsOnly_error.mpr (.reported rfl)

theorem rejected_accounted (x : Except Rejection α) :
    Result.FailsOnly (Accounted b folder files) (x.mapError .rejected) := by
  cases x with
  | ok v => exact failsOnly_ok
  | error r => exact failsOnly_error.mpr (.reported rfl)

theorem resourcesOf_accounted (doc : Json) :
    Result.FailsOnly (Accounted b folder files) (resourcesOf path doc) := by
  simp only [resourcesOf]
  split
  · exact failsOnly_mapM fun item _ => rejected_accounted _
  · exact failsOnly_error.mpr (.reported rfl)

theorem ruleOf_accounted {item : Json}
    (h : item.shape ≠ .obj → HasStray b folder files item.shape) :
    FailsOnly (Accounted b folder files) (ruleOf a item) := by
  cases item with
  | obj fields =>
    intro ids
    rw [ruleOf_run]
    exact rejected_accounted _
  | _ =>
    intro ids f hf
    cases hf
    exact .stray (h nofun)

theorem rulesOf_accounted {doc : Json}
    (h : document? b (folder.child "rules.json") files.rules = .ok (some doc)) :
    FailsOnly (Accounted b folder files) (rulesOf path a doc) := by
  cases doc with
  | arr items =>
    refine FailsOnly.mapM fun item hitem => ruleOf_accounted fun hs => ?_
    exact ⟨items, item, h, hitem, rfl, hs⟩
  | _ =>
    intro ids f hf
    cases hf
    exact .reported rfl

theorem load_accounted : FailsOnly (Accounted b folder files) (load b files folder a) := by
  refine .bind_except (document?_accounted (by simp)) fun found _ => ?_
  cases found with
  | none => exact .throw (.reported rfl)
  | some doc =>
    refine .bind_except (resourcesOf_accounted doc) fun resources _ => ?_
    refine .bind_except (document?_accounted (by simp)) fun account _ => ?_
    refine .bind_except (document?_accounted (by simp)) fun rules hrules => ?_
    refine .bind ?_ fun extra => .pure _
    cases rules with
    | none => exact .pure []
    | some doc => exact rulesOf_accounted hrules

/-- The token of the inputs is that of the account file, and their rules are those of the rules
file, if there are such files. -/
theorem load_ok {inputs : Inputs} (h : (load b files folder a).run ids = (.ok inputs, ids')) :
    ∃ account rules ids₁ ids₂,
      document? b (folder.child "account.json") files.account = .ok account ∧
      inputs.token = account.elim .null tokenOf ∧
      document? b (folder.child "rules.json") files.rules = .ok rules ∧
      (rules.elim (pure []) (rulesOf (folder.child "rules.json") a)).run ids₁ =
        (.ok inputs.extraRules, ids₂) := by
  obtain ⟨found, s₁, -, h⟩ := of_run_bind h
  cases found with
  | none => cases h
  | some doc =>
    obtain ⟨resources, s₂, -, h⟩ := of_run_bind h
    obtain ⟨account, s₃, haccount, h⟩ := of_run_bind h
    obtain ⟨rules, s₄, hrules, h⟩ := of_run_bind h
    obtain ⟨extra, s₅, hextra, h⟩ := of_run_bind h
    cases h
    exact ⟨account, rules, s₄, _, congrArg Prod.fst haccount, rfl, congrArg Prod.fst hrules, hextra⟩

theorem load_of_resources {f : LoadFault}
    (h : document? b (folder.child "resources.json") files.resources = .error f) :
    (load b files folder a).run ids = (.error f, ids) := by
  rw [load, h]
  rfl

theorem document?_brackets (b : Bounds) (path : Path) (rest : List Char) :
    document? b path (.content (String.ofList
      (List.replicate (b.nesting + 1) '[' ++ rest)).toUTF8.data.toList) =
        .error (.unreadableJson (.nestedTooDeep true)) := by
  simp only [document?, Text.fromUTF8?_toUTF8, Json.parse_brackets]

theorem copyCalls_of_document? {state : FileState} {doc : Json}
    (h : document? b path state = .ok (some doc)) : doc.copyCalls ≤ 2 * b.nesting + 1 := by
  cases state with
  | missing => cases h
  | folder => cases h
  | content bytes =>
    simp only [document?] at h
    split at h
    case h_1 => cases h
    case h_2 =>
      split at h
      case h_1 v hp =>
        cases h
        exact Json.copyCalls_of_parse hp
      case h_2 => cases h

/-- Where there is room to copy all that can be read, no rule of the file is too high. -/
theorem not_hasHigh (h : 2 * b.nesting ≤ b.copying + 2) : ¬ HasHigh b folder files := by
  rintro ⟨items, fields, hdoc, hitem, hhigh⟩
  have hle := copyCalls_of_document? hdoc
  have hfields := copyCalls_le_of_mem hitem
  simp only [Json.copyCalls] at hle hfields
  cases hconfig : Fields.get? fields "condition_config" with
  | none =>
    rw [hconfig, Option.getD_none, Json.copyCalls, mostFieldCopyCalls] at hhigh
    omega
  | some config =>
    have hvalue := copyCalls_le_of_get? hconfig
    rw [hconfig, Option.getD_some] at hhigh
    omega

theorem hasHigh_of_load {inputs : Inputs} {r : Rule}
    (h : (load b files folder a).run ids = (.ok inputs, ids')) (hr : r ∈ inputs.extraRules)
    (hcopy : r.canBeCopied b.copying = false) : HasHigh b folder files := by
  obtain ⟨-, rules, ids₁, ids₂, -, -, hdoc, hrun⟩ := load_ok h
  cases rules with
  | none =>
    have hnone : [] = inputs.extraRules := Except.ok.inj (congrArg Prod.fst hrun)
    rw [← hnone] at hr
    cases hr
  | some doc =>
    cases doc with
    | arr items =>
      obtain ⟨item, hitem, ids₃, ids₄, hrule⟩ := exists_of_mem_mapM hrun hr
      cases item with
      | obj fields =>
        rw [ruleOf_run] at hrule
        have hread := mapError_eq_ok.mp (congrArg Prod.fst hrule)
        refine ⟨items, fields, hdoc, hitem, ?_⟩
        rw [← Nat.not_le, ← canBeCopied_iff hread, hcopy]
        exact Bool.false_ne_true
      | _ => cases hrule
    | _ => cases hrun

end AccountFiles

/-! ### What the environment can say -/

namespace Environment

variable {env : Environment} {name : String} {f : SettingFault}

/-- A variable that stands for an infinite number. -/
def IsInfinite (env : Environment) (name : String) : Prop :=
  ∃ x negative, Number.ofText? (env.value name).toList = some x ∧
    Number.Binary.ofFloat x = .infinite negative

/-- The faults of a client's settings that are not told as such: a token of the wrong shape, and an
infinite number where a whole one is wanted. -/
inductive Strays (env : Environment) (token : Json) : SettingFault → Prop
  | token (ht : token.truthy = true) (hs : token.shape ≠ .str) :
    Strays env token (.tokenNotText token.shape)
  | retries (h : env.IsInfinite "LINODE_API_MAX_RETRIES") : Strays env token .infiniteNumber
  | pageSize (h : env.IsInfinite "LINODE_API_PAGE_SIZE") : Strays env token .infiniteNumber

/-- A fault of settings is one of those or is reported. -/
def Accounted (env : Environment) (token : Json) (f : SettingFault) : Prop :=
  (InputFault.settings f).isReported = true ∨ Strays env token f

theorem token_accounted (token : Json) : FailsOnly (Accounted env token) (env.token token) := by
  rw [Environment.token]
  intro f h
  split at h
  case h_1 s hs =>
    split at h
    · rw [required] at h
      split at h
      · cases h
        exact .inl rfl
      · cases h
    · cases h
  case h_2 hno =>
    cases h
    by_cases ht : token.truthy = true
    · rw [Json.orElse, if_pos ht] at hno ⊢
      refine .inr (.token ht fun hs => ?_)
      cases token with
      | str s => exact hno s rfl
      | _ => cases hs
    · rw [Json.orElse, if_neg ht] at hno
      exact absurd rfl (hno "")

theorem positive_accounted (token : Json) (name : String) (default : Float) :
    FailsOnly (Accounted env token) (env.positive name default) := by
  intro f h
  rw [positive] at h
  split at h
  case isTrue => cases h
  case isFalse =>
    split at h
    case h_1 =>
      cases h
      exact .inl rfl
    case h_2 =>
      split at h
      · cases h
        exact .inl rfl
      · cases h

theorem positive_ok {default x : Float} (h : env.positive name default = .ok x) :
    x = default ∨ Number.ofText? (env.value name).toList = some x := by
  rw [positive] at h
  split at h
  case isTrue =>
    cases h
    exact .inl rfl
  case isFalse =>
    split at h
    case h_1 => cases h
    case h_2 hx =>
      split at h
      · cases h
      · cases h
        exact .inr hx

theorem wholePart_accounted {token : Json} {default x : Float}
    (hx : env.positive name default = .ok x)
    (hd : ∀ negative, Number.Binary.ofFloat default ≠ .infinite negative)
    (hs : env.IsInfinite name → Strays env token .infiniteNumber) :
    FailsOnly (Accounted env token) (wholePart x) := by
  intro f h
  rw [wholePart] at h
  split at h
  case h_1 =>
    cases h
    exact .inl rfl
  case h_2 negative hi =>
    cases h
    obtain rfl | hx := positive_ok hx
    · exact absurd hi (hd negative)
    · exact .inr (hs ⟨x, negative, hx, hi⟩)
  case h_3 => cases h

end Environment

theorem ClientConfig.ofEnvironment_accounted (env : Environment) (token : Json) :
    FailsOnly (Environment.Accounted env token) (ClientConfig.ofEnvironment env token) := by
  have hretries : ∀ negative, Number.Binary.ofFloat 3.0 ≠ .infinite negative := by decide +kernel
  have hpageSize : ∀ negative, Number.Binary.ofFloat 500.0 ≠ .infinite negative := by
    decide +kernel
  rw [ClientConfig.ofEnvironment]
  refine failsOnly_bind.mpr ⟨Environment.token_accounted token, fun _ _ => ?_⟩
  refine failsOnly_bind.mpr ⟨Environment.positive_accounted token _ _, fun _ _ => ?_⟩
  refine failsOnly_bind.mpr ⟨Environment.positive_accounted token _ _, fun _ hr => ?_⟩
  refine failsOnly_bind.mpr ⟨Environment.wholePart_accounted hr hretries .retries, fun _ _ => ?_⟩
  refine failsOnly_bind.mpr ⟨Environment.positive_accounted token _ _, fun _ hs => ?_⟩
  refine failsOnly_bind.mpr ⟨Environment.wholePart_accounted hs hpageSize .pageSize, fun _ _ => ?_⟩
  exact failsOnly_pure

/-! ### What a run says of it -/

namespace Service

variable {σ : Type} {p : Pipeline σ} {a : String} {now : Time.Moment} {s s₁ : Service σ}
  {cause : InputFault}

theorem isHeld_eq_false (h : a ∉ s.held) : s.isHeld a = false := by
  rw [isHeld, Bool.eq_false_iff]
  exact fun hheld => h (List.contains_iff_mem.mp hheld)

theorem gather_of_load_error {f : LoadFault} {ids : IdSupply}
    (h : (p.inventory a).run s.ids = (.error f, ids)) :
    gather p a s = (.error (.load f), { s with ids }) := by
  rw [gather, h]

/-- Where a run cannot start, the fault is of loading, of registering rules or of the provider's
factory, which is only asked with a token that counts. -/
theorem gather_error (h : gather p a s = (.error cause, s₁)) :
    (∃ f ids, (p.inventory a).run s.ids = (.error f, ids) ∧ cause = .load f) ∨
    (∃ inputs ids f store, (p.inventory a).run s.ids = (.ok inputs, ids) ∧
      s.store.fileRules p.bounds.copying a inputs.extraRules = (.error f, store) ∧
      cause = .store f) ∨
    ∃ inputs ids outside outside', (p.inventory a).run s.ids = (.ok inputs, ids) ∧
      p.factory inputs.token outside = (.error cause, outside') := by
  rw [gather] at h
  cases hi : (p.inventory a).run s.ids with
  | mk inputs ids =>
    rw [hi] at h
    cases inputs with
    | error f =>
      cases h
      exact .inl ⟨f, ids, rfl, rfl⟩
    | ok inputs =>
      dsimp only at h
      cases hfile : s.store.fileRules p.bounds.copying a inputs.extraRules with
      | mk result store =>
        rw [hfile] at h
        cases result with
        | error f =>
          cases h
          exact .inr (.inl ⟨inputs, ids, f, store, rfl, hfile, rfl⟩)
        | ok u =>
          refine .inr (.inr ⟨inputs, ids, s.outside, ?_⟩)
          dsimp only at h
          rw [providerFor] at h
          split at h
          case isFalse => cases h
          case isTrue =>
            cases hf : p.factory inputs.token s.outside with
            | mk provider outside =>
              rw [hf] at h
              cases provider with
              | ok provider => cases h
              | error f =>
                cases h
                exact ⟨outside, rfl, rfl⟩

/-- The faults of loading that end the call as they are, and what causes them: a file that is nested
too deep, an item of the rules file that is no object, a rule that is too high to be copied, of the
file or known already, a token that counts and is no text, and settings of the environment that
stand for an infinite number. -/
inductive Escapes (b : Bounds) (env : Environment) (folder : Path) (files : AccountFiles)
    (known : List Rule) : InputFault → Prop
  | document {inList} (h : files.HasDeep b inList) :
    Escapes b env folder files known (.load (.unreadableJson (.nestedTooDeep inList)))
  | rule {shape} (h : AccountFiles.HasStray b folder files shape) :
    Escapes b env folder files known (.load (.notMapping shape))
  | config (h : AccountFiles.HasHigh b folder files) :
    Escapes b env folder files known (.store .nestedTooDeep)
  | known {r} (hr : r ∈ known) (h : r.canBeCopied b.copying = false) :
    Escapes b env folder files known (.store .nestedTooDeep)
  | settings {doc f}
    (hdoc : AccountFiles.document? b (folder.child "account.json") files.account = .ok doc)
    (h : Environment.Strays env (doc.elim .null AccountFiles.tokenOf) f) :
    Escapes b env folder files known (.settings f)

theorem not_isReported_of_escapes {b : Bounds} {env : Environment} {folder : Path}
    {files : AccountFiles} {known : List Rule} (h : Escapes b env folder files known cause) :
    cause.isReported = false := by
  cases h with
  | document | rule | config | known => rfl
  | settings _ h => cases h <;> rfl

/-- The pipeline that reads files and asks the provider's web service. -/
def filePipeline (b : Bounds) (settings : EvaluationSettings) (root : Path)
    (files : Path → AccountFiles) (env : Environment) (web : WebService) : Pipeline Wire :=
  .ofSettings b settings (.ofFiles b root files) (clientFactory b env web)

variable {b : Bounds} {settings : EvaluationSettings} {root : Path} {files : Path → AccountFiles}
  {env : Environment} {web : WebService} {w w₁ : Service Wire}

theorem gather_escapes
    (h : gather (filePipeline b settings root files env web) a w = (.error cause, w₁)) :
    Escapes b env (root.child a) (files (root.child a)) w.store.rules cause ↔
      cause.isReported = false := by
  refine ⟨not_isReported_of_escapes, fun hno => ?_⟩
  obtain ⟨f, ids, hi, rfl⟩ | ⟨inputs, ids, f, store, hi, hfile, rfl⟩ |
    ⟨inputs, ids, outside, outside', hi, hf⟩ := gather_error h
  · cases AccountFiles.load_accounted w.ids _ (congrArg Prod.fst hi) with
    | reported hreported =>
      rw [hreported] at hno
      cases hno
    | stray hstray => exact .rule hstray
    | deep hdeep => exact .document hdeep
  · cases f with
    | nestedTooDeep =>
      obtain ⟨r, hr | hr, hcopy⟩ := Store.exists_of_fileRules hfile
      · exact .known hr hcopy
      · exact .config (AccountFiles.hasHigh_of_load hi hr hcopy)
    | _ => cases hno
  · obtain ⟨account, -, -, -, haccount, htoken, -⟩ := AccountFiles.load_ok hi
    have hclient : ((ClientConfig.ofEnvironment env inputs.token).mapError InputFault.settings).map
        (some ∘ Client.provider b web) = .error cause := congrArg Prod.fst hf
    have hall := ClientConfig.ofEnvironment_accounted env inputs.token
    cases hc : ClientConfig.ofEnvironment env inputs.token with
    | ok config =>
      rw [hc] at hclient
      cases hclient
    | error f =>
      rw [hc] at hclient
      cases hclient
      obtain hr | hs := hall f hc
      · rw [hr] at hno
        cases hno
      · exact .settings haccount (htoken ▸ hs)

/-- Whatever the files of an account hold, a run of it has its inputs, or the caller is told that
they could not be loaded, unless the cause is one of those that escape. -/
theorem evaluate_loads (b : Bounds) (settings : EvaluationSettings) (root : Path)
    (files : Path → AccountFiles) (env : Environment) (web : WebService) (a : String)
    (now : Time.Moment) (w : Service Wire) (ha : a ∉ w.held) :
    let p := filePipeline b settings root files env web
    (∃ run w₁, gather p a w = (.ok run, w₁)) ∨
    ∃ cause, (¬ Escapes b env (root.child a) (files (root.child a)) w.store.rules cause ∧
        (w.evaluate p a now).1 = .error (.inputs a cause)) ∨
      Escapes b env (root.child a) (files (root.child a)) w.store.rules cause ∧
        (w.evaluate p a now).1 = .error (.unreported cause) := by
  intro p
  have hheld := isHeld_eq_false ha
  cases hg : gather p a w with
  | mk result w₁ =>
    cases result with
    | ok run => exact .inl ⟨run, w₁, rfl⟩
    | error cause =>
      have he := gather_escapes hg
      refine .inr ⟨cause, ?_⟩
      rw [evaluate_of_not_held p now hheld, evaluateHeld_of_inputFault hg]
      cases hr : cause.isReported with
      | true =>
        refine .inl ⟨fun h => ?_, rfl⟩
        rw [he.mp h] at hr
        cases hr
      | false => exact .inr ⟨he.mpr hr, rfl⟩

theorem gather_brackets (a : String) (w : Service Wire) (rest : List Char)
    (hfile : (files (root.child a)).resources = .content (String.ofList
      (List.replicate (b.nesting + 1) '[' ++ rest)).toUTF8.data.toList) :
    gather (filePipeline b settings root files env web) a w =
      (.error (.load (.unreadableJson (.nestedTooDeep true))), w) := by
  have hdoc := AccountFiles.document?_brackets b ((root.child a).child "resources.json") rest
  rw [gather_of_load_error (AccountFiles.load_of_resources (hfile ▸ hdoc))]

/-- Of a resources file that opens more lists than can be read the caller is told nothing. -/
theorem evaluate_brackets (now : Time.Moment) (ha : a ∉ w.held) (rest : List Char)
    (hfile : (files (root.child a)).resources = .content (String.ofList
      (List.replicate (b.nesting + 1) '[' ++ rest)).toUTF8.data.toList) :
    (w.evaluate (filePipeline b settings root files env web) a now).1 =
      .error (.unreported (.load (.unreadableJson (.nestedTooDeep true)))) := by
  rw [evaluate_of_not_held _ now (isHeld_eq_false ha),
    evaluateHeld_of_inputFault (gather_brackets a w rest hfile)]
  rfl

/-- A rules file that holds an object. -/
theorem evaluate_loads_object :
    let files : Path → AccountFiles := fun _ =>
      { resources := .content [0x5b, 0x5d], rules := .content [0x7b, 0x7d] }
    let p := filePipeline {} {} ⟨"/", []⟩ files [] fun _ _ => .success []
    let now : Time.Moment := ⟨2026, 3, 1, 9, 0, 0, 0, some 0⟩
    let w : Service Wire := { outside := {} }
    let cause : InputFault := .load (.notList ⟨"/", ["a", "rules.json"]⟩ "rules")
    "a" ∉ w.held ∧ (w.evaluate p "a" now).1 = .error (.inputs "a" cause) ∧
      ¬ Escapes {} [] ⟨"/", ["a"]⟩ (files ⟨"/", ["a"]⟩) w.store.rules cause := by
  intro files p now w cause
  have hheld : "a" ∉ w.held := List.not_mem_nil
  have hr : (w.evaluate p "a" now).1 = .error (.inputs "a" cause) := rfl
  have hg : (gather p "a" w).1 = .error cause := rfl
  refine ⟨hheld, hr, ?_⟩
  obtain ⟨run, w₁, hrun⟩ | ⟨c, ⟨hno, hc⟩ | ⟨-, hc⟩⟩ :=
    evaluate_loads {} {} ⟨"/", []⟩ files [] (fun _ _ => .success []) "a" now w hheld
  · cases hg.symm.trans (congrArg Prod.fst hrun)
  · cases hr.symm.trans hc
    exact hno
  · cases hr.symm.trans hc

/-- A rules file that holds a list with a number in it, and a resources file that is nested too
deep: the caller is not told what failed. -/
theorem evaluate_loads_number :
    let b : Bounds := {}
    let number : AccountFiles :=
      { resources := .content [0x5b, 0x5d], rules := .content [0x5b, 0x31, 0x5d] }
    let brackets := String.ofList
      (List.replicate (b.nesting + 1) '[' ++ List.replicate (b.nesting + 1) ']')
    let deep : AccountFiles := { resources := .content brackets.toUTF8.data.toList }
    let p (files : AccountFiles) : Pipeline Wire :=
      filePipeline b {} ⟨"/", []⟩ (fun _ => files) [] fun _ _ => .success []
    let now : Time.Moment := ⟨2026, 3, 1, 9, 0, 0, 0, some 0⟩
    let w : Service Wire := { outside := {} }
    (w.evaluate (p number) "a" now).1 = .error (.unreported (.load (.notMapping .int))) ∧
      (w.evaluate (p deep) "a" now).1 =
        .error (.unreported (.load (.unreadableJson (.nestedTooDeep true)))) ∧
      ∀ files ∈ [number, deep], ¬ ((∃ run w₁, gather (p files) "a" w = (.ok run, w₁)) ∨
        ∃ cause, (w.evaluate (p files) "a" now).1 = .error (.inputs "a" cause)) := by
  intro b number brackets deep p now w
  have hheld : "a" ∉ w.held := List.not_mem_nil
  have hnumber : (w.evaluate (p number) "a" now).1 =
      .error (.unreported (.load (.notMapping .int))) := rfl
  have hnogather : (gather (p number) "a" w).1 = .error (.load (.notMapping .int)) := rfl
  -- From here on the limit is a name, so that nothing counts it off bracket by bracket.
  clear_value b
  have hdeep : (w.evaluate (p deep) "a" now).1 =
      .error (.unreported (.load (.unreadableJson (.nestedTooDeep true)))) :=
    evaluate_brackets now hheld (List.replicate (b.nesting + 1) ']') rfl
  have hgather : gather (p deep) "a" w =
      (.error (.load (.unreadableJson (.nestedTooDeep true))), w) :=
    gather_brackets "a" w (List.replicate (b.nesting + 1) ']') rfl
  refine ⟨hnumber, hdeep, fun files hfiles => ?_⟩
  obtain rfl | hfiles := List.mem_cons.mp hfiles
  · rintro (⟨run, w₁, hrun⟩ | ⟨cause, hc⟩)
    · cases hnogather.symm.trans (congrArg Prod.fst hrun)
    · cases hnumber.symm.trans hc
  · obtain rfl := List.mem_singleton.mp hfiles
    rintro (⟨run, w₁, hrun⟩ | ⟨cause, hc⟩)
    · cases hgather.symm.trans hrun
    · cases hdeep.symm.trans hc

end Service

end CloudAudit
