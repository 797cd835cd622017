import CloudAudit.Builtin.Rules
import CloudAudit.Proofs.Result
import CloudAudit.Source.Inputs

namespace CloudAudit

open Result

/-! ### Records -/

namespace Record

variable {α β : Type} {f : Record (α → β)} {x : Record α} {g : α → β} {fields : Fields} {b : β}

theorem seq_eq_ok :
    (f <*> x) fields = .ok b ↔ ∃ g a, f fields = .ok g ∧ x fields = .ok a ∧ g a = b := by
  change seq f (fun _ => x) fields = .ok b ↔ _
  rw [seq]
  cases f fields with
  | error e =>
    cases x fields with
    | error e' => exact ⟨nofun, nofun⟩
    | ok a => exact ⟨nofun, nofun⟩
  | ok g =>
    cases x fields with
    | error e => exact ⟨nofun, nofun⟩
    | ok a =>
      constructor
      · intro h
        exact ⟨g, a, rfl, rfl, Except.ok.inj h⟩
      · rintro ⟨_, _, ⟨⟩, ⟨⟩, rfl⟩
        rfl

theorem map_eq_ok : (g <$> x) fields = .ok b ↔ ∃ a, x fields = .ok a ∧ g a = b := by
  change (pure g <*> x) fields = .ok b ↔ _
  rw [seq_eq_ok]
  constructor
  · rintro ⟨_, a, ⟨⟩, ha, rfl⟩
    exact ⟨a, ha, rfl⟩
  · rintro ⟨a, ha, rfl⟩
    exact ⟨g, a, rfl, ha, rfl⟩

theorem field_eq_ok {name : String} {reader : Reader α} {default a : α} :
    field name reader default fields = .ok a ↔
      (∃ v, Fields.get? fields name = some v ∧ reader v = .ok a) ∨
      Fields.get? fields name = none ∧ a = default := by
  rw [field]
  cases Fields.get? fields name with
  | none =>
    constructor
    · exact fun h => .inr ⟨rfl, (Except.ok.inj h).symm⟩
    · rintro (⟨_, ⟨⟩, -⟩ | ⟨-, rfl⟩)
      rfl
  | some v =>
    change readField name reader v = .ok a ↔ _
    rw [readField, mapError_eq_ok]
    constructor
    · exact fun h => .inl ⟨v, rfl, h⟩
    · rintro (⟨_, ⟨⟩, h⟩ | ⟨⟨⟩, -⟩)
      exact h

end Record

theorem Reader.string_eq_ok {v : Json} {s : String} : Reader.string v = .ok s ↔ v = .str s := by
  cases v with
  | str t => exact ⟨fun h => congrArg Json.str (Except.ok.inj h), fun h => by cases h; rfl⟩
  | _ => exact ⟨nofun, nofun⟩

theorem Reader.optional_string_eq_ok {v : Json} {s : String} :
    Reader.optional Reader.string v = .ok (some s) ↔ v = .str s := by
  cases v with
  | str t => exact ⟨fun h => by cases h; rfl, fun h => by cases h; rfl⟩
  | _ => exact ⟨nofun, nofun⟩

theorem Reader.object_eq_ok {v : Json} {fields : Fields} :
    Reader.object v = .ok fields ↔ v = .obj fields := by
  cases v with
  | obj => exact ⟨fun h => congrArg Json.obj (Except.ok.inj h), fun h => by cases h; rfl⟩
  | _ => exact ⟨nofun, nofun⟩

theorem Rule.read_eq_ok {id : String} {fields : Fields} {r : Rule} :
    (Rule.schema id).read (.obj fields) = .ok r ↔
      Record.field "id" Reader.string id fields = .ok r.id ∧
      Record.required "name" Reader.string fields = .ok r.name ∧
      Record.field "description" Reader.string "" fields = .ok r.description ∧
      Record.field "resource_types" (Reader.list Reader.string) [] fields = .ok r.resourceTypes ∧
      Record.required "condition_type" Reader.string fields = .ok r.conditionType ∧
      Record.field "condition_config" Reader.object [] fields = .ok r.config ∧
      Record.field "severity" (Reader.listed Severity.ofText?) .warning fields = .ok r.severity ∧
      Record.field "is_active" Reader.bool true fields = .ok r.isActive ∧
      Record.field "account_id" (Reader.optional Reader.string) none fields = .ok r.accountId ∧
      Record.field "is_builtin" Reader.bool false fields = .ok r.isBuiltin := by
  rw [Schema.read, mapError_eq_ok]
  simp only [Rule.schema, Record.reader, Record.seq_eq_ok, Record.map_eq_ok]
  constructor
  · intro h
    obtain ⟨_, _, h, hbuiltin, rfl⟩ := h
    obtain ⟨_, _, h, howner, rfl⟩ := h
    obtain ⟨_, _, h, hactive, rfl⟩ := h
    obtain ⟨_, _, h, hseverity, rfl⟩ := h
    obtain ⟨_, _, h, hconfig, rfl⟩ := h
    obtain ⟨_, _, h, hkind, rfl⟩ := h
    obtain ⟨_, _, h, htypes, rfl⟩ := h
    obtain ⟨_, _, h, hdescription, rfl⟩ := h
    obtain ⟨_, _, ⟨_, hid, rfl⟩, hname, rfl⟩ := h
    exact ⟨hid, hname, hdescription, htypes, hkind, hconfig, hseverity, hactive, howner, hbuiltin⟩
  · cases r
    rintro ⟨hid, hname, hdescription, htypes, hkind, hconfig, hseverity, hactive, howner, hbuiltin⟩
    refine ⟨_, _, ?_, hbuiltin, rfl⟩
    refine ⟨_, _, ?_, howner, rfl⟩
    refine ⟨_, _, ?_, hactive, rfl⟩
    refine ⟨_, _, ?_, hseverity, rfl⟩
    refine ⟨_, _, ?_, hconfig, rfl⟩
    refine ⟨_, _, ?_, hkind, rfl⟩
    refine ⟨_, _, ?_, htypes, rfl⟩
    refine ⟨_, _, ?_, hdescription, rfl⟩
    exact ⟨_, _, ⟨_, hid, rfl⟩, hname, rfl⟩

/-! ### Identifiers that are given out -/

theorem Text.hexDigits_ne {w n : Nat} {c : Char} (h : c ∈ Text.hexDigits w n) : c ≠ 'u' := by
  induction w generalizing n with
  | zero => cases h
  | succ w ih =>
    obtain h | h := List.mem_append.mp h
    · exact ih h
    · rw [List.mem_singleton.mp h]
      have hdigit : ∀ d < 16, Nat.digitChar d ≠ 'u' := by decide
      exact hdigit _ (Nat.mod_lt n (by decide))

/-- No identifier that is given out is that of a built-in rule. -/
theorem IdSupply.peek_ne_builtin (ids : IdSupply) : ids.peek ∉ Builtin.rules.map Rule.id := by
  have hbuiltin : ∀ id ∈ Builtin.rules.map Rule.id, 'u' ∈ id.toList := by decide +kernel
  intro h
  have hmem := hbuiltin _ h
  have hgroup {start size : Nat} :
      'u' ∉ ((Text.hexDigits 32 (ids.seed + ids.next)).drop start).take size := fun hu =>
    Text.hexDigits_ne (List.mem_of_mem_drop (List.mem_of_mem_take hu)) rfl
  rw [IdSupply.peek, IdSupply.text, String.toList_ofList] at hmem
  simp only [List.mem_append, List.mem_cons, hgroup, false_or, or_false] at hmem
  revert hmem
  decide

/-! ### What a file holds -/

def FileState.Holds (b : Bounds) (state : FileState) (doc : Json) : Prop :=
  ∃ bytes s, state = .content bytes ∧ String.fromUTF8? ⟨bytes.toArray⟩ = some s ∧
    Json.parse b.nesting s = .ok doc

namespace AccountFiles

variable {b : Bounds} {path folder : Path} {state : FileState} {files : AccountFiles}
  {doc item : Json} {a : String} {ids : IdSupply} {r : Rule}

theorem document?_eq_some : document? b path state = .ok (some doc) ↔ state.Holds b doc := by
  constructor
  · intro h
    cases state with
    | missing => cases h
    | folder => cases h
    | content bytes =>
      rw [document?] at h
      split at h
      case h_1 => cases h
      case h_2 s hs =>
        split at h
        case h_1 v hv =>
          cases h
          exact ⟨bytes, s, rfl, hs, hv⟩
        case h_2 => cases h
  · rintro ⟨bytes, s, rfl, hs, hdoc⟩
    simp only [document?, hs, hdoc]

theorem document?_eq_none : document? b path state = .ok none ↔ state = .missing := by
  constructor
  · intro h
    cases state with
    | missing => rfl
    | folder => cases h
    | content bytes =>
      rw [document?] at h
      split at h
      case h_1 => cases h
      case h_2 => split at h <;> cases h
  · rintro rfl
    rfl

theorem exists_document? : (∃ found, document? b path state = .ok found) ↔
    state = .missing ∨ ∃ doc, state.Holds b doc := by
  simp [Option.exists, document?_eq_none, document?_eq_some]

/-- The items that a resources file lists: the whole document or its field of that name. -/
inductive Lists : Json → List Json → Prop
  | array (items) : Lists (.arr items) items
  | object {fields items} (h : Fields.get? fields "resources" = some (.arr items)) :
    Lists (.obj fields) items
  | empty {fields} (h : Fields.get? fields "resources" = none) : Lists (.obj fields) []

theorem resourcesOf_of_lists {items : List Json} (h : Lists doc items) : resourcesOf path doc =
    items.mapM fun item => (Resource.schema.read item).mapError .rejected := by
  cases h with
  | array => rfl
  | object h => simp only [resourcesOf, h, Option.getD_some]
  | empty h => simp only [resourcesOf, h, Option.getD_none]

theorem exists_lists {resources : List Resource} (h : resourcesOf path doc = .ok resources) :
    ∃ items, Lists doc items := by
  cases doc with
  | arr items => exact ⟨items, .array items⟩
  | obj fields =>
    cases hf : Fields.get? fields "resources" with
    | none => exact ⟨[], .empty hf⟩
    | some v =>
      simp only [resourcesOf, hf, Option.getD_some] at h
      split at h
      case h_1 items => exact ⟨items, .object hf⟩
      case h_2 => cases h
  | _ => cases h

theorem resourcesOf_ok : (∃ resources, resourcesOf path doc = .ok resources) ↔
    ∃ items, Lists doc items ∧ ∀ item ∈ items, ∃ r, Resource.schema.read item = .ok r := by
  constructor
  · rintro ⟨resources, h⟩
    obtain ⟨items, hitems⟩ := exists_lists h
    rw [resourcesOf_of_lists hitems] at h
    refine ⟨items, hitems, fun item hitem => ?_⟩
    obtain ⟨r, hr⟩ := of_mem_mapM h hitem
    exact ⟨r, mapError_eq_ok.mp hr⟩
  · rintro ⟨items, hitems, h⟩
    rw [resourcesOf_of_lists hitems]
    exact mapM_ok fun item hitem => (h item hitem).imp fun r hr => mapError_eq_ok.mpr hr

/-! ### The rules that a file brings along -/

/-- The fields of a rule, with the account as its owner unless they name one. -/
def owned (a : String) (fields : Fields) : Fields :=
  if (Fields.get? fields "account_id").isSome then fields else ("account_id", .str a) :: fields

theorem get?_owned_owner (a : String) (fields : Fields) :
    Fields.get? (owned a fields) "account_id" =
      some ((Fields.get? fields "account_id").getD (.str a)) := by
  rw [owned]
  cases h : Fields.get? fields "account_id" with
  | none => rfl
  | some v => exact h

theorem get?_owned_id (a : String) (fields : Fields) :
    Fields.get? (owned a fields) "id" = Fields.get? fields "id" := by
  rw [owned]
  split
  · rfl
  · rfl

theorem get?_owned_config (a : String) (fields : Fields) :
    Fields.get? (owned a fields) "condition_config" = Fields.get? fields "condition_config" := by
  rw [owned]
  split
  · rfl
  · rfl

theorem ruleOf_run (a : String) (fields : Fields) (ids : IdSupply) :
    (ruleOf a (.obj fields)).run ids =
      (((Rule.schema ids.peek).read (.obj (owned a fields))).mapError .rejected, ids.advance) :=
  rfl

/-- A rule that an account may bring along: its own, and no built-in one. -/
def IsOwn (a : String) (r : Rule) : Prop :=
  r.accountId = some a ∧ r.id ∉ Builtin.rules.map Rule.id

/-- An item of a rules file that the account may bring along: it can be read, names neither another
owner nor a built-in rule, and has a configuration that can be copied. -/
inductive OwnRule (b : Bounds) (a : String) : Json → Prop
  | mk {fields id r} (hread : (Rule.schema id).read (.obj (owned a fields)) = .ok r)
    (howner : ∀ v, Fields.get? fields "account_id" = some v → v = .str a)
    (hid : ∀ id ∈ Builtin.rules.map Rule.id, Fields.get? fields "id" ≠ some (.str id))
    (hcopy : ((Fields.get? fields "condition_config").getD (.obj [])).copyCalls ≤ b.copying) :
    OwnRule b a (.obj fields)

theorem owner_iff {fields : Fields} {id : String}
    (h : (Rule.schema id).read (.obj (owned a fields)) = .ok r) :
    r.accountId = some a ↔ ∀ v, Fields.get? fields "account_id" = some v → v = .str a := by
  obtain ⟨-, -, -, -, -, -, -, -, h, -⟩ := Rule.read_eq_ok.mp h
  obtain ⟨v, hv, h⟩ | ⟨hno, -⟩ := Record.field_eq_ok.mp h
  · rw [get?_owned_owner] at hv
    cases hf : Fields.get? fields "account_id" with
    | none =>
      rw [hf] at hv
      cases hv
      exact ⟨fun _ => nofun, fun _ => (Except.ok.inj h).symm⟩
    | some w =>
      rw [hf] at hv
      cases hv
      constructor
      · rintro ho _ ⟨⟩
        rw [ho] at h
        exact Reader.optional_string_eq_ok.mp h
      · intro hw
        rw [hw w rfl] at h
        exact (Except.ok.inj h).symm
  · rw [get?_owned_owner] at hno
    cases hno

theorem id_iff {fields : Fields}
    (h : (Rule.schema ids.peek).read (.obj (owned a fields)) = .ok r) :
    r.id ∉ Builtin.rules.map Rule.id ↔
      ∀ id ∈ Builtin.rules.map Rule.id, Fields.get? fields "id" ≠ some (.str id) := by
  obtain ⟨h, -⟩ := Rule.read_eq_ok.mp h
  rw [Record.field_eq_ok, get?_owned_id] at h
  obtain ⟨v, hv, h⟩ | ⟨hno, hid⟩ := h
  · rw [hv, Reader.string_eq_ok.mp h]
    constructor
    · rintro hno id hid ⟨⟩
      exact hno hid
    · exact fun hno hid => hno _ hid rfl
  · rw [hno, hid]
    exact ⟨fun _ _ _ => nofun, fun _ => ids.peek_ne_builtin⟩

theorem canBeCopied_iff {fields : Fields} {id : String}
    (h : (Rule.schema id).read (.obj (owned a fields)) = .ok r) :
    r.canBeCopied b.copying = true ↔
      ((Fields.get? fields "condition_config").getD (.obj [])).copyCalls ≤ b.copying := by
  obtain ⟨-, -, -, -, -, h, -⟩ := Rule.read_eq_ok.mp h
  rw [Record.field_eq_ok, get?_owned_config] at h
  rw [Rule.canBeCopied, decide_eq_true_iff]
  obtain ⟨v, hv, h⟩ | ⟨hno, hconfig⟩ := h
  · rw [hv, Option.getD_some, Reader.object_eq_ok.mp h]
  · rw [hno, Option.getD_none, hconfig]

theorem read_again {fields : Fields} {id : String}
    (h : (Rule.schema id).read (.obj fields) = .ok r) (id' : String) :
    ∃ r', (Rule.schema id').read (.obj fields) = .ok r' := by
  obtain ⟨hid, h⟩ := Rule.read_eq_ok.mp h
  obtain ⟨v, hv, hid⟩ | ⟨hno, -⟩ := Record.field_eq_ok.mp hid
  · exact ⟨r, Rule.read_eq_ok.mpr ⟨Record.field_eq_ok.mpr (.inl ⟨v, hv, hid⟩), h⟩⟩
  · refine ⟨{ r with id := id' }, Rule.read_eq_ok.mpr ⟨Record.field_eq_ok.mpr ?_, h⟩⟩
    exact .inr ⟨hno, rfl⟩

theorem ownRule_iff (ids : IdSupply) :
    OwnRule b a item ↔ ∃ r ids', (ruleOf a item).run ids = (.ok r, ids') ∧
      IsOwn a r ∧ r.canBeCopied b.copying = true := by
  constructor
  · rintro ⟨hread, howner, hid, hcopy⟩
    obtain ⟨r, hr⟩ := read_again hread ids.peek
    refine ⟨r, ids.advance, ?_, ⟨(owner_iff hr).mpr howner, (id_iff hr).mpr hid⟩,
      (canBeCopied_iff hr).mpr hcopy⟩
    rw [ruleOf_run, hr]
    rfl
  · rintro ⟨r, ids', h, ⟨hown, hid⟩, hcopy⟩
    cases item with
    | obj fields =>
      rw [ruleOf_run] at h
      have hr := mapError_eq_ok.mp (congrArg Prod.fst h)
      exact .mk hr ((owner_iff hr).mp hown) ((id_iff hr).mp hid) ((canBeCopied_iff hr).mp hcopy)
    | _ => cases h

/-! ### Loading -/

section Gives

variable {α β : Type} {P : β → Prop} {m : Load α} {g : α → Load β}

def Gives (P : α → Prop) (ids : IdSupply) (m : Load α) : Prop :=
  ∃ x ids', m.run ids = (.ok x, ids') ∧ P x

theorem gives_pure {x : β} : Gives P ids (pure x) ↔ P x := by
  constructor
  · rintro ⟨_, _, ⟨⟩, h⟩
    exact h
  · exact fun h => ⟨x, ids, rfl, h⟩

theorem gives_bind : Gives P ids (m >>= g) ↔
    ∃ x ids', m.run ids = (.ok x, ids') ∧ Gives P ids' (g x) := by
  constructor
  · rintro ⟨y, ids₂, h, hP⟩
    obtain ⟨x, ids₁, hx, hy⟩ := of_run_bind h
    exact ⟨x, ids₁, hx, y, ids₂, hy, hP⟩
  · rintro ⟨x, ids₁, hx, y, ids₂, hy, hP⟩
    refine ⟨y, ids₂, ?_, hP⟩
    rw [run_bind, hx]
    exact hy

theorem gives_except {x : Except LoadFault α} :
    Gives P ids ((liftM x : Load α) >>= g) ↔ ∃ v, x = .ok v ∧ Gives P ids (g v) := by
  rw [gives_bind]
  cases x with
  | error f => exact ⟨nofun, nofun⟩
  | ok v =>
    constructor
    · rintro ⟨_, _, ⟨⟩, h⟩
      exact ⟨v, rfl, h⟩
    · rintro ⟨_, ⟨⟩, h⟩
      exact ⟨v, ids, rfl, h⟩

theorem gives_mapM {Q : α → Prop} {as : List α} (h : ∀ x ids, Q x ↔ Gives P ids (g x))
    (ids : IdSupply) : (∀ x ∈ as, Q x) ↔ Gives (fun ys => ∀ y ∈ ys, P y) ids (as.mapM g) := by
  induction as generalizing ids with
  | nil => exact ⟨fun _ => ⟨[], ids, rfl, nofun⟩, fun _ => nofun⟩
  | cons x as ih =>
    rw [List.mapM_cons, gives_bind, List.forall_mem_cons]
    constructor
    · rintro ⟨hx, has⟩
      obtain ⟨y, ids₁, hy, hP⟩ := (h x ids).mp hx
      obtain ⟨ys, ids₂, hys, hPs⟩ := (ih ids₁).mp has
      refine ⟨y, ids₁, hy, gives_bind.mpr ⟨ys, ids₂, hys, ?_⟩⟩
      exact gives_pure.mpr (List.forall_mem_cons.mpr ⟨hP, hPs⟩)
    · rintro ⟨y, ids₁, hy, hys⟩
      obtain ⟨ys, ids₂, hys, hP⟩ := gives_bind.mp hys
      obtain ⟨hP, hPs⟩ := List.forall_mem_cons.mp (gives_pure.mp hP)
      exact ⟨(h x ids).mpr ⟨y, ids₁, hy, hP⟩, (ih ids₁).mpr ⟨ys, ids₂, hys, hPs⟩⟩

end Gives

/-- The files of an account from which it can be evaluated: a list of resources, whatever document
with the token, if there is one, and a list of rules that the account may bring along, if there is
one. -/
structure Loadable (b : Bounds) (files : AccountFiles) (a : String) : Prop where
  resources : ∃ doc items, files.resources.Holds b doc ∧ Lists doc items ∧
    ∀ item ∈ items, ∃ r, Resource.schema.read item = .ok r
  account : files.account = .missing ∨ ∃ doc, files.account.Holds b doc
  rules : files.rules = .missing ∨ ∃ items, files.rules.Holds b (.arr items) ∧
    ∀ item ∈ items, OwnRule b a item

theorem rulesOf_gives (path : Path) (ids : IdSupply) :
    (∃ items, doc = .arr items ∧ ∀ item ∈ items, OwnRule b a item) ↔
      Gives (fun rules => ∀ r ∈ rules, IsOwn a r ∧ r.canBeCopied b.copying = true) ids
        (rulesOf path a doc) := by
  cases doc with
  | arr items =>
    rw [rulesOf, ← gives_mapM fun _ ids => ownRule_iff ids]
    constructor
    · rintro ⟨_, ⟨⟩, h⟩
      exact h
    · exact fun h => ⟨items, rfl, h⟩
  | _ =>
    constructor
    · rintro ⟨_, ⟨⟩, -⟩
    · rintro ⟨_, _, ⟨⟩, -⟩

theorem loadable_iff (folder : Path) (ids : IdSupply) : files.Loadable b a ↔
    Gives (fun inputs => ∀ r ∈ inputs.extraRules, IsOwn a r ∧ r.canBeCopied b.copying = true) ids
      (load b files folder a) := by
  rw [load, gives_except]
  constructor
  · rintro ⟨⟨doc, items, hdoc, hitems⟩, haccount, hrules⟩
    obtain ⟨resources, hresources⟩ := resourcesOf_ok.mpr ⟨items, hitems⟩
    refine ⟨some doc, document?_eq_some.mpr hdoc, ?_⟩
    refine gives_except.mpr ⟨resources, hresources, ?_⟩
    obtain ⟨account, haccount⟩ := exists_document?.mpr haccount
    refine gives_except.mpr ⟨account, haccount, ?_⟩
    obtain h | ⟨items, h, hitems⟩ := hrules
    · refine gives_except.mpr ⟨none, document?_eq_none.mpr h, gives_bind.mpr ?_⟩
      exact ⟨[], ids, rfl, gives_pure.mpr nofun⟩
    · refine gives_except.mpr ⟨some (.arr items), document?_eq_some.mpr h, gives_bind.mpr ?_⟩
      obtain ⟨rules, ids', hrun, hown⟩ :=
        (rulesOf_gives (folder.child "rules.json") ids).mp ⟨items, rfl, hitems⟩
      exact ⟨rules, ids', hrun, gives_pure.mpr hown⟩
  · rintro ⟨found, hfound, h⟩
    cases found with
    | none =>
      obtain ⟨_, _, ⟨⟩, -⟩ := h
    | some doc =>
      obtain ⟨resources, hresources, h⟩ := gives_except.mp h
      obtain ⟨account, haccount, h⟩ := gives_except.mp h
      obtain ⟨rules, hrules, h⟩ := gives_except.mp h
      obtain ⟨extra, ids', hrun, h⟩ := gives_bind.mp h
      have hown := gives_pure.mp h
      obtain ⟨items, hitems⟩ := resourcesOf_ok.mp ⟨resources, hresources⟩
      refine ⟨⟨doc, items, document?_eq_some.mp hfound, hitems⟩,
        exists_document?.mp ⟨account, haccount⟩, ?_⟩
      cases rules with
      | none => exact .inl (document?_eq_none.mp hrules)
      | some doc =>
        obtain ⟨items, rfl, hitems⟩ := (rulesOf_gives _ ids).mpr ⟨extra, ids', hrun, hown⟩
        exact .inr ⟨items, document?_eq_some.mp hrules, hitems⟩

end AccountFiles

end CloudAudit
