import CloudAudit.Proofs.Service.Activation
import CloudAudit.Proofs.Store.Refusals
import CloudAudit.Service.Api

namespace CloudAudit

open Time (Moment)

variable {σ : Type}

/-! ### Documents that can be written -/

mutual

theorem isWritable_finite : (v : Json) → v.finite.isWritable = true
  | .null | .bool _ | .int _ | .str _ => rfl
  | .float x => by
    rw [Json.finite]
    split
    case isTrue h => exact h
    case isFalse => rfl
  | .arr items => allWritable_finiteItems items
  | .obj fields => allFieldsWritable_finiteFields fields

theorem allWritable_finiteItems : (items : List Json) → allWritable (finiteItems items) = true
  | [] => rfl
  | v :: rest => by
    rw [finiteItems, allWritable, isWritable_finite v, allWritable_finiteItems rest]
    rfl

theorem allFieldsWritable_finiteFields : (fields : List (String × Json)) →
    allFieldsWritable (finiteFields fields) = true
  | [] => rfl
  | (_, v) :: rest => by
    rw [finiteFields, allFieldsWritable, isWritable_finite v, allFieldsWritable_finiteFields rest]
    rfl

end

@[simp]
theorem isWritable_ofOption (s : Option String) : (Json.ofOption s).isWritable = true := by
  cases s <;> rfl

@[simp]
theorem isWritable_ofMoment? (m : Option Moment) : (Json.ofMoment? m).isWritable = true := by
  cases m <;> rfl

theorem allWritable_map_str (items : List String) : allWritable (items.map .str) = true := by
  induction items with
  | nil => rfl
  | cons s items ih => exact ih

theorem Finding.isWritable_toJson (f : Finding) : f.toJson.isWritable = true := by
  simp [toJson, Json.isWritable, allFieldsWritable]

theorem Note.isWritable_toJson (n : Note) : n.toJson.isWritable = true := by
  simp [toJson, Json.isWritable, allFieldsWritable]

theorem Rule.isWritable_toJson (r : Rule) : r.toJson.isWritable = true := by
  simp [toJson, Json.isWritable, allFieldsWritable, allWritable_map_str,
    allFieldsWritable_finiteFields]

theorem AccountRule.isWritable_toJson (v : AccountRule) : v.toJson.isWritable = true := by
  simp [toJson, Json.isWritable, allFieldsWritable, Rule.isWritable_toJson]

/-! ### What requests ask for -/

namespace Action

/-- A note is to be added whose text is empty or all blank. -/
def IsBlankNote : Action σ → Prop
  | .addNote _ text _ _ => ∀ c ∈ text.toList, Text.isBlank c = true
  | _ => False

/-- A store does not have what an action is addressed to: the finding, the note, the profile, or a
rule that the account sees. -/
def Misses (store : Store) : Action σ → Prop
  | .acknowledge id _ _ _ | .unacknowledge id | .addNote id _ _ _ =>
    ∀ a, ∀ f ∈ store.findingsOf a, f.id ≠ id
  | .deleteNote id => ∀ n ∈ store.notes, n.id ≠ id
  | .toggleRule a id _ _ => ∀ r ∈ store.rules, r.id = id → r.visibleTo a = false
  | .applyProfile _ id _ => ∀ p ∈ store.profiles, p.id ≠ id
  | .evaluate .. | .registerRules .. => False

/-- The status of the response to a request that is done. -/
def doneStatus : Action σ → Nat
  | .addNote .. => 201
  | .deleteNote _ => 204
  | _ => 200

theorem doneStatus_lt (act : Action σ) : act.doneStatus < 300 := by
  unfold doneStatus
  split <;> decide

end Action

/-- The change that is asked for on a route, if the body fits. -/
def Route.action? (b : Bounds) (now : Moment) (body : String) : Route → Option (Action σ)
  | .toggleRule a id =>
    (Api.requireBody b Api.toggleRecord body).toOption.map fun isActive =>
      .toggleRule a id isActive now
  | .applyProfile a id => some (.applyProfile a id now)
  | .acknowledge id =>
    (Api.readBody b Api.acknowledgeRecord body).toOption.map fun body =>
      .acknowledge id (body.getD (none, none)).1 (body.getD (none, none)).2 now
  | .unacknowledge id => some (.unacknowledge id)
  | .addNote id =>
    (Api.requireBody b Api.noteRecord body).toOption.map fun body =>
      .addNote id body.1 body.2 now
  | .deleteNote id => some (.deleteNote id)
  | _ => none

/-- The change that a request asks for, if it asks for one and its body fits. -/
def Request.action? (b : Bounds) (now : Moment) (r : Request) : Option (Action σ) :=
  (Route.find r.method r.path).toOption.bind (Route.action? b now r.body)

namespace Api

/-- How a request for an action is answered. -/
inductive Answered (s : Service σ) (act : Action σ) (answer : Answer σ) : Prop
  | missing {response : Response} : act.Misses s.store → answer.1 = .ok response →
    response.status = 404 → answer.2.store = s.store → Answered s act answer
  | blank {response : Response} : ¬ act.Misses s.store → act.IsBlankNote →
    answer.1 = .ok response → response.status = 400 → answer.2.store = s.store →
    Answered s act answer
  | done {response : Response} : ¬ act.Misses s.store → ¬ act.IsBlankNote →
    answer.1 = .ok response → response.status = act.doneStatus → Answered s act answer

variable {s t : Service σ} {act : Action σ} {α : Type} {result : Except StoreFault (α × Store)}
  {toJson : α → Json} {now : Moment} {p : Pipeline σ} {r : Request}

theorem changing_answered {status : Nat} (ht : t.store = s.store) (hs : status = act.doneStatus)
    (hjson : ∀ x, (toJson x).isWritable = true)
    (hok : ∀ r, result = .ok r → ¬ act.Misses s.store ∧ ¬ act.IsBlankNote)
    (herror : ∀ f, result = .error f → f.isAbsence = true ∧ act.Misses s.store ∨
      f = .blankNote ∧ ¬ act.Misses s.store ∧ act.IsBlankNote) :
    Answered s act (changing t result status toJson) := by
  cases result with
  | ok r =>
    obtain ⟨hthere, htext⟩ := hok r rfl
    have hresponse : (changing t (.ok r) status toJson).1 =
        .ok ⟨status, .document (toJson r.1)⟩ := by
      rw [changing, written, if_pos (hjson r.1)]
    exact .done hthere htext hresponse hs
  | error f =>
    obtain ⟨habsent, hmissing⟩ | ⟨rfl, hthere, hblank⟩ := herror f rfl
    · have hresponse : (changing t (.error f) status toJson).1 =
          .ok (.failure 404 f.message) := by
        rw [changing, storeFailure, if_pos habsent]
      exact .missing hmissing hresponse rfl ht
    · have hresponse : (changing t (.error .blankNote) status toJson).1 =
          .ok (.failure 400 StoreFault.blankNote.message) := rfl
      exact .blank hthere hblank hresponse rfl ht

theorem changing_service (t : Service σ) (result : Except StoreFault (α × Store)) (status : Nat)
    (toJson : α → Json) : (changing t result status toJson).2 = t.adopt result := by
  cases result <;> rfl

theorem revision_answered {id : String} (h : s.store.FindingsFiled)
    (hmisses : act.Misses s.store ↔ ∀ a, ∀ f ∈ s.store.findingsOf a, f.id ≠ id)
    (hblank : ¬ act.IsBlankNote) (hs : act.doneStatus = 200)
    (ack : Finding → Option Acknowledgement) :
    Answered s act (changing s (do
      let f ← s.store.finding id
      let f := f.withAcknowledgement (ack f)
      return (f, ← s.store.updateFinding f)) 200 Finding.toJson) := by
  refine changing_answered rfl hs.symm Finding.isWritable_toJson ?_ ?_
  · intro r hr
    obtain ⟨f, hf, -⟩ := Result.bind_eq_ok.mp hr
    obtain ⟨hmem, hid⟩ := Store.mem_of_finding h hf
    exact ⟨fun hm => hmisses.mp hm f.accountId f hmem hid, hblank⟩
  · intro fault hfault
    obtain ⟨rfl, hno⟩ := Store.finding_error (Store.revision_error h ack hfault)
    exact .inl ⟨rfl, hmisses.mpr hno⟩

theorem addNote_answered {id text noteId : String} {author : Option String}
    (h : s.store.FindingsFiled) (ht : t.store = s.store) :
    Answered s (.addNote id text author now)
      (changing t (s.store.addNote id text author noteId now) 201 Note.toJson) := by
  refine changing_answered ht rfl Note.isWritable_toJson ?_ ?_
  · intro r hr
    obtain ⟨f, n, hf, hn, -⟩ := Store.addNote_ok hr
    obtain ⟨hmem, hid⟩ := Store.mem_of_finding h hf
    refine ⟨fun hm => hm f.accountId f hmem hid, fun hblank => ?_⟩
    cases hn.symm.trans (Note.create?_eq_none.mpr hblank)
  · intro fault hfault
    -- The finding is looked up before the text is read: blank text for no finding is answered 404.
    obtain he | ⟨⟨f, hf⟩, rfl⟩ := Store.addNote_error hfault
    · obtain ⟨rfl, hno⟩ := Store.finding_error he
      exact .inl ⟨rfl, hno⟩
    · obtain ⟨hmem, hid⟩ := Store.mem_of_finding h hf
      refine .inr ⟨rfl, fun hm => hm f.accountId f hmem hid, ?_⟩
      exact (Store.addNote_blank hf).mp hfault

theorem toggleRule_answered {a id : String} {isActive : Bool} (h : s.store.Keyed) :
    Answered s (.toggleRule a id isActive now)
      (changing s (s.store.toggleRule a id isActive now) 200 AccountRule.toJson) := by
  refine changing_answered rfl rfl AccountRule.isWritable_toJson ?_ ?_
  · intro r hr
    obtain ⟨rule, hmem, hid, hv, -, -⟩ := Store.toggleRule_ok hr
    exact ⟨fun hm => Bool.false_ne_true ((hm rule hmem hid).symm.trans hv), not_false⟩
  · intro fault hfault
    exact .inl (Store.toggleRule_error h hfault)

theorem applyProfile_answered {a id : String} :
    Answered s (.applyProfile a id now)
      (changing s (s.store.applyProfile a id now) 200 fun application =>
        .obj [("enabled", .int application.enabled), ("disabled", .int application.disabled)]) := by
  refine changing_answered rfl rfl (fun _ => rfl) ?_ ?_
  · intro r hr
    obtain ⟨profile, hp, -, -⟩ := Store.applyProfile_ok hr
    obtain ⟨hmem, hid⟩ := Table.lookup_ok hp
    exact ⟨fun hm => hm profile hmem hid, not_false⟩
  · intro fault hfault
    obtain ⟨rfl, hno⟩ := Store.applyProfile_error hfault
    exact .inl ⟨rfl, hno⟩

theorem deleteNote_answered (p : Pipeline σ) (now : Moment) (r : Request) (s : Service σ)
    (id : String) : Answered s (.deleteNote id) (answer p now r s (.deleteNote id)) ∧
      (answer p now r s (.deleteNote id)).2 = s.perform (.deleteNote id) := by
  rw [answer, Service.perform]
  cases h : s.store.deleteNote id with
  | ok store =>
    obtain ⟨n, hn, hid⟩ := Store.deleteNote_present h
    exact ⟨.done (fun hm => hm n hn hid) not_false rfl rfl, rfl⟩
  | error fault =>
    obtain ⟨rfl, hno⟩ := Store.deleteNote_error h
    exact ⟨.missing hno rfl rfl rfl, rfl⟩

/-- On its route a request is answered as the action that it asks for. -/
theorem answer_answered {route : Route} (hk : s.store.Keyed) (hf : s.store.FindingsFiled)
    (h : route.action? p.bounds now r.body = some act) :
    Answered s act (answer p now r s route) ∧ (answer p now r s route).2 = s.perform act := by
  cases route with
  | toggleRule a id =>
    obtain ⟨isActive, hbody, rfl⟩ := Result.of_map_toOption h
    rw [answer, hbody]
    exact ⟨toggleRule_answered hk, changing_service _ _ _ _⟩
  | applyProfile a id =>
    cases h
    exact ⟨applyProfile_answered, changing_service _ _ _ _⟩
  | acknowledge id =>
    obtain ⟨body, hbody, rfl⟩ := Result.of_map_toOption h
    rw [answer, hbody]
    refine ⟨revision_answered hf .rfl ?_ rfl _, changing_service _ _ _ _⟩
    exact fun h => h
  | unacknowledge id =>
    cases h
    refine ⟨revision_answered hf .rfl ?_ rfl fun _ => none, changing_service _ _ _ _⟩
    exact fun h => h
  | addNote id =>
    obtain ⟨body, hbody, rfl⟩ := Result.of_map_toOption h
    rw [answer, hbody]
    exact ⟨addNote_answered hf rfl, changing_service _ _ _ _⟩
  | deleteNote id =>
    cases h
    exact deleteNote_answered p now r s id
  | _ => cases h

theorem handle_answered (hk : s.store.Keyed) (hf : s.store.FindingsFiled)
    (h : r.action? p.bounds now = some act) :
    Answered s act (handle p now r s) ∧ (handle p now r s).2 = s.perform act := by
  rw [Request.action?] at h
  rw [handle]
  cases hroute : Route.find r.method r.path with
  | error miss =>
    rw [hroute] at h
    cases h
  | ok route =>
    rw [hroute] at h
    exact answer_answered hk hf h

end Api

/-- Whatever was done before, a request to acknowledge a finding, to take that back, to add or
delete a note, to switch a rule or to apply a profile has a response, and its status is 404 just
where the store does not have what the request is addressed to, 400 just where a note without text
is to be added to a finding that there is, and otherwise the status of what is done. What is refused
leaves the store as it is. -/
theorem handle_mutation {s : Service σ} {act : Action σ} {rules : List Rule}
    {profiles : List Profile} (hs : s.store = .ofCatalogue rules profiles)
    (acts : List (Action σ)) (p : Pipeline σ) (now : Moment) {r : Request}
    (h : r.action? p.bounds now = some act) :
    ∃ response, (Api.handle p now r (s.performAll acts)).1 = .ok response ∧
      (response.status = 404 ↔ act.Misses (s.performAll acts).store) ∧
      (response.status = 400 ↔
        ¬ act.Misses (s.performAll acts).store ∧ act.IsBlankNote) ∧
      (¬ act.Misses (s.performAll acts).store → ¬ act.IsBlankNote →
        response.status = act.doneStatus ∧
        (Api.handle p now r (s.performAll acts)).2 = (s.performAll acts).perform act) ∧
      (response.status = 404 ∨ response.status = 400 →
        (Api.handle p now r (s.performAll acts)).2.store = (s.performAll acts).store) := by
  have hk := Service.performAll_keyed (hs ▸ Store.ofCatalogue_keyed rules profiles) acts
  have hreach : (s.performAll acts).Reachable := by
    refine (Service.Reachable.start ?_).performAll acts
    rw [hs]
    rfl
  obtain ⟨hanswered, hservice⟩ := Api.handle_answered (p := p) hk hreach.findingsFiled h
  have hdone := act.doneStatus_lt
  cases hanswered with
  | @missing response hmissing hresponse hstatus hstore =>
    refine ⟨response, hresponse, iff_of_true hstatus hmissing, ?_, ?_, fun _ => hstore⟩
    · rw [hstatus]
      exact iff_of_false (by decide) fun h => h.1 hmissing
    · exact fun h => absurd hmissing h
  | @blank response hthere hblank hresponse hstatus hstore =>
    refine ⟨response, hresponse, ?_, iff_of_true hstatus ⟨hthere, hblank⟩, ?_, fun _ => hstore⟩
    · rw [hstatus]
      exact iff_of_false (by decide) hthere
    · exact fun _ h => absurd hblank h
  | @done response hthere htext hresponse hstatus =>
    rw [← hstatus] at hdone
    have hfound : response.status ≠ 404 := by omega
    have hfits : response.status ≠ 400 := by omega
    refine ⟨response, hresponse, iff_of_false hfound hthere,
      iff_of_false hfits fun h => htext h.2, fun _ _ => ⟨hstatus, hservice⟩, ?_⟩
    rintro (h | h)
    · exact absurd h hfound
    · exact absurd h hfits

/-- A note of two blanks is sent for the finding of a first run. -/
theorem handle_mutation_blank :
    let rule : Rule := ⟨"tags", "Tags", "", ["linode"], "has_tags", [], .warning, true, none, false⟩
    let p : Pipeline Unit := {
      inventory := InventoryTable.source ⟨[("a", [{ id := "x", type := "linode" }])], [], []⟩
      factory := fun _ outside => (.ok none, outside) }
    let now : Moment := ⟨2026, 3, 1, 9, 0, 0, 0, some 0⟩
    let s : Service Unit := { store := .ofCatalogue [rule] [], outside := () }
    let id := "00000000-0000-0000-0000-000000000001"
    let r : Request := {
      method := "POST", path := "/compliance/findings/" ++ id ++ "/notes"
      body := "\x7b\"note\": \"  \"\x7d" }
    r.action? p.bounds now = some (Action.addNote (σ := Unit) id "  " none now) ∧
    ∃ response, (Api.handle p now r (s.performAll [.evaluate p "a" now])).1 = .ok response ∧
      response.status = 400 ∧
      (Api.handle p now r (s.performAll [.evaluate p "a" now])).2.store =
        (s.performAll [.evaluate p "a" now]).store := by
  intro rule p now s id r
  have hroute : (Route.find r.method r.path).toOption = some (.addNote id) := by decide +kernel
  have hbody : (Api.requireBody p.bounds Api.noteRecord r.body).toOption = some ("  ", none) := by
    decide +kernel
  have hr : r.action? p.bounds now = some (Action.addNote (σ := Unit) id "  " none now) := by
    rw [Request.action?, hroute, Option.bind_some, Route.action?, hbody]
    rfl
  have hfound : ∃ f ∈ (s.performAll [.evaluate p "a" now]).store.findingsOf "a", f.id = id := by
    decide +kernel
  obtain ⟨f, hf, hid⟩ := hfound
  have htext : ∀ c ∈ "  ".toList, Text.isBlank c = true := List.all_eq_true.mp (by decide)
  obtain ⟨response, hresponse, -, hblank, -, hkept⟩ :=
    handle_mutation (rfl : s.store = .ofCatalogue [rule] []) [.evaluate p "a" now] p now hr
  have hstatus : response.status = 400 := hblank.mpr ⟨fun hm => hm "a" f hf hid, htext⟩
  exact ⟨hr, response, hresponse, hstatus, hkept (.inr hstatus)⟩

end CloudAudit
