import CloudAudit.Proofs.Json.Nesting
import CloudAudit.Proofs.Provider.Url

namespace CloudAudit

/-- The outcomes of the requests so far. -/
def Wire.outcomes (service : WebService) (w : Wire) : List HttpOutcome :=
  w.requests.zipIdx.map fun (r, n) => service n r

/-- The outcomes that reach the caller as something other than a value or a refusal, and as what. -/
inductive HttpOutcome.Escapes (b : Bounds) : HttpOutcome → ProviderFault → Prop
  | bytes {body} (h : String.fromUTF8? ⟨body.toArray⟩ = none) :
    Escapes b (.success body) .unreadableText
  | document {body s fault} (h : String.fromUTF8? ⟨body.toArray⟩ = some s) (hne : s ≠ "")
    (hp : Json.parse b.nesting s = .error fault) : Escapes b (.success body) (.unreadableJson fault)
  | refusalBytes {status reason body} (h : String.fromUTF8? ⟨body.toArray⟩ = none) :
    Escapes b (.refusal status reason body) .unreadableText
  | truncated {status reason kind message} :
    Escapes b (.truncated status reason kind message) (.broken kind message)
  | foreign {kind message} (h : kind.isConnection = false) :
    Escapes b (.broken kind message) (.broken kind message)

namespace HttpOutcome

/-- A body that opens more lists than can be read escapes, whatever it holds beside them. -/
theorem escapes_brackets (b : Bounds) (rest : List Char) :
    (success (String.ofList
      (List.replicate (b.nesting + 1) '[' ++ rest)).toUTF8.data.toList).Escapes b
        (.unreadableJson (.nestedTooDeep true)) := by
  refine .document (Text.fromUTF8?_toUTF8 _) ?_ (Json.parse_brackets b.nesting rest)
  intro h
  have hcs := congrArg String.toList h
  rw [String.toList_ofList, List.replicate_succ] at hcs
  cases hcs

end HttpOutcome

namespace Client

variable {b : Bounds} {service : WebService} {config : ClientConfig} {path : String}
  {o : HttpOutcome} {f : ProviderFault} {w w' : Wire}

/-! ### One outcome -/

theorem decode_of_none {body : List UInt8} (h : String.fromUTF8? ⟨body.toArray⟩ = none) :
    decode body = .error .unreadableText := by
  rw [decode, h]

theorem decode_of_some {body : List UInt8} {s : String}
    (h : String.fromUTF8? ⟨body.toArray⟩ = some s) : decode body = .ok s := by
  rw [decode, h]

theorem settle_of_escapes (h : o.Escapes b f) : settle b o = .error f := by
  cases h with
  | bytes h =>
    rw [settle, document, decode_of_none h]
    rfl
  | document h hne hp =>
    rw [settle, document, decode_of_some h]
    change (if _ then _ else _) = _
    rw [if_neg hne, hp]
    rfl
  | refusalBytes h =>
    rw [settle, decode_of_none h]
    rfl
  | truncated => rfl
  | foreign h => rw [settle, if_neg (by rw [h]; exact Bool.false_ne_true)]

theorem isTransient_of_escapes (h : o.Escapes b f) : isTransient o = false := by
  cases h with
  | bytes | document | truncated => rfl
  | refusalBytes h =>
    rw [isTransient, decode_of_none h]
    exact Bool.and_false _
  | foreign h => exact h

theorem not_refused_of_escapes (h : o.Escapes b f) (r : Refusal) : f ≠ .refused r := by
  cases h <;> exact nofun

theorem settle_cases (h : settle b o = .error f) : (∃ r, f = .refused r) ∨ o.Escapes b f := by
  cases o with
  | success body =>
    rw [settle, document] at h
    cases hs : String.fromUTF8? ⟨body.toArray⟩ with
    | none =>
      rw [decode_of_none hs] at h
      cases h
      exact .inr (.bytes hs)
    | some s =>
      rw [decode_of_some hs] at h
      change (if _ then _ else _) = _ at h
      split at h
      case isTrue => cases h
      case isFalse hne =>
        cases hp : Json.parse b.nesting s with
        | ok v =>
          rw [hp] at h
          cases h
        | error fault =>
          rw [hp] at h
          cases h
          exact .inr (.document hs hne hp)
  | refusal status reason body =>
    rw [settle] at h
    cases hs : String.fromUTF8? ⟨body.toArray⟩ with
    | none =>
      rw [decode_of_none hs] at h
      cases h
      exact .inr (.refusalBytes hs)
    | some s =>
      rw [decode_of_some hs] at h
      cases h
      exact .inl ⟨_, rfl⟩
  | truncated status reason kind message =>
    cases h
    exact .inr .truncated
  | broken kind message =>
    rw [settle] at h
    split at h
    case isTrue =>
      cases h
      exact .inl ⟨_, rfl⟩
    case isFalse hk =>
      cases h
      exact .inr (.foreign (Bool.eq_false_iff.mpr hk))

/-! ### One document -/

variable {r : HttpRequest} {retries halfSeconds : Nat} {x : Except ProviderFault Json}

theorem outcomes_send (hs : Wire.send service r w = (o, w')) :
    w'.outcomes service = w.outcomes service ++ [o] := by
  obtain ⟨rfl, rfl⟩ := Prod.mk.inj hs
  simp only [Wire.outcomes, List.zipIdx_append, List.zipIdx_singleton, List.map_append,
    List.map_cons, List.map_nil, Nat.zero_add]

theorem attempt_zero (hs : Wire.send service r w = (o, w')) :
    attempt b service r 0 halfSeconds w = (settle b o, w') := by
  obtain ⟨rfl, rfl⟩ := Prod.mk.inj hs
  rfl

theorem attempt_succ (hs : Wire.send service r w = (o, w')) :
    attempt b service r (retries + 1) halfSeconds w =
      if isTransient o then
        attempt b service r retries (2 * halfSeconds) (Wire.pause halfSeconds w').2
      else (settle b o, w') := by
  obtain ⟨rfl, rfl⟩ := Prod.mk.inj hs
  change (if isTransient (service w.requests.length r) then _ else _ : StateM Wire _) _ = _
  split <;> rfl

theorem attempt_ends (h : attempt b service r retries halfSeconds w = (x, w')) :
    ∃ passed last, w'.outcomes service = w.outcomes service ++ (passed ++ [last]) ∧
      (∀ o ∈ passed, isTransient o = true) ∧ x = settle b last := by
  induction retries generalizing halfSeconds w with
  | zero =>
    rcases hs : Wire.send service r w with ⟨o, w₁⟩
    rw [attempt_zero hs] at h
    cases h
    exact ⟨[], o, outcomes_send hs, nofun, rfl⟩
  | succ retries ih =>
    rcases hs : Wire.send service r w with ⟨o, w₁⟩
    rw [attempt_succ hs] at h
    split at h
    case isTrue ht =>
      obtain ⟨passed, last, ho, hp, hl⟩ := ih h
      refine ⟨o :: passed, last, ?_, ?_, hl⟩
      · have hpause : (Wire.pause halfSeconds w₁).2.outcomes service = w₁.outcomes service := rfl
        rw [ho, hpause, outcomes_send hs, List.append_assoc, List.singleton_append,
          List.cons_append]
      · intro o' ho'
        obtain rfl | ho' := List.mem_cons.mp ho'
        exacts [ht, hp o' ho']
    case isFalse =>
      cases h
      exact ⟨[], o, outcomes_send hs, nofun, rfl⟩

/-! ### A whole call -/

/-- Whether every URL that starts with a path under the base can be sent. -/
def Sendable (config : ClientConfig) (path : String) : Prop :=
  ∀ params, ∃ sent, Url.normalize (url config.baseUrl path params) = .ok sent

/-- What the outcomes received during a call for a path say about the reply. A call that is cut off
after `budget` documents is not over. -/
structure Contained (b : Bounds) (config : ClientConfig) (path : String) (budget : Nat)
    (received : List HttpOutcome) (reply : Reply) : Prop where
  refused : Sendable config path → (∀ o ∈ received, ∀ f, ¬ o.Escapes b f) →
    ∀ f, reply = .fault f → ∃ r, f = .refused r
  escaped : ∀ o ∈ received, ∀ f, o.Escapes b f → reply = .fault f ∧ ∀ r, f ≠ .refused r
  pending : reply = .pending → budget ≤ received.length

/-- A call that ends with a reply, contained by what it receives on the wire. -/
def Ends (b : Bounds) (service : WebService) (config : ClientConfig) (path : String)
    (budget : Nat) (w : Wire) (out : Reply × Wire) : Prop :=
  ∃ received, out.2.outcomes service = w.outcomes service ++ received ∧
    Contained b config path budget received out.1

variable {budget : Nat} {passed received : List HttpOutcome} {last : HttpOutcome} {params : Fields}

theorem not_escapes_of_passed (hp : ∀ o ∈ passed, isTransient o = true) (ho : o ∈ passed) :
    ¬ o.Escapes b f := by
  intro he
  have ht := hp o ho
  rw [isTransient_of_escapes he] at ht
  cases ht

theorem contained_unsendable {message : String}
    (hu : Url.normalize (url config.baseUrl path params) = .error message) :
    Contained b config path budget [] (.fault (.broken .value message)) where
  refused := by
    intro hsend
    obtain ⟨sent, hs⟩ := hsend params
    rw [hu] at hs
    cases hs
  escaped := nofun
  pending := nofun

theorem contained_settle (b : Bounds) (config : ClientConfig) (path : String) (budget : Nat)
    (hp : ∀ o ∈ passed, isTransient o = true) :
    Contained b config path budget (passed ++ [last]) (.ofResult (settle b last)) where
  refused := by
    intro _ hno f hf
    cases hl : settle b last with
    | ok v =>
      rw [hl] at hf
      cases hf
    | error f' =>
      rw [hl] at hf
      cases hf
      obtain hr | he := settle_cases hl
      · exact hr
      · exact absurd he (hno last (List.mem_append_right _ (List.mem_singleton.mpr rfl)) f)
  escaped := by
    intro o ho f he
    obtain ho | ho := List.mem_append.mp ho
    · exact absurd he (not_escapes_of_passed hp ho)
    · obtain rfl := List.mem_singleton.mp ho
      rw [settle_of_escapes he]
      exact ⟨rfl, not_refused_of_escapes he⟩
  pending := by
    intro h
    cases hl : settle b last <;> rw [hl] at h <;> cases h

theorem contained_answer (b : Bounds) (config : ClientConfig) (path : String) (budget : Nat)
    (v : Json) : Contained b config path budget [] (.answer v) where
  refused := nofun
  escaped := nofun
  pending := nofun

theorem Contained.after {v : Json} {reply : Reply} (hp : ∀ o ∈ passed, isTransient o = true)
    (hl : settle b last = .ok v) (h : Contained b config path budget received reply) :
    Contained b config path (budget + 1) (passed ++ [last] ++ received) reply where
  refused := fun hsend hno => h.refused hsend fun o ho => hno o (List.mem_append_right _ ho)
  escaped := by
    intro o ho f he
    obtain ho | ho := List.mem_append.mp ho
    · obtain ho | ho := List.mem_append.mp ho
      · exact absurd he (not_escapes_of_passed hp ho)
      · obtain rfl := List.mem_singleton.mp ho
        rw [settle_of_escapes he] at hl
        cases hl
    · exact h.escaped o ho f he
  pending := by
    intro hr
    have hb := h.pending hr
    simp only [List.length_append, List.length_singleton]
    omega

/-- Either the URL is refused and nothing is sent, or the last outcome decides. -/
theorem get_cases (h : get b service config path params w = (x, w')) :
    (∃ message, Url.normalize (url config.baseUrl path params) = .error message ∧
      x = .error (.broken .value message) ∧ w' = w) ∨
    ∃ passed last, w'.outcomes service = w.outcomes service ++ (passed ++ [last]) ∧
      (∀ o ∈ passed, isTransient o = true) ∧ x = settle b last := by
  -- The equation that Lean derives for the definition takes long to come by.
  delta get at h
  cases hn : Url.normalize (url config.baseUrl path params) with
  | error message =>
    simp only [hn] at h
    cases h
    exact .inl ⟨message, rfl, rfl, rfl⟩
  | ok sent =>
    simp only [hn] at h
    exact .inr (attempt_ends h)

theorem get_ends (h : get b service config path params w = (x, w')) (budget : Nat) :
    Ends b service config path budget w (.ofResult x, w') := by
  obtain ⟨message, hn, rfl, rfl⟩ | ⟨passed, last, ho, hp, rfl⟩ := get_cases h
  · exact ⟨[], (List.append_nil _).symm, contained_unsendable hn⟩
  · exact ⟨passed ++ [last], ho, contained_settle b config path budget hp⟩

variable {number : Nat} {found : List Json}

theorem bind_apply {σ α β : Type} {x : StateM σ α} {next : α → StateM σ β} {a : α} {s s' : σ}
    (h : x s = (a, s')) : (x >>= next) s = next a s' := by
  change (match x s with | (a, s) => next a s) = _
  rw [h]

theorem getPages_of_error
    (hg : get b service config path (pageParams config number) w = (.error f, w')) :
    getPages b service config path (budget + 1) number found w = (.fault f, w') := by
  rw [getPages, bind_apply hg]
  rfl

theorem getPages_of_ok {page : Json}
    (hg : get b service config path (pageParams config number) w = (.ok page, w')) :
    getPages b service config path (budget + 1) number found w =
      if isLastPage number page then (.answer (.arr (found ++ pageItems page)), w')
      else getPages b service config path budget (number + 1) (found ++ pageItems page) w' := by
  rw [getPages, bind_apply hg]
  dsimp only
  split <;> rfl

theorem getPages_ends (b : Bounds) (service : WebService) (config : ClientConfig) (path : String)
    (budget number : Nat) (found : List Json) (w : Wire) :
    Ends b service config path budget w (getPages b service config path budget number found w) := by
  induction budget generalizing number found w with
  | zero =>
    refine ⟨[], (List.append_nil _).symm, ?_⟩
    exact { refused := nofun, escaped := nofun, pending := fun _ => Nat.le_refl _ }
  | succ budget ih =>
    rcases hg : get b service config path (pageParams config number) w with ⟨x, w'⟩
    cases x with
    | error f =>
      rw [getPages_of_error hg]
      exact get_ends hg (budget + 1)
    | ok page =>
      obtain ⟨message, -, hx, -⟩ | ⟨passed, last, ho, hp, hl⟩ := get_cases hg
      · cases hx
      rw [getPages_of_ok hg]
      split
      case isTrue =>
        refine ⟨passed ++ [last] ++ [], by rw [List.append_nil]; exact ho, ?_⟩
        exact (contained_answer b config path budget _).after hp hl.symm
      case isFalse =>
        obtain ⟨received, hreceived, hc⟩ := ih (number + 1) (found ++ pageItems page) w'
        refine ⟨passed ++ [last] ++ received, ?_, hc.after hp hl.symm⟩
        rw [hreceived, ho, List.append_assoc]

def callPath : LiveCall → String
  | .users => "/account/users"
  | .logins => "/account/logins"
  | .controlPlaneAcl cluster => aclPath cluster

theorem call_ends (b : Bounds) (service : WebService) (config : ClientConfig) (c : LiveCall)
    (w : Wire) : Ends b service config (callPath c) b.pages w (call b service config c w) := by
  cases c with
  | users => exact getPages_ends b service config _ b.pages 1 [] w
  | logins => exact getPages_ends b service config _ b.pages 1 [] w
  | controlPlaneAcl cluster =>
    rcases hg : get b service config (aclPath cluster) [] w with ⟨x, w'⟩
    have hout : call b service config (.controlPlaneAcl cluster) w = (.ofResult x, w') := by
      rw [call, bind_apply hg]
      rfl
    rw [hout]
    exact get_ends hg b.pages

/-- Every document, list and live call ends with a value or a refusal, unless an outcome on the way
escapes or a URL cannot be sent; an outcome that escapes always ends the call. -/
theorem calls_contained (b : Bounds) (service : WebService) (config : ClientConfig) (w : Wire) :
    (∀ path params, Ends b service config path 1 w
      (Prod.map .ofResult id (get b service config path params w))) ∧
    (∀ path, Ends b service config path b.pages w (getAll b service config path w)) ∧
    ∀ c, Ends b service config (callPath c) b.pages w ((provider b service config).call c w) := by
  refine ⟨fun path params => ?_, fun path => ?_, fun c => ?_⟩
  · rcases hg : get b service config path params w with ⟨x, w'⟩
    exact get_ends hg 1
  · exact getPages_ends b service config path b.pages 1 [] w
  · exact call_ends b service config c w

theorem mem_outcomes (h : o ∈ w.outcomes service) : ∃ n r, o = service n r := by
  obtain ⟨⟨r, n⟩, -, rfl⟩ := List.mem_map.mp h
  exact ⟨n, r, rfl⟩

/-- A connection that is reset once, and then an access list that does not exist. -/
theorem calls_contained_missing :
    let b : Bounds := {}
    let service : WebService := fun n _ =>
      if n = 0 then .broken .reset "reset by peer" else .refusal 404 "Not Found" [0x7b, 0x7d]
    let config : ClientConfig := { baseUrl := "https://api.linode.test/v4", token := "tok" }
    let out := (provider b service config).call (.controlPlaneAcl "42") {}
    out.2.requests.length = 2 ∧ ∃ r, out.1 = .fault (.refused r) := by
  intro b service config out
  have hno : ∀ n r f, ¬ (service n r).Escapes b f := by
    intro n r f he
    by_cases hn : n = 0
    · rw [show service n r = .broken .reset "reset by peer" from if_pos hn] at he
      cases he with
      | foreign h => cases h
    · rw [show service n r = .refusal 404 "Not Found" [0x7b, 0x7d] from if_neg hn] at he
      cases he with
      | refusalBytes h => exact absurd h (by decide +kernel)
  obtain ⟨received, ho, hc⟩ := (calls_contained b service config {}).2.2 (.controlPlaneAcl "42")
  have hbase : Url.Schemed config.baseUrl.toList :=
    ⟨"https".toList, "//api.linode.test/v4".toList, by decide, by decide,
      List.all_eq_true.mp (by decide)⟩
  have hsend : Sendable config (callPath (.controlPlaneAcl "42")) := url_sendable hbase _
  have hall : ∀ o ∈ received, ∀ f, ¬ o.Escapes b f := by
    intro o hm
    obtain ⟨n, r, rfl⟩ := mem_outcomes (ho ▸ List.mem_append_right _ hm)
    exact hno n r
  have hfault : (match out.1 with | .fault _ => true | _ => false) = true := by decide +kernel
  refine ⟨by decide +kernel, ?_⟩
  cases hr : out.1 with
  | answer v =>
    rw [hr] at hfault
    cases hfault
  | fault f =>
    obtain ⟨r, rfl⟩ := hc.refused hsend hall f hr
    exact ⟨r, rfl⟩
  | pending =>
    rw [hr] at hfault
    cases hfault

theorem get_of_escapes {params : Fields} {sent : String}
    (hu : Url.normalize (url config.baseUrl path params) = .ok sent)
    (h : ∀ n r, (service n r).Escapes b f) (w : Wire) :
    (get b service config path params w).1 = .error f := by
  rcases hg : get b service config path params w with ⟨x, w'⟩
  obtain ⟨message, hn, -, -⟩ | ⟨passed, last, ho, -, rfl⟩ := get_cases hg
  · cases hu.symm.trans hn
  · have hlast : last ∈ w'.outcomes service := by
      rw [ho]
      exact List.mem_append_right _ (List.mem_append_right _ (List.mem_singleton.mpr rfl))
    obtain ⟨n, r, rfl⟩ := mem_outcomes hlast
    exact settle_of_escapes (h n r)

/-- A refusal whose body is no text does not reach the caller as one, and a document that is nested
too deep not as a value or a refusal. -/
theorem calls_contained_garbled :
    let b : Bounds := {}
    let deep := String.ofList
      (List.replicate (b.nesting + 1) '[' ++ List.replicate (b.nesting + 1) ']')
    let config : ClientConfig := { baseUrl := "https://api.linode.test/v4", token := "tok" }
    let out (o : HttpOutcome) : Except ProviderFault Json :=
      (get b (fun _ _ => o) config "account/users" [("page", .int 2)] {}).1
    out (.refusal 400 "x" [0xff]) = .error .unreadableText ∧
      out (.success deep.toUTF8.data.toList) = .error (.unreadableJson (.nestedTooDeep true)) ∧
      ∀ o ∈ [.refusal 400 "x" [0xff], .success deep.toUTF8.data.toList],
        ¬ ((∃ v, out o = .ok v) ∨ ∃ r, out o = .error (.refused r)) := by
  intro b deep config out
  have hu : Url.normalize (url config.baseUrl "account/users" [("page", .int 2)]) =
      .ok "https://api.linode.test/v4/account/users?page=2" := by decide +kernel
  have hgarbled : out (.refusal 400 "x" [0xff]) = .error .unreadableText :=
    get_of_escapes hu (fun _ _ => .refusalBytes (by decide +kernel)) {}
  have hescapes := HttpOutcome.escapes_brackets b (List.replicate (b.nesting + 1) ']')
  have hdeep : out (.success deep.toUTF8.data.toList) =
      .error (.unreadableJson (.nestedTooDeep true)) := by
    clear_value b
    exact get_of_escapes hu (fun _ _ => hescapes) {}
  refine ⟨hgarbled, hdeep, fun o ho => ?_⟩
  obtain rfl | ho := List.mem_cons.mp ho
  · rw [hgarbled]
    rintro (⟨v, ⟨⟩⟩ | ⟨r, ⟨⟩⟩)
  · obtain rfl := List.mem_singleton.mp ho
    rw [hdeep]
    rintro (⟨v, ⟨⟩⟩ | ⟨r, ⟨⟩⟩)

end Client

end CloudAudit
