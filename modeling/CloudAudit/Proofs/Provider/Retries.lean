import CloudAudit.Proofs.Provider.Client

namespace CloudAudit

namespace HttpOutcome

/-- The failures that may pass: an overloaded or broken service, and a connection that fails. -/
inductive Passing : HttpOutcome → Prop
  | service {status reason body text} (hs : status ∈ ([429, 500, 502, 503, 504] : List Int))
    (ht : String.fromUTF8? ⟨body.toArray⟩ = some text) : Passing (.refusal status reason body)
  | connection {kind message} (h : kind.isConnection = true) : Passing (.broken kind message)

/-- What an outcome that can be read tells the caller: a document, or why there is none. -/
inductive Tells (b : Bounds) : HttpOutcome → Except ProviderFault Json → Prop
  | nothing : Tells b (.success []) (.ok (.obj []))
  | document {body text v} (ht : String.fromUTF8? ⟨body.toArray⟩ = some text)
    (hp : Json.parse b.nesting text = .ok v) : Tells b (.success body) (.ok v)
  | refusal {status reason body text} (ht : String.fromUTF8? ⟨body.toArray⟩ = some text) :
    Tells b (.refusal status reason body) (.error (.refused ⟨status, reason, some text⟩))
  | connection {kind message} (h : kind.isConnection = true) :
    Tells b (.broken kind message) (.error (.refused ⟨0, kind.sentence message, none⟩))

theorem tells_of_parse {b : Bounds} {text : String} {v : Json}
    (h : Json.parse b.nesting text = .ok v) : Tells b (.success text.toUTF8.data.toList) (.ok v) :=
  .document (Text.fromUTF8?_toUTF8 text) h

end HttpOutcome

namespace Client

variable {b : Bounds} {service : WebService} {config : ClientConfig} {path : String}
  {params : Fields}
  {o : HttpOutcome} {x : Except ProviderFault Json} {w : Wire} {r : HttpRequest} {k : Nat}

/-! ### One outcome -/

theorem isTransient_iff : isTransient o = true ↔ o.Passing := by
  cases o with
  | success body => exact iff_of_false Bool.false_ne_true nofun
  | truncated status reason kind message => exact iff_of_false Bool.false_ne_true nofun
  | broken kind message =>
    refine ⟨fun h => .connection h, fun h => ?_⟩
    cases h with
    | connection h => exact h
  | refusal status reason body =>
    rw [isTransient, Bool.and_eq_true, List.contains_iff_mem]
    constructor
    · rintro ⟨hs, hd⟩
      cases ht : String.fromUTF8? ⟨body.toArray⟩ with
      | none =>
        rw [decode_of_none ht] at hd
        cases hd
      | some text => exact .service hs ht
    · intro h
      cases h with
      | service hs ht =>
        rw [decode_of_some ht]
        exact ⟨hs, rfl⟩

theorem settle_of_tells (h : o.Tells b x) : settle b o = x := by
  cases h with
  | nothing => rfl
  | @document body text v ht hp =>
    have hne : text ≠ "" := by
      rintro rfl
      cases hp
    rw [settle, document, decode_of_some ht]
    change (if _ then _ else _) = _
    rw [if_neg hne, hp]
    rfl
  | refusal ht =>
    rw [settle, decode_of_some ht]
    rfl
  | connection h => rw [settle, if_pos h]

/-! ### A sequence of tries -/

/-- The outcomes that a request meets, one try after the other. -/
def tries (service : WebService) (r : HttpRequest) (w : Wire) (i : Nat) : HttpOutcome :=
  service (w.requests.length + i) r

/-- The number of failures to pass over: as many as the outcomes start with, up to a limit. -/
structure Retried (outcomes : Nat → HttpOutcome) (limit k : Nat) : Prop where
  le : k ≤ limit
  passing : ∀ i < k, (outcomes i).Passing
  last : k < limit → ¬ (outcomes k).Passing

theorem exists_retried (outcomes : Nat → HttpOutcome) (limit : Nat) :
    ∃ k, Retried outcomes limit k := by
  induction limit with
  | zero => exact ⟨0, Nat.le_refl 0, nofun, nofun⟩
  | succ limit ih =>
    obtain ⟨k, hk⟩ := ih
    obtain hlt | rfl := Nat.lt_or_eq_of_le hk.le
    · exact ⟨k, Nat.le_succ_of_le hk.le, hk.passing, fun _ => hk.last hlt⟩
    · by_cases hp : (outcomes k).Passing
      · refine ⟨k + 1, Nat.le_refl _, fun i hi => ?_, fun h => absurd h (Nat.lt_irrefl _)⟩
        obtain hi | rfl := Nat.lt_succ_iff_lt_or_eq.mp hi
        · exact hk.passing i hi
        · exact hp
      · exact ⟨k, Nat.le_succ k, hk.passing, fun _ => hp⟩

/-- The wire after a request was sent once more than there were failures to pass over. -/
def afterTries (w : Wire) (r : HttpRequest) (halfSeconds k : Nat) : Wire where
  requests := w.requests ++ .replicate (k + 1) r
  pauses := w.pauses ++ (List.range k).map (halfSeconds * Nat.pow 2 ·)

theorem pauses_succ (halfSeconds k : Nat) :
    (List.range (k + 1)).map (halfSeconds * Nat.pow 2 ·) =
      halfSeconds :: (List.range k).map (2 * halfSeconds * Nat.pow 2 ·) := by
  have hdouble (i : Nat) : halfSeconds * Nat.pow 2 (i + 1) = 2 * halfSeconds * Nat.pow 2 i := by
    rw [Nat.pow_eq, Nat.pow_eq, Nat.pow_succ', ← Nat.mul_assoc, Nat.mul_comm halfSeconds 2]
  rw [List.range_succ_eq_map, List.map_cons, List.map_map]
  congr 1
  · exact Nat.mul_one halfSeconds
  · exact List.map_congr_left fun i _ => hdouble i

theorem afterTries_pause (w : Wire) (r : HttpRequest) (halfSeconds k : Nat) :
    afterTries ⟨w.requests ++ [r], w.pauses ++ [halfSeconds]⟩ r (2 * halfSeconds) k =
      afterTries w r halfSeconds (k + 1) := by
  simp only [afterTries, pauses_succ, List.append_assoc, List.singleton_append,
    ← List.replicate_succ]

/-- Failures that may pass are passed over, with pauses that double. -/
theorem attempt_retried {retries halfSeconds : Nat} (h : Retried (tries service r w) retries k) :
    attempt b service r retries halfSeconds w =
      (settle b (tries service r w k), afterTries w r halfSeconds k) := by
  obtain ⟨hle, hpassing, hlast⟩ := h
  induction k generalizing retries halfSeconds w with
  | zero =>
    have hend : afterTries w r halfSeconds 0 = { w with requests := w.requests ++ [r] } := by
      rw [afterTries, List.range_zero, List.map_nil, List.append_nil]
      rfl
    rw [hend]
    cases retries with
    | zero => exact attempt_zero rfl
    | succ retries =>
      have hno : ¬ isTransient (tries service r w 0) = true :=
        fun ht => hlast (Nat.succ_pos retries) (isTransient_iff.mp ht)
      exact (attempt_succ rfl).trans (if_neg hno)
  | succ k ih =>
    obtain ⟨retries, rfl⟩ := Nat.exists_eq_add_one_of_ne_zero (Nat.ne_zero_of_lt hle)
    -- The first failure passes; what is left is met from the wire after it.
    have hfirst : isTransient (tries service r w 0) = true :=
      isTransient_iff.mpr (hpassing 0 (Nat.succ_pos k))
    have hnext (i : Nat) : tries service r ⟨w.requests ++ [r], w.pauses ++ [halfSeconds]⟩ i =
        tries service r w (i + 1) := by
      rw [tries, tries, List.length_append, List.length_singleton, Nat.add_assoc, Nat.add_comm 1]
    have hrest : attempt b service r retries (2 * halfSeconds)
        ⟨w.requests ++ [r], w.pauses ++ [halfSeconds]⟩ = _ :=
      ih (Nat.le_of_succ_le_succ hle)
        (fun i hi => hnext i ▸ hpassing (i + 1) (Nat.succ_lt_succ hi))
        (fun hk => hnext k ▸ hlast (Nat.succ_lt_succ hk))
    rw [hnext, afterTries_pause] at hrest
    exact (attempt_succ rfl).trans ((if_pos hfirst).trans hrest)

/-! ### A whole document -/

/-- The request for a document, or the sentence that says why it cannot be sent. -/
def requestFor (config : ClientConfig) (path : String) (params : Fields) :
    Except String HttpRequest :=
  (Url.normalize (url config.baseUrl path params)).map fun sent =>
    ⟨sent, config.token, config.timeoutSeconds⟩

theorem get_eq : get b service config path params w =
    match requestFor config path params with
    | .ok r => attempt b service r config.maxRetries.toNat 1 w
    | .error message => (.error (.broken .value message), w) := by
  delta get requestFor
  cases Url.normalize (url config.baseUrl path params) with
  | error message => rfl
  | ok sent => rfl

theorem exists_requestFor (h : Url.Schemed config.baseUrl.toList) (path : String)
    (params : Fields) : ∃ r, requestFor config path params = .ok r := by
  obtain ⟨sent, hsent⟩ := url_sendable h path params
  rw [requestFor, hsent]
  exact ⟨_, rfl⟩

/-- A document is asked for once more than there are failures to pass over, with pauses that double
from half a second on, and the last outcome alone decides. Nothing is sent to a URL that has no
scheme. -/
theorem get_retried (b : Bounds) (service : WebService) (config : ClientConfig) (path : String)
    (params : Fields) (w : Wire) :
    (∀ message, requestFor config path params = .error message →
      ∃ f, get b service config path params w = (.error f, w)) ∧
    ∀ r, requestFor config path params = .ok r → (∀ n, ∃ x, (service n r).Tells b x) →
      ∃ k x, Retried (tries service r w) config.maxRetries.toNat k ∧
        (tries service r w k).Tells b x ∧
        get b service config path params w = (x, {
          requests := w.requests ++ .replicate (k + 1) r
          pauses := w.pauses ++ (List.range k).map (Nat.pow 2) }) := by
  constructor
  · intro message h
    rw [get_eq, h]
    exact ⟨_, rfl⟩
  · intro r hr ht
    obtain ⟨k, hk⟩ := exists_retried (tries service r w) config.maxRetries.toNat
    obtain ⟨x, hx⟩ : ∃ x, (tries service r w k).Tells b x := ht (w.requests.length + k)
    refine ⟨k, x, hk, hx, ?_⟩
    rw [get_eq, hr]
    dsimp only
    rw [attempt_retried hk, settle_of_tells hx]
    simp only [afterTries, Nat.one_mul]

/-- A service that is overloaded, then a connection that is reset, then an empty document. -/
theorem get_retried_twice :
    let b : Bounds := {}
    let service : WebService := fun n _ =>
      if n = 0 then .refusal 503 "busy" []
      else if n = 1 then .broken .reset "reset by peer"
      else .success "\x7b\x7d".toUTF8.data.toList
    let config : ClientConfig := { baseUrl := "https://api.linode.test/v4", token := "tok" }
    let out := get b service config "account/users" [] {}
    out.1 = .ok (.obj []) ∧ out.2.requests.length = 3 ∧ out.2.pauses = [1, 2] := by
  intro b service config out
  have hbase : Url.Schemed config.baseUrl.toList :=
    ⟨"https".toList, "//api.linode.test/v4".toList, by decide, by decide,
      List.all_eq_true.mp (by decide)⟩
  obtain ⟨r, hr⟩ := exists_requestFor hbase "account/users" []
  have hparse : Json.parse b.nesting "\x7b\x7d" = .ok (.obj []) := by
    rw [Json.parse, String.toList_ofList]
    rfl
  have hdocument := HttpOutcome.tells_of_parse hparse
  have hlater (n : Nat) : service (n + 2) r = .success "\x7b\x7d".toUTF8.data.toList := rfl
  have htells (n : Nat) : ∃ x, (service n r).Tells b x := by
    rcases n with _ | _ | n
    · exact ⟨_, .refusal (Text.fromUTF8?_toUTF8 "")⟩
    · exact ⟨_, .connection rfl⟩
    · exact ⟨_, hlater n ▸ hdocument⟩
  obtain ⟨k, x, -, hx, hout⟩ := (get_retried b service config "account/users" [] {}).2 r hr htells
  have hlength : out.2.requests.length = 3 := by decide +kernel
  have hk : k = 2 := by
    rw [show out = _ from hout] at hlength
    simpa using hlength
  subst hk
  have hx : x = .ok (.obj []) := (settle_of_tells hx).symm.trans (settle_of_tells hdocument)
  exact ⟨(congrArg Prod.fst hout).trans hx, hlength, by decide +kernel⟩

/-- A base URL without a scheme: nothing is sent, although the service would answer. -/
theorem get_retried_schemeless :
    let b : Bounds := {}
    let service : WebService := fun _ _ => .success []
    let config : ClientConfig := { baseUrl := "api.linode.test/v4", token := "tok" }
    let out := get b service config "account/users" [("page", .int 2)] {}
    (∀ n r, (service n r).Tells b (.ok (.obj [])) ∧ ¬ (service n r).Passing) ∧
      out.2.requests.length ≠ 0 + 1 ∧ out.1.map (fun _ => ()) ≠ .ok () := by
  intro b service config out
  refine ⟨fun n r => ⟨.nothing, nofun⟩, by decide +kernel, by decide +kernel⟩

end Client

end CloudAudit
