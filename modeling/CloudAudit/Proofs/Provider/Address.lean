import CloudAudit.Proofs.Provider.Retries
import CloudAudit.Proofs.Result
import CloudAudit.Proofs.Text.Percent

namespace CloudAudit

namespace Url

/-- What is left of the beginning of a URL: blanks go, and the word `URL:` with the blanks after
it. -/
def front (cs : List Char) : List Char :=
  let cs := cs.dropWhile Text.isBlank
  if cs.take 4 = ['U', 'R', 'L', ':'] then (cs.drop 4).dropWhile Text.isBlank else cs

variable {base mid word : List Char} {c : Char} {url sent : String}

theorem prefix_append_slash (h : '/' ∉ word) : word <+: base ++ '/' :: mid ↔ word <+: base := by
  constructor
  · rintro ⟨rest, he⟩
    obtain ⟨more, hbase, -⟩ | ⟨more, hword, hmore⟩ := List.append_eq_append_iff.mp he
    · exact ⟨more, hbase.symm⟩
    · cases more with
      | nil => exact ⟨[], by rw [hword, List.append_nil, List.append_nil]⟩
      | cons c more =>
        obtain ⟨rfl, -⟩ := List.cons.inj hmore
        exact absurd (hword ▸ List.mem_append_right _ List.mem_cons_self) h
  · intro hp
    exact hp.trans (List.prefix_append _ _)

theorem trimChars_ended (hc : Text.isBlank c = false) (base mid : List Char) :
    Text.trimChars (base ++ '/' :: (mid ++ [c])) =
      base.dropWhile Text.isBlank ++ '/' :: (mid ++ [c]) := by
  change (List.dropWhile Text.isBlank _).rdropWhile Text.isBlank = _
  rw [Text.dropWhile_append_cons (by decide), Text.rdropWhile_append_cons (by decide),
    List.rdropWhile_concat_neg _ _ _ (ne_true_of_eq_false hc)]

theorem unwrap_ended (hc : Text.isBlank c = false) (hangle : c ≠ '>') (base mid : List Char) :
    unwrap (base ++ '/' :: (mid ++ [c])) = front base ++ '/' :: (mid ++ [c]) := by
  have hlast (cs : List Char) : ¬ ((cs ++ '/' :: (mid ++ [c])).head? = some '<' ∧
      (cs ++ '/' :: (mid ++ [c])).getLast? = some '>') := by
    rintro ⟨-, h⟩
    rw [← List.cons_append, ← List.append_assoc, List.getLast?_concat, Option.some.injEq] at h
    exact hangle h
  have hword (cs : List Char) : (cs ++ '/' :: (mid ++ [c])).take 4 = ['U', 'R', 'L', ':'] ↔
      cs.take 4 = ['U', 'R', 'L', ':'] := by
    have hp : ['U', 'R', 'L', ':'] <+: cs ++ '/' :: (mid ++ [c]) ↔ ['U', 'R', 'L', ':'] <+: cs :=
      prefix_append_slash (by decide)
    rw [List.prefix_iff_eq_take, List.prefix_iff_eq_take] at hp
    exact eq_comm.trans (hp.trans eq_comm)
  rw [unwrap, trimChars_ended hc, if_neg (hlast _), front]
  by_cases h : (base.dropWhile Text.isBlank).take 4 = ['U', 'R', 'L', ':']
  · have hlength : 4 ≤ (base.dropWhile Text.isBlank).length := by
      have hfour : ((base.dropWhile Text.isBlank).take 4).length = 4 := congrArg List.length h
      rw [List.length_take] at hfour
      omega
    rw [if_pos ((hword _).mpr h), if_pos h, List.drop_append_of_le_length hlength,
      trimChars_ended hc]
  · rw [if_neg (fun ht => h ((hword _).mp ht)), if_neg h]

theorem normalize_eq_ok (h : normalize url = .ok sent)
    (hlast : (unwrap url.toList).getLast? ≠ some '#') :
    sent = String.ofList (unwrap url.toList) := by
  rw [normalize] at h
  generalize unwrap url.toList = cs at h hlast
  have hwhole : (if (splitFragment cs).2.isEmpty then (splitFragment cs).1
      else (splitFragment cs).1 ++ '#' :: (splitFragment cs).2) = cs := by
    rw [splitFragment]
    split
    case h_2 => rfl
    case h_1 fragment address hcut =>
      obtain ⟨he, -⟩ := Text.cutAt?_eq_some hcut
      have he : cs = address.reverse ++ '#' :: fragment.reverse := by
        rw [← List.reverse_reverse cs, he, List.reverse_append, List.reverse_cons,
          List.append_assoc, List.singleton_append]
      cases fragment with
      | nil =>
        rw [he] at hlast
        exact absurd List.getLast?_concat hlast
      | cons c fragment =>
        rw [he, if_neg]
        rw [List.isEmpty_iff, List.reverse_eq_nil_iff]
        exact List.cons_ne_nil c fragment
  dsimp only at h
  rw [hwhole] at h
  split at h
  case isTrue =>
    cases h
    rfl
  case isFalse => cases h

end Url

namespace Client

variable {service : WebService} {config : ClientConfig} {path cluster : String} {params : Fields}
  {w : Wire} {r : HttpRequest}

theorem get_requests (b : Bounds) (service : WebService) (config : ClientConfig) (path : String)
    (params : Fields) (w : Wire) :
    ∃ sent, (get b service config path params w).2.requests = w.requests ++ sent ∧
      (∀ r ∈ sent, requestFor config path params = .ok r) ∧
      ∀ r, requestFor config path params = .ok r → sent ≠ [] := by
  rw [get_eq]
  cases hr : requestFor config path params with
  | error message => exact ⟨[], (List.append_nil _).symm, nofun, nofun⟩
  | ok r =>
    obtain ⟨k, hk⟩ := exists_retried (tries service r w) config.maxRetries.toNat
    dsimp only
    rw [attempt_retried hk]
    refine ⟨.replicate (k + 1) r, rfl, ?_, ?_⟩
    · intro r' hmem
      rw [List.eq_of_mem_replicate hmem]
    · intro _ _ hnil
      cases hnil

theorem call_controlPlaneAcl_wire (b : Bounds) (service : WebService) (config : ClientConfig)
    (cluster : String) (w : Wire) :
    ((provider b service config).call (.controlPlaneAcl cluster) w).2 =
      (get b service config (aclPath cluster) [] w).2 := by
  rcases hg : get b service config (aclPath cluster) [] w with ⟨x, w'⟩
  change (call b service config (.controlPlaneAcl cluster) w).2 = w'
  rw [call, bind_apply hg]
  rfl

/-- The address under which the access list of a cluster is asked for. -/
def aclAddress (config : ClientConfig) (cluster : String) : String :=
  String.ofList (Url.front (Text.dropTrailing '/' config.baseUrl).toList) ++ aclPath cluster

theorem toList_aclPath (cluster : String) :
    ∃ mid, (aclPath cluster).toList = '/' :: (mid ++ ['l']) := by
  refine ⟨"lke/clusters/".toList ++ (Text.percentEncode cluster).toList ++
    "/control_plane_ac".toList, ?_⟩
  rw [aclPath, String.toList_append, String.toList_append, List.append_assoc _ _ ['l']]
  rfl

theorem toList_url_aclPath (base cluster : String) :
    (url base (aclPath cluster) []).toList =
      (Text.dropTrailing '/' base).toList ++ (aclPath cluster).toList := by
  obtain ⟨mid, hmid⟩ := toList_aclPath cluster
  have hhead : (aclPath cluster).toList.head? = some '/' := by rw [hmid]; rfl
  rw [url, if_pos hhead, String.toList_append, String.toList_append]
  exact List.append_nil _

theorem url_of_requestFor (h : requestFor config (aclPath cluster) [] = .ok r) :
    r.url = aclAddress config cluster := by
  obtain ⟨sent, hsent, rfl⟩ := Result.map_eq_ok.mp h
  obtain ⟨mid, hmid⟩ := toList_aclPath cluster
  have hunwrap : Url.unwrap (url config.baseUrl (aclPath cluster) []).toList =
      Url.front (Text.dropTrailing '/' config.baseUrl).toList ++ (aclPath cluster).toList := by
    rw [toList_url_aclPath, hmid]
    exact Url.unwrap_ended (by decide) (by decide) _ _
  have hlast : (Url.unwrap (url config.baseUrl (aclPath cluster) []).toList).getLast? ≠
      some '#' := by
    rw [hunwrap, hmid, ← List.cons_append, ← List.append_assoc, List.getLast?_concat]
    decide
  change sent = _
  rw [Url.normalize_eq_ok hsent hlast, hunwrap, aclAddress, String.ofList_append,
    String.ofList_toList]

theorem aclAddress_injective (config : ClientConfig) : Function.Injective (aclAddress config) := by
  intro cluster cluster' h
  have hlist := congrArg String.toList h
  simp only [aclAddress, aclPath, String.toList_append, List.append_assoc,
    List.append_cancel_left_eq, List.append_cancel_right_eq] at hlist
  exact Text.percentEncode_injective (String.toList_inj.mp hlist)

/-- Whatever the identifier of a cluster holds, its access list is asked for under the base URL,
unwrapped and without slashes at its end, in a segment of its own: a text of unreserved characters
and escaped bytes, which is read back as the identifier. Two identifiers have two addresses. -/
theorem aclAddress_confined (b : Bounds) (service : WebService) (config : ClientConfig) :
    (∀ cluster w, ∃ q bytes sent,
      Text.Segment q.toList bytes ∧ (∀ c ∈ ['/', '?', '#', '&', ' '], c ∉ q.toList) ∧
      Text.percentDecode? q = some cluster ∧
      aclAddress config cluster =
        String.ofList (Url.front (Text.dropTrailing '/' config.baseUrl).toList) ++
          ("/lke/clusters/" ++ q ++ "/control_plane_acl") ∧
      ((provider b service config).call (.controlPlaneAcl cluster) w).2.requests =
        w.requests ++ sent ∧
      (∀ r ∈ sent, r.url = aclAddress config cluster) ∧
      (Url.Schemed config.baseUrl.toList → sent ≠ [])) ∧
    Function.Injective (aclAddress config) := by
  refine ⟨fun cluster w => ?_, aclAddress_injective config⟩
  have hsegment := Text.segment_percentEncode cluster
  obtain ⟨sent, hrequests, hsame, hsome⟩ := get_requests b service config (aclPath cluster) [] w
  refine ⟨Text.percentEncode cluster, _, sent, hsegment, ?_,
    Text.percentDecode?_percentEncode cluster, rfl, ?_, ?_, ?_⟩
  · have hdelimiters : ∀ c ∈ ['/', '?', '#', '&', ' '],
        Text.isUnreserved c = false ∧ c ≠ '%' := by decide
    intro c hc
    exact hsegment.not_mem (hdelimiters c hc).1 (hdelimiters c hc).2
  · rw [call_controlPlaneAcl_wire, hrequests]
  · intro r hr
    exact url_of_requestFor (hsame r hr)
  · intro hschemed
    obtain ⟨r, hr⟩ := exists_requestFor hschemed (aclPath cluster) []
    exact hsome r hr

/-- An identifier that would lead to another path and end the URL. -/
theorem aclAddress_confined_path :
    let config : ClientConfig := { baseUrl := "https://api.linode.test/v4/", token := "tok" }
    let out := (provider {} (fun _ _ => .success []) config).call (.controlPlaneAcl "../42?a#é") {}
    out.2.requests.map HttpRequest.url =
      ["https://api.linode.test/v4/lke/clusters/..%2F42%3Fa%23%C3%A9/control_plane_acl"] ∧
    ∃ r ∈ out.2.requests, r.url = aclAddress config "../42?a#é" := by
  intro config out
  have hbase : Url.Schemed config.baseUrl.toList :=
    ⟨"https".toList, "//api.linode.test/v4/".toList, by decide, by decide,
      List.all_eq_true.mp (by decide)⟩
  obtain ⟨-, -, sent, -, -, -, -, hrequests, hurl, hsome⟩ :=
    (aclAddress_confined {} (fun _ _ => .success []) config).1 "../42?a#é" {}
  obtain ⟨r, rest, rfl⟩ := List.exists_cons_of_ne_nil (hsome hbase)
  refine ⟨by decide +kernel, r, ?_, hurl r List.mem_cons_self⟩
  rw [hrequests]
  exact List.mem_cons_self

/-- A base URL with a blank in front: the address does not begin with the base. -/
theorem aclAddress_confined_blank :
    let config : ClientConfig := { baseUrl := " https://api.linode.test/v4", token := "tok" }
    let out := (provider {} (fun _ _ => .success []) config).call (.controlPlaneAcl "42") {}
    out.2.requests.map HttpRequest.url =
      ["https://api.linode.test/v4/lke/clusters/42/control_plane_acl"] ∧
    ∃ r ∈ out.2.requests, ∀ q, r.url ≠
      Text.dropTrailing '/' config.baseUrl ++ ("/lke/clusters/" ++ q ++ "/control_plane_acl") := by
  intro config out
  have hurl : out.2.requests.map HttpRequest.url =
      ["https://api.linode.test/v4/lke/clusters/42/control_plane_acl"] := by decide +kernel
  obtain ⟨r, hr⟩ : ∃ r, r ∈ out.2.requests := by
    apply List.exists_mem_of_ne_nil
    intro hnil
    rw [hnil] at hurl
    cases hurl
  have hstart : r.url.toList.head? = some 'h' := by
    have hmem : r.url ∈ out.2.requests.map HttpRequest.url := List.mem_map_of_mem hr
    rw [hurl, List.mem_singleton] at hmem
    rw [hmem]
    decide +kernel
  refine ⟨hurl, r, hr, fun q he => ?_⟩
  have hbase : (Text.dropTrailing '/' config.baseUrl).toList =
      ' ' :: "https://api.linode.test/v4".toList := by decide +kernel
  rw [he, String.toList_append, hbase] at hstart
  cases hstart

end Client

end CloudAudit
