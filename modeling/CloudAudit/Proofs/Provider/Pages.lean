import CloudAudit.Proofs.Provider.Retries

namespace CloudAudit

/-- What has gone over the wire: each request with its outcome. -/
def Wire.exchanges (service : WebService) (w : Wire) : List (HttpRequest × HttpOutcome) :=
  w.requests.zipIdx.map fun (r, n) => (r, service n r)

namespace HttpOutcome

/-- Whether the service has sent what it was asked for. -/
def isSuccess : HttpOutcome → Bool
  | .success _ => true
  | _ => false

/-- An outcome that shows a page: some items, and how many pages there are. -/
def ShowsPage (b : Bounds) (items : List Json) (total : Nat) (o : HttpOutcome) : Prop :=
  ∃ fields, o.Tells b (.ok (.obj fields)) ∧ Fields.get? fields "data" = some (.arr items) ∧
    Fields.get? fields "pages" = some (.int total)

variable {b : Bounds} {o : HttpOutcome} {v : Json}

theorem isSuccess_of_passing (h : o.Passing) : o.isSuccess = false := by
  cases h <;> rfl

theorem isSuccess_of_tells (h : o.Tells b (.ok v)) : o.isSuccess = true := by
  cases h <;> rfl

theorem ShowsPage.isSuccess {items : List Json} {total : Nat} (h : o.ShowsPage b items total) :
    o.isSuccess = true := by
  obtain ⟨fields, ht, -⟩ := h
  exact isSuccess_of_tells ht

end HttpOutcome

namespace Client

/-! ### The pages of a list -/

/-- The number of pages that a list is split into. -/
def pageTotal (size : Nat) (items : List Json) : Nat := (items.length + size - 1) / size

/-- The number of the last page to ask for; a list without pages is asked for once. -/
def lastPage (size : Nat) (items : List Json) : Nat := max 1 (pageTotal size items)

/-- The items on a page; the first page has number 1. -/
def itemsOn (size : Nat) (items : List Json) (number : Nat) : List Json :=
  (items.drop ((number - 1) * size)).take size

variable {size number : Nat} {items : List Json}

theorem take_append_itemsOn (h : 1 ≤ number) :
    items.take ((number - 1) * size) ++ itemsOn size items number = items.take (number * size) := by
  obtain ⟨number, rfl⟩ := Nat.exists_eq_add_of_le' h
  rw [itemsOn, ← List.take_add, Nat.add_sub_cancel, Nat.succ_mul]

theorem take_lastPage (h : 1 ≤ size) : items.take (lastPage size items * size) = items := by
  apply List.take_of_length_le
  have hceil : items.length ≤ pageTotal size items * size := by
    have hdiv := Nat.lt_div_mul_add (a := items.length + size - 1) (b := size) h
    rw [pageTotal]
    omega
  exact hceil.trans (Nat.mul_le_mul_right size (Nat.le_max_right 1 _))

theorem pageTotal_of_lt (h : 1 ≤ number) (hlt : number < lastPage size items) :
    number < pageTotal size items := by
  rw [lastPage] at hlt
  omega

variable {b : Bounds} {service : WebService} {config : ClientConfig} {path : String}
  {params : Fields}
  {w : Wire} {r : HttpRequest} {k failed n left : Nat} {fields : Fields} {total : Nat}

/-! ### One page -/

theorem pageItems_of_data (h : Fields.get? fields "data" = some (.arr items))
    (hobj : ∀ item ∈ items, item.shape = .obj) : pageItems (.obj fields) = items := by
  rw [pageItems, Json.get?, h]
  exact List.filter_eq_self.mpr fun item hm => decide_eq_true (hobj item hm)

theorem isLastPage_of_pages (h : Fields.get? fields "pages" = some (.int total)) :
    isLastPage number (.obj fields) = decide (total ≤ number) := by
  rw [isLastPage, pageCount?, h]
  exact decide_eq_decide.mpr Int.ofNat_le

theorem zipIdx_replicate (r : HttpRequest) (k n : Nat) :
    (List.replicate k r).zipIdx n = (List.range k).map fun i => (r, n + i) := by
  induction k generalizing n with
  | zero => rfl
  | succ k ih =>
    rw [List.replicate_succ, List.zipIdx_cons, ih, List.range_succ_eq_map, List.map_cons,
      List.map_map]
    congr 1
    refine List.map_congr_left fun i _ => ?_
    rw [Function.comp_apply, Nat.succ_eq_add_one, Nat.add_assoc, Nat.add_comm 1]

theorem exchanges_afterTries (service : WebService) (w : Wire) (r : HttpRequest)
    (halfSeconds k : Nat) : (afterTries w r halfSeconds k).exchanges service =
      w.exchanges service ++ (List.range (k + 1)).map fun i => (r, tries service r w i) := by
  simp only [Wire.exchanges, afterTries, List.zipIdx_append, List.map_append, zipIdx_replicate,
    List.map_map, Nat.zero_add]
  rfl

/-- The requests that were answered with success, in order. -/
def answered (exchanges : List (HttpRequest × HttpOutcome)) : List HttpRequest :=
  (exchanges.filter (·.2.isSuccess)).map (·.1)

theorem answered_append (before after : List (HttpRequest × HttpOutcome)) :
    answered (before ++ after) = answered before ++ answered after := by
  rw [answered, List.filter_append, List.map_append]
  rfl

theorem answered_tries (hf : ∀ i < failed, (tries service r w i).Passing)
    (hs : (tries service r w failed).isSuccess = true) :
    answered ((List.range (failed + 1)).map fun i => (r, tries service r w i)) = [r] := by
  have hnone : answered ((List.range failed).map fun i => (r, tries service r w i)) = [] := by
    rw [answered, List.filter_eq_nil_iff.mpr, List.map_nil]
    intro e he
    obtain ⟨i, hi, rfl⟩ := List.mem_map.mp he
    rw [HttpOutcome.isSuccess_of_passing (hf i (List.mem_range.mp hi))]
    exact Bool.false_ne_true
  have hone : answered [(r, tries service r w failed)] = [r] := by
    simp [answered, hs]
  rw [List.range_succ, List.map_append, answered_append, hnone, List.map_singleton, hone]
  rfl

theorem get_after_failures {v : Json} (hr : requestFor config path params = .ok r)
    (hle : failed ≤ config.maxRetries.toNat) (hf : ∀ i < failed, (tries service r w i).Passing)
    (ht : (tries service r w failed).Tells b (.ok v)) :
    get b service config path params w = (.ok v, afterTries w r 1 failed) := by
  have hlast : ¬ (tries service r w failed).Passing := by
    intro hp
    have hs := HttpOutcome.isSuccess_of_tells ht
    rw [HttpOutcome.isSuccess_of_passing hp] at hs
    cases hs
  rw [get_eq, hr]
  dsimp only
  rw [attempt_retried ⟨hle, hf, fun _ => hlast⟩, settle_of_tells ht]

/-! ### All pages -/

/-- A service that splits a list into pages of the size that the client asks for, from its `n`-th
request on: the `left` pages from a number on are each shown after at most as many failures as the
client passes over. -/
inductive Serves (b : Bounds) (service : WebService) (config : ClientConfig) (path : String)
    (items : List Json) : (n number left : Nat) → Prop
  | done {n number : Nat} : Serves b service config path items n number 0
  | page {n number left failed : Nat} {r : HttpRequest}
    (hr : requestFor config path (pageParams config number) = .ok r)
    (hle : failed ≤ config.maxRetries.toNat)
    (hf : ∀ i < failed, (service (n + i) r).Passing)
    (hp : (service (n + failed) r).ShowsPage b (itemsOn config.pageSize.toNat items number)
      (pageTotal config.pageSize.toNat items))
    (rest : Serves b service config path items (n + failed + 1) (number + 1) left) :
    Serves b service config path items n number (left + 1)

theorem length_afterTries (w : Wire) (r : HttpRequest) (halfSeconds k : Nat) :
    (afterTries w r halfSeconds k).requests.length = w.requests.length + k + 1 := by
  rw [afterTries, List.length_append, List.length_replicate]
  rfl

/-- What one page adds: its items come after those of the pages before it. -/
theorem getPages_shown (hobj : ∀ item ∈ items, item.shape = .obj) (hone : 1 ≤ number)
    (hr : requestFor config path (pageParams config number) = .ok r)
    (hle : failed ≤ config.maxRetries.toNat) (hf : ∀ i < failed, (tries service r w i).Passing)
    (hp : (tries service r w failed).ShowsPage b (itemsOn config.pageSize.toNat items number)
      (pageTotal config.pageSize.toNat items)) (budget : Nat) :
    getPages b service config path (budget + 1) number
        (items.take ((number - 1) * config.pageSize.toNat)) w =
      if pageTotal config.pageSize.toNat items ≤ number then
        (.answer (.arr (items.take (number * config.pageSize.toNat))), afterTries w r 1 failed)
      else
        getPages b service config path budget (number + 1)
          (items.take (number * config.pageSize.toNat)) (afterTries w r 1 failed) := by
  obtain ⟨fields, ht, hdata, hpages⟩ := hp
  have hitems : pageItems (.obj fields) = itemsOn config.pageSize.toNat items number :=
    pageItems_of_data hdata fun item hm =>
      hobj item (List.mem_of_mem_drop (List.mem_of_mem_take hm))
  rw [getPages_of_ok (get_after_failures hr hle hf ht), isLastPage_of_pages hpages, hitems,
    take_append_itemsOn hone]
  simp only [decide_eq_true_eq]

theorem getPages_serves (hobj : ∀ item ∈ items, item.shape = .obj) (hsize : 1 ≤ config.pageSize)
    (hs : Serves b service config path items n number left) (hn : w.requests.length = n)
    (hone : 1 ≤ number) (hleft : 0 < left)
    (hend : number + left = lastPage config.pageSize.toNat items + 1) :
    ∃ w' received, (∀ budget, left ≤ budget →
        getPages b service config path budget number
          (items.take ((number - 1) * config.pageSize.toNat)) w = (.answer (.arr items), w')) ∧
      w'.exchanges service = w.exchanges service ++ received ∧
      (answered received).map .ok = (List.range' number left).map fun i =>
        requestFor config path (pageParams config i) := by
  induction hs generalizing w with
  | done => exact absurd hleft (Nat.lt_irrefl 0)
  | @page n number left failed r hr hle hf hp rest ih =>
    subst hn
    have hstep := getPages_shown hobj hone hr hle hf hp
    have hsent := exchanges_afterTries service w r 1 failed
    have hanswered := answered_tries hf hp.isSuccess
    cases left with
    | zero =>
      have hlast : number = lastPage config.pageSize.toNat items := by omega
      have hdone : pageTotal config.pageSize.toNat items ≤ number := hlast ▸ Nat.le_max_right 1 _
      have hwhole : items.take (number * config.pageSize.toNat) = items := by
        rw [hlast]
        exact take_lastPage (by omega)
      refine ⟨afterTries w r 1 failed, _, ?_, hsent, ?_⟩
      · intro budget hb
        obtain ⟨budget, rfl⟩ := Nat.exists_eq_add_of_le' hb
        rw [hstep, if_pos hdone, hwhole]
      · rw [hanswered, List.map_singleton, List.range'_one, List.map_singleton, hr]
    | succ left =>
      have hmore : number < pageTotal config.pageSize.toNat items :=
        pageTotal_of_lt hone (by omega)
      obtain ⟨w', received, hrest, hsent', hanswered'⟩ :=
        ih (length_afterTries w r 1 failed) (Nat.le_succ_of_le hone) (Nat.succ_pos left) (by omega)
      refine ⟨w', (List.range (failed + 1)).map (fun i => (r, tries service r w i)) ++ received,
        ?_, ?_, ?_⟩
      · intro budget hb
        obtain ⟨budget, rfl⟩ := Nat.exists_eq_add_of_le' (Nat.le_of_add_left_le hb)
        rw [hstep, if_neg (Nat.not_le.mpr hmore)]
        exact hrest budget (Nat.le_of_succ_le_succ hb)
      · rw [hsent', hsent, List.append_assoc]
      · have hrange : List.range' number (left + 2) =
            number :: List.range' (number + 1) (left + 1) := List.range'_succ
        rw [answered_append, List.map_append, hanswered, hanswered', hrange, List.map_singleton,
          ← hr]
        rfl

/-- A list that a service splits into pages is read whole and in order, given leave for as many
pages as it has, and each of its pages is received once, in order. -/
theorem getAll_complete (hobj : ∀ item ∈ items, item.shape = .obj) (hsize : 1 ≤ config.pageSize)
    (hs : Serves b service config path items w.requests.length 1
      (lastPage config.pageSize.toNat items)) :
    ∃ w' received, (∀ budget, lastPage config.pageSize.toNat items ≤ budget →
        getPages b service config path budget 1 [] w = (.answer (.arr items), w')) ∧
      (lastPage config.pageSize.toNat items ≤ b.pages →
        getAll b service config path w = (.answer (.arr items), w')) ∧
      w'.exchanges service = w.exchanges service ++ received ∧
      (answered received).map .ok = (List.range' 1 (lastPage config.pageSize.toNat items)).map
        fun number => requestFor config path (pageParams config number) := by
  obtain ⟨w', received, hpages, hsent, hanswered⟩ :=
    getPages_serves hobj hsize hs rfl (Nat.le_refl 1) (Nat.le_max_left 1 _) (Nat.add_comm 1 _)
  have hstart : items.take ((1 - 1) * config.pageSize.toNat) = [] := by
    rw [Nat.sub_self, Nat.zero_mul, List.take_zero]
  rw [hstart] at hpages
  exact ⟨w', received, hpages, hpages b.pages, hsent, hanswered⟩

/-- Three users on two pages, one failure before each page. -/
theorem getAll_complete_flaky :
    let b : Bounds := {}
    let user (id : Int) : Json := .obj [("id", .int id)]
    let body (text : String) : HttpOutcome := .success text.toUTF8.data.toList
    let service : WebService := fun n _ =>
      match n with
      | 0 => .refusal 503 "busy" []
      | 1 => body "\x7b\"data\":[\x7b\"id\":1\x7d,\x7b\"id\":2\x7d],\"pages\":2\x7d"
      | 2 => .broken .reset "reset by peer"
      | _ => body "\x7b\"data\":[\x7b\"id\":3\x7d],\"pages\":2\x7d"
    let config : ClientConfig :=
      { baseUrl := "https://api.linode.test/v4", token := "tok", maxRetries := 1, pageSize := 2 }
    let out := getAll b service config "/account/users" {}
    out.1 = .answer (.arr [user 1, user 2, user 3]) ∧
      (answered (out.2.exchanges service)).length = 2 := by
  intro b user body service config out
  have hbase : Url.Schemed config.baseUrl.toList :=
    ⟨"https".toList, "//api.linode.test/v4".toList, by decide, by decide,
      List.all_eq_true.mp (by decide)⟩
  obtain ⟨r₁, hr₁⟩ := exists_requestFor hbase "/account/users" (pageParams config 1)
  obtain ⟨r₂, hr₂⟩ := exists_requestFor hbase "/account/users" (pageParams config 2)
  let users := [user 1, user 2, user 3]
  have htotal : pageTotal 2 users = 2 := by decide
  have hlast : lastPage 2 users = 2 := by rw [lastPage, htotal]; rfl
  have hfirst : (service 1 r₁).ShowsPage b (itemsOn 2 users 1) (pageTotal 2 users) := by
    rw [htotal]
    refine ⟨[("data", .arr [user 1, user 2]), ("pages", .int 2)], ?_, rfl, rfl⟩
    apply HttpOutcome.tells_of_parse
    rw [Json.parse, String.toList_ofList]
    rfl
  have hsecond : (service 3 r₂).ShowsPage b (itemsOn 2 users 2) (pageTotal 2 users) := by
    rw [htotal]
    refine ⟨[("data", .arr [user 3]), ("pages", .int 2)], ?_, rfl, rfl⟩
    apply HttpOutcome.tells_of_parse
    rw [Json.parse, String.toList_ofList]
    rfl
  have hretry : 1 ≤ config.maxRetries.toNat := by decide
  have hbusy : ∀ i < 1, (service (0 + i) r₁).Passing := by
    intro i hi
    obtain rfl := Nat.lt_one_iff.mp hi
    exact .service (by decide) (Text.fromUTF8?_toUTF8 "")
  have hreset : ∀ i < 1, (service (2 + i) r₂).Passing := by
    intro i hi
    obtain rfl := Nat.lt_one_iff.mp hi
    exact .connection rfl
  have hserves : Serves b service config "/account/users" users 0 1 (lastPage 2 users) := by
    rw [hlast]
    exact .page hr₁ hretry hbusy hfirst (.page hr₂ hretry hreset hsecond .done)
  have hobj : ∀ item ∈ users, item.shape = .obj := by decide
  have hsize : 1 ≤ config.pageSize := by decide
  obtain ⟨w', received, -, hall, hsent, hanswered⟩ := getAll_complete (w := {}) hobj hsize hserves
  have hout : out = (.answer (.arr users), w') := hall (hlast.trans_le (by decide))
  rw [hout]
  refine ⟨rfl, ?_⟩
  rw [show w'.exchanges service = received from hsent]
  have hlength := congrArg List.length hanswered
  rw [List.length_map, List.length_map, List.length_range'] at hlength
  exact hlength.trans hlast

end Client

end CloudAudit
