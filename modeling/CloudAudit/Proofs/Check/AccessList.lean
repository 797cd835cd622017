import CloudAudit.Proofs.Check.Live

namespace CloudAudit

open Result

namespace AccessList

/-- The value of a field; something without fields has none. -/
def field (v : Json) (name : String) : Json := (v.get? name).getD .null

/-- The access list in an answer. An empty one stands for one that is missing or counts as
nothing. -/
def ofAnswer (answer : Json) : Json :=
  if (field answer "acl").truthy then field answer "acl" else .obj []

/-- A number that is not zero, or `true`: something that lists no addresses. -/
def isBare : Json → Bool
  | .bool b => b
  | .int n => n != 0
  | .float x => x != 0.0
  | _ => false

/-- What a value lists: the items of a list, the names of an object, the characters of a text. -/
def listed : Json → List Json
  | .arr items => items
  | .obj fields => fields.map fun (name, _) => .str name
  | .str s => s.toList.map fun c => .str (String.singleton c)
  | _ => []

/-- Addresses that let everyone in. -/
def isWildcard : Json → Bool
  | .str s => ["0.0.0.0/0", "::/0", "2000::/3"].contains s
  | _ => false

/-- The addresses of an access list, of either family. -/
def items (acl : Json) : List Json :=
  listed (field (field acl "addresses") "ipv4") ++ listed (field (field acl "addresses") "ipv6")

/-- Some addresses cannot be listed at all. -/
def Unlisted (addresses : Json) : Prop :=
  (addresses.truthy = true ∧ addresses.shape ≠ .obj) ∨ isBare (field addresses "ipv4") = true ∨
    isBare (field addresses "ipv6") = true

/-- No item is a list or an object, and some item lets everyone in. -/
def Open (items : List Json) : Prop :=
  (∀ v ∈ items, v.shape ≠ .arr ∧ v.shape ≠ .obj) ∧ ∃ v ∈ items, isWildcard v = true

/-- All items are texts, and none of them lets everyone in. -/
def Restricted (items : List Json) : Prop := ∀ v ∈ items, v.shape = .str ∧ isWildcard v = false

instance (addresses : Json) : Decidable (Unlisted addresses) :=
  inferInstanceAs (Decidable ((addresses.truthy = true ∧ addresses.shape ≠ .obj) ∨
    isBare (field addresses "ipv4") = true ∨ isBare (field addresses "ipv6") = true))

instance (items : List Json) : Decidable (Open items) :=
  inferInstanceAs (Decidable ((∀ v ∈ items, v.shape ≠ .arr ∧ v.shape ≠ .obj) ∧
    ∃ v ∈ items, isWildcard v = true))

instance (items : List Json) : Decidable (Restricted items) :=
  inferInstanceAs (Decidable (∀ v ∈ items, v.shape = .str ∧ isWildcard v = false))

def status (answer : Json) : Status :=
  let acl := ofAnswer answer
  if acl.shape ≠ .obj then .notApplicable
  else if (field acl "enabled").truthy = false then .nonCompliant
  else if Unlisted (field acl "addresses") then .notApplicable
  else if Open (items acl) then .nonCompliant
  else if Restricted (items acl) then .compliant
  else .notApplicable

theorem not_isWildcard_of_shape {v : Json} (h : v.shape ≠ .str) : isWildcard v = false := by
  cases v with
  | str s => exact absurd rfl h
  | null | bool | int | float | arr | obj => rfl

end AccessList

/-- A judgement comes to an outcome with the status, or a fault leaves the matter open. -/
inductive Settles : Except CheckFault Outcome → Status → Prop
  | outcome (o : Outcome) : Settles (.ok o) o.status
  | fault (f : CheckFault) : Settles (.error f) .notApplicable

namespace Settles

variable {α : Type} {x : Except DataFault α} {k : α → Except CheckFault Outcome} {a : α}
  {s : Status}

theorem bind (hx : x = .ok a) (hk : Settles (k a) s) :
    Settles ((liftM x : Except CheckFault α) >>= k) s := by
  subst hx
  exact hk

theorem bind_fault {f : DataFault} (hx : x = .error f) :
    Settles ((liftM x : Except CheckFault α) >>= k) .notApplicable := by
  subst hx
  exact .fault (.data f)

theorem contained {judgement : Except CheckFault Outcome} (h : Settles judgement s) :
    ∃ detail, FirstPass.containLive (judgement.map ([·])) = [⟨s, detail⟩] := by
  cases h with
  | outcome o => exact ⟨o.detail, rfl⟩
  | fault f => exact FirstPass.containLive_error f

end Settles

namespace Check

open AccessList

variable {cidrs : List Json} {v : Json}

theorem spreadAddresses_listed (h : isBare v = false) : spreadAddresses v = .ok (listed v) := by
  rw [spreadAddresses]
  cases v with
  | null => rfl
  | bool | int | float => exact if_neg (Bool.eq_false_iff.mp h)
  | str s =>
    by_cases hs : s = ""
    · subst hs
      rfl
    · have ht : (Json.str s).truthy = true := bne_iff_ne.mpr hs
      rw [if_pos ht]
      rfl
  | arr items => cases items <;> rfl
  | obj fields => cases fields <;> rfl

theorem spreadAddresses_bare (h : isBare v = true) :
    spreadAddresses v = .error (.notSpreadable v.shape) := by
  rw [spreadAddresses]
  cases v with
  | null | str | arr | obj => cases h
  | bool | int | float => exact if_pos h

theorem isAmong_wildcards (h : v.shape ≠ .arr ∧ v.shape ≠ .obj) :
    v.isAmong FirewallRule.wildcards = .ok (isWildcard v) := by
  cases v with
  | arr => exact absurd rfl h.1
  | obj => exact absurd rfl h.2
  | null | bool | int | float | str => rfl

theorem isAmong_collection (texts : List String) (h : v.shape = .arr ∨ v.shape = .obj) :
    ∃ f, v.isAmong texts = .error f := by
  cases v with
  | arr | obj => exact ⟨_, rfl⟩
  | null | bool | int | float | str => cases h <;> contradiction

theorem openEntries_eq (h : ∀ v ∈ cidrs, v.shape ≠ .arr ∧ v.shape ≠ .obj) :
    openEntries cidrs = .ok (cidrs.filter isWildcard) := by
  have hflags : cidrs.mapM (·.isAmong FirewallRule.wildcards) = .ok (cidrs.map isWildcard) := by
    rw [mapM_eq_ok, List.forall₂_map_right_iff, List.forall₂_same]
    exact fun v hv => isAmong_wildcards (h v hv)
  have hpairs : ((cidrs.zip (cidrs.map isWildcard)).filter (·.2)).map (·.1) =
      cidrs.filter isWildcard := by
    clear h hflags
    induction cidrs with
    | nil => rfl
    | cons v cidrs ih =>
      rw [List.map_cons, List.zip_cons_cons, List.filter_cons, List.filter_cons]
      split
      · rw [List.map_cons, ih]
      · exact ih
  rw [openEntries, hflags]
  exact congrArg Except.ok hpairs

theorem openEntries_collection (hv : v ∈ cidrs) (h : v.shape = .arr ∨ v.shape = .obj) :
    ∃ f, openEntries cidrs = .error f := by
  cases hm : cidrs.mapM (·.isAmong FirewallRule.wildcards) with
  | error f =>
    refine ⟨f, ?_⟩
    rw [openEntries, hm]
    rfl
  | ok flags =>
    obtain ⟨f, hf⟩ := isAmong_collection FirewallRule.wildcards h
    obtain ⟨b, hb⟩ := of_mem_mapM hm hv
    cases hf.symm.trans hb

theorem joinTexts_texts (sep : String) (h : ∀ v ∈ cidrs, v.shape = .str) :
    ∃ text, Json.joinTexts sep cidrs = .ok text := by
  have hitem : ∀ p ∈ cidrs.zipIdx, ∃ s, (match p.1 with
      | .str s => .ok s
      | v => .error (.notJoinable p.2 v.shape) : Except DataFault String) = .ok s := by
    rintro ⟨v, i⟩ hp
    have hv := h v (List.fst_mem_of_mem_zipIdx hp)
    cases v with
    | str s => exact ⟨s, rfl⟩
    | null | bool | int | float | arr | obj => cases hv
  obtain ⟨texts, htexts⟩ := mapM_ok hitem
  exact ⟨_, bind_eq_ok.mpr ⟨texts, htexts, rfl⟩⟩

theorem joinTexts_other (sep : String) (hv : v ∈ cidrs) (h : v.shape ≠ .str) :
    ∃ f, Json.joinTexts sep cidrs = .error f := by
  cases hj : Json.joinTexts sep cidrs with
  | error f => exact ⟨f, rfl⟩
  | ok text =>
    obtain ⟨texts, htexts, -⟩ := bind_eq_ok.mp hj
    obtain ⟨i, hi⟩ := List.mem_iff_getElem?.mp hv
    obtain ⟨s, hs⟩ := of_mem_mapM htexts (List.mk_mem_zipIdx_iff_getElem?.mpr hi)
    cases v with
    | str s => exact absurd rfl h
    | null | bool | int | float | arr | obj => cases hs

theorem openEntries_open (h : Open cidrs) : ∃ opened text, openEntries cidrs = .ok opened ∧
    (!opened.isEmpty) = true ∧ Json.joinTexts ", " opened = .ok text := by
  obtain ⟨hplain, hwild⟩ := h
  have htexts : ∀ v ∈ cidrs.filter isWildcard, v.shape = .str := by
    intro v hv
    by_contra hs
    have hw := (List.mem_filter.mp hv).2
    rw [not_isWildcard_of_shape hs] at hw
    cases hw
  obtain ⟨text, htext⟩ := joinTexts_texts ", " htexts
  exact ⟨_, text, openEntries_eq hplain, by simpa using hwild, htext⟩

theorem openEntries_closed (h : ∀ v ∈ cidrs, v.shape ≠ .arr ∧ v.shape ≠ .obj)
    (hclosed : ¬ Open cidrs) : openEntries cidrs = .ok [] := by
  have hnone : cidrs.filter isWildcard = [] := by
    rw [List.filter_eq_nil_iff]
    exact fun v hv hw => hclosed ⟨h, v, hv, hw⟩
  rw [openEntries_eq h, hnone]

theorem judgeAddresses_listed {fields : Fields} {ipv4 ipv6 : List Json}
    (h4 : spreadAddresses (Fields.getD fields "ipv4") = .ok ipv4)
    (h6 : spreadAddresses (Fields.getD fields "ipv6") = .ok ipv6) :
    Settles (judgeAddresses (.obj fields)) (if Open (ipv4 ++ ipv6) then .nonCompliant
      else if Restricted (ipv4 ++ ipv6) then .compliant else .notApplicable) := by
  rw [judgeAddresses]
  refine .bind h4 (.bind h6 ?_)
  generalize ipv4 ++ ipv6 = items
  dsimp only
  by_cases hopen : Open items
  · obtain ⟨opened, text, hopened, hsome, htext⟩ := openEntries_open hopen
    rw [if_pos hopen]
    refine .bind hopened ?_
    rw [if_pos hsome]
    exact .bind htext (.outcome _)
  rw [if_neg hopen]
  by_cases hplain : ∀ v ∈ items, v.shape ≠ .arr ∧ v.shape ≠ .obj
  · refine .bind (openEntries_closed hplain hopen) ?_
    rw [if_neg (by decide)]
    by_cases htexts : ∀ v ∈ items, v.shape = .str
    · have hrestricted : Restricted items := by
        intro v hv
        exact ⟨htexts v hv, Bool.eq_false_iff.mpr fun hw => hopen ⟨hplain, v, hv, hw⟩⟩
      obtain ⟨text, htext⟩ := joinTexts_texts ", " htexts
      rw [if_pos hrestricted]
      exact .bind htext (.outcome _)
    · have hunrestricted : ¬ Restricted items := fun h => htexts fun v hv => (h v hv).1
      obtain ⟨v, hv, hs⟩ : ∃ v ∈ items, v.shape ≠ .str := by simpa using htexts
      obtain ⟨f, hf⟩ := joinTexts_other ", " hv hs
      rw [if_neg hunrestricted]
      exact .bind_fault hf
  · obtain ⟨v, hv, hs⟩ : ∃ v ∈ items, v.shape = .arr ∨ v.shape = .obj := by
      by_contra hnone
      apply hplain
      intro v hv
      exact ⟨fun he => hnone ⟨v, hv, .inl he⟩, fun he => hnone ⟨v, hv, .inr he⟩⟩
    have hunrestricted : ¬ Restricted items := by
      intro h
      rw [(h v hv).1] at hs
      cases hs <;> contradiction
    obtain ⟨f, hf⟩ := openEntries_collection hv hs
    rw [if_neg hunrestricted]
    exact .bind_fault hf

theorem judgeAddresses_other {addresses : Json} (h : addresses.shape ≠ .obj) :
    Settles (judgeAddresses addresses) .notApplicable := by
  cases addresses with
  | obj => exact absurd rfl h
  | null | bool | int | float | str | arr => exact .outcome _

theorem exists_fields {addresses : Json}
    (h : ¬ (addresses.truthy = true ∧ addresses.shape ≠ .obj)) :
    ∃ fields, addresses.orElse (.obj []) = .obj fields ∧
      ∀ name, Fields.getD fields name = field addresses name := by
  rw [Json.orElse]
  split
  case isTrue ht =>
    cases addresses with
    | obj fields => exact ⟨fields, rfl, fun _ => rfl⟩
    | null | bool | int | float | str | arr => exact absurd ⟨ht, by simp [Json.shape]⟩ h
  case isFalse ht =>
    refine ⟨[], rfl, fun name => ?_⟩
    cases addresses with
    | obj fields =>
      cases fields with
      | nil => rfl
      | cons => exact absurd rfl ht
    | null | bool | int | float | str | arr => rfl

theorem judgeAddresses_settles (addresses : Json) :
    Settles (judgeAddresses (addresses.orElse (.obj [])))
      (if Unlisted addresses then .notApplicable
      else if Open (listed (field addresses "ipv4") ++ listed (field addresses "ipv6")) then
        .nonCompliant
      else if Restricted (listed (field addresses "ipv4") ++ listed (field addresses "ipv6")) then
        .compliant
      else .notApplicable) := by
  by_cases hother : addresses.truthy = true ∧ addresses.shape ≠ .obj
  · have hsame : addresses.orElse (.obj []) = addresses := if_pos hother.1
    rw [hsame, if_pos (.inl hother)]
    exact judgeAddresses_other hother.2
  · obtain ⟨fields, hfields, hvalue⟩ := exists_fields hother
    rw [hfields]
    cases h4 : isBare (field addresses "ipv4") with
    | true =>
      rw [if_pos (.inr (.inl h4)), judgeAddresses]
      rw [← hvalue] at h4
      exact .bind_fault (spreadAddresses_bare h4)
    | false =>
      have hipv4 : spreadAddresses (Fields.getD fields "ipv4") =
          .ok (listed (field addresses "ipv4")) := by
        rw [hvalue]
        exact spreadAddresses_listed h4
      cases h6 : isBare (field addresses "ipv6") with
      | true =>
        rw [if_pos (.inr (.inr h6)), judgeAddresses]
        rw [← hvalue] at h6
        exact .bind hipv4 (.bind_fault (spreadAddresses_bare h6))
      | false =>
        have hipv6 : spreadAddresses (Fields.getD fields "ipv6") =
            .ok (listed (field addresses "ipv6")) := by
          rw [hvalue]
          exact spreadAddresses_listed h6
        have hlisted : ¬ Unlisted addresses := by
          rw [Unlisted, h4, h6]
          simpa using hother
        rw [if_neg hlisted]
        exact judgeAddresses_listed hipv4 hipv6

theorem judgeAcl_settles (answer : Json) : Settles (judgeAcl answer) (status answer) := by
  have hacl : ((answer.get? "acl").getD .null).orElse (.obj []) = ofAnswer answer := rfl
  rw [judgeAcl, hacl, status]
  cases ofAnswer answer with
  | null | bool | int | float | str | arr => exact .outcome _
  | obj acl =>
    dsimp only
    have hobj : ¬ (Json.obj acl).shape ≠ .obj := not_not.mpr rfl
    have hfield (name : String) : field (.obj acl) name = Fields.getD acl name := rfl
    rw [if_neg hobj, hfield]
    cases he : (Fields.getD acl "enabled").truthy with
    | false => exact .outcome _
    | true => exact judgeAddresses_settles (Fields.getD acl "addresses")

end Check

namespace AccessList

variable {answer : Json}

theorem status_compliant (h : status answer = .compliant) : Restricted (items (ofAnswer answer)) := by
  rw [status] at h
  split at h
  · cases h
  split at h
  · cases h
  split at h
  · cases h
  split at h
  · cases h
  split at h
  case isTrue hrestricted => exact hrestricted
  case isFalse => cases h

end AccessList

end CloudAudit
