import CloudAudit.Proofs.Check.Firewall
import CloudAudit.Proofs.FirstSeen

namespace CloudAudit

open Result

namespace Json

/-- A value that has items, be it none because it counts as nothing. -/
def IsIterable (v : Json) : Prop := ∃ items, v.itemsOrNone = .ok items

def items (v : Json) : List Json := v.itemsOrNone.toOption.getD []

/-- The whole number that stands under `id` in an object. -/
def numericId? : Json → Option Int
  | .obj fields => (Fields.getD fields "id").toInt.toOption
  | _ => none

/-- What stands under `id` in an object is not an infinite number. -/
def HasFiniteId (v : Json) : Prop :=
  ∀ fields x negative, v = .obj fields → Fields.getD fields "id" = .float x →
    Number.Binary.ofFloat x ≠ .infinite negative

variable {v : Json} {items : List Json} {fields : Fields}

theorem items_eq (h : v.itemsOrNone = .ok items) : v.items = items := by
  rw [Json.items, h]
  rfl

theorem toInt?_of_ne (h : v.toInt ≠ .error .infiniteNumber) : v.toInt? = .ok v.toInt.toOption := by
  rw [toInt?]
  split
  case h_1 ht => rw [ht]; rfl
  case h_2 ht => exact absurd ht h
  case h_3 ht => rw [ht]; rfl

theorem hasFiniteId_obj :
    (obj fields).HasFiniteId ↔ (Fields.getD fields "id").toInt ≠ .error .infiniteNumber := by
  constructor
  · intro h hi
    obtain ⟨x, negative, hv, hx⟩ := infinite_of_toInt hi
    exact h fields x negative rfl hv hx
  · rintro h _ x negative ⟨⟩ hv hx
    rw [hv, toInt, hx] at h
    exact h rfl

instance : DecidablePred HasFiniteId
  | .obj _ => decidable_of_iff' _ hasFiniteId_obj
  | .null | .bool _ | .int _ | .float _ | .str _ | .arr _ => isTrue nofun

theorem HasFiniteId.toInt? (h : (obj fields).HasFiniteId) :
    (Fields.getD fields "id").toInt? = .ok (obj fields).numericId? :=
  toInt?_of_ne (hasFiniteId_obj.mp h)

end Json

namespace Resource

/-- The numbers on the list of firewalls that a resource has itself. -/
def attachedNumbers (r : Resource) : List Int :=
  (r.spec "attached_firewalls").items.filterMap Json.numericId?

/-- The number of a firewall that names the target. -/
def numberFor? (target : Int) (fw : Resource) : Option Int :=
  if (fw.spec "entities").items.any (·.numericId? == some target) then fw.numericId? else none

/-- The targets of a firewall have items, unless its number is already known. -/
def IsSearchable (known : List Int) (fw : Resource) : Prop :=
  ∀ n, fw.numericId? = some n → n ∉ known → (fw.spec "entities").IsIterable

end Resource

namespace Inventory

/-- The numbers of the firewalls that name a resource as a target. -/
def targetingNumbers (inv : Inventory) (r : Resource) : List Int :=
  match r.numericId? with
  | none => []
  | some target => inv.firewalls.filterMap (·.numberFor? target)

/-- Each value that the search for the protectors of a resource goes through has items. A firewall
whose number has come up before it is passed over. -/
structure IsSearchable (inv : Inventory) (r : Resource) : Prop where
  attached : (r.spec "attached_firewalls").IsIterable
  targets : ∀ target, r.numericId? = some target → ∀ before fw after,
    inv.firewalls = before ++ fw :: after →
    fw.IsSearchable (r.attachedNumbers ++ before.filterMap (·.numberFor? target))

/-- The protectors have the numbers on the resource's list and those of the firewalls that name it,
which are all numbers of firewalls in the inventory. -/
structure ProtectedBy (inv : Inventory) (r : Resource) (found : List Protector) : Prop where
  numbers : FirstSeen (r.attachedNumbers ++ inv.targetingNumbers r) (found.map (·.number))
  targeting : ∀ n ∈ inv.targetingNumbers r, (inv.firewall? n).isSome

end Inventory

namespace Protector

variable {target : Int} {found found' : List Protector} {item : Json} {items : List Json}
  {fw : Resource} {fws : List Resource} {known : List Int}

theorem isKnown_iff {n : Int} (h : FirstSeen known (found.map (·.number))) :
    isKnown found n = true ↔ n ∈ known := by
  rw [← h.mem, isKnown, List.any_eq_true, List.mem_map]
  simp only [beq_iff_eq]

/-- What becomes of the protectors where one may come up with a number: it is added last if its
number is new. -/
inductive Adds (found : List Protector) (number? : Option Int) : List Protector → Prop
  | skipped : number? = none → Adds found number? found
  | known {n : Int} : number? = some n → isKnown found n = true → Adds found number? found
  | new {p : Protector} : number? = some p.number → ¬ isKnown found p.number = true →
    Adds found number? (found ++ [p])

theorem Adds.firstSeen {number? : Option Int} (ha : Adds found number? found')
    (h : FirstSeen known (found.map (·.number))) :
    FirstSeen (known ++ number?.toList) (found'.map (·.number)) := by
  cases ha with
  | skipped hn =>
    subst hn
    rwa [Option.toList_none, List.append_nil]
  | known hn hk =>
    subst hn
    exact h.known ((h.mem _).mpr ((isKnown_iff h).mp hk))
  | new hn hk =>
    subst hn
    rw [List.map_append]
    exact h.fresh fun hm => hk ((isKnown_iff h).mpr ((h.mem _).mp hm))

theorem addAttached_adds (h : item.HasFiniteId) (found : List Protector) :
    ∃ found', addAttached found item = .ok found' ∧ Adds found item.numericId? found' := by
  cases item with
  | obj fields =>
    rw [addAttached, h.toInt?]
    cases hn : (Json.obj fields).numericId? with
    | none => exact ⟨found, rfl, .skipped rfl⟩
    | some n =>
      by_cases hk : isKnown found n = true
      · exact ⟨found, if_pos hk, .known rfl hk⟩
      · exact ⟨_, if_neg hk, .new rfl hk⟩
  | _ => exact ⟨found, rfl, .skipped rfl⟩

theorem isTarget_eq (h : ∀ item ∈ items, item.HasFiniteId) :
    isTarget target items = .ok (items.any (·.numericId? == some target)) := by
  induction items with
  | nil => rfl
  | cons item items ih =>
    have ih := ih fun item hi => h item (List.mem_cons_of_mem _ hi)
    rw [List.any_cons]
    cases item with
    | obj fields =>
      rw [isTarget, (h _ List.mem_cons_self).toInt?]
      change (if (Json.obj fields).numericId? = some target then _ else _) = _
      split
      case isTrue he => rw [he, beq_self_eq_true, Bool.true_or]
      case isFalse he => rw [ih, beq_false_of_ne he, Bool.false_or]
    | _ => exact ih

theorem addTargeting_ok (h : FirstSeen known (found.map (·.number)))
    (hitems : ∀ item ∈ (fw.spec "entities").items, item.HasFiniteId) :
    (∃ found', addTargeting target found fw = .ok found') ↔ fw.IsSearchable known := by
  rw [addTargeting, Resource.IsSearchable]
  cases fw.numericId? with
  | none =>
    refine iff_of_true ⟨_, rfl⟩ ?_
    intro n hn
    cases hn
  | some n =>
    dsimp only
    split
    case isTrue hk =>
      refine iff_of_true ⟨_, rfl⟩ ?_
      rintro _ ⟨⟩ hno
      exact absurd ((isKnown_iff h).mp hk) hno
    case isFalse hk =>
      rw [isKnown_iff h] at hk
      constructor
      · rintro ⟨found', hok⟩ _ - -
        obtain ⟨entities, he, -⟩ := bind_eq_ok.mp hok
        exact ⟨entities, he⟩
      · intro hs
        obtain ⟨entities, he⟩ := hs n rfl hk
        rw [Json.items_eq he] at hitems
        rw [he]
        change ∃ found', (isTarget target entities >>= _) = _
        rw [isTarget_eq hitems]
        cases entities.any (·.numericId? == some target) <;> exact ⟨_, rfl⟩

theorem addTargeting_adds (hitems : ∀ item ∈ (fw.spec "entities").items, item.HasFiniteId)
    (hok : addTargeting target found fw = .ok found') :
    Adds found (fw.numberFor? target) found' := by
  rw [addTargeting] at hok
  rw [Resource.numberFor?]
  cases hn : fw.numericId? with
  | none =>
    rw [hn] at hok
    cases hok
    exact .skipped (ite_self none)
  | some n =>
    rw [hn] at hok
    dsimp only at hok
    split at hok
    case isTrue hk =>
      cases hok
      split
      · exact .known rfl hk
      · exact .skipped rfl
    case isFalse hk =>
      obtain ⟨entities, he, hok⟩ := bind_eq_ok.mp hok
      rw [Json.items_eq he] at hitems ⊢
      rw [isTarget_eq hitems] at hok
      change (if entities.any (·.numericId? == some target) then _ else _) = _ at hok
      split at hok
      case isTrue ht =>
        cases hok
        exact .new (if_pos ht) hk
      case isFalse ht =>
        cases hok
        exact .skipped (if_neg ht)

theorem foldlM_addTargeting_ok (target : Int) (h : FirstSeen known (found.map (·.number)))
    (hitems : ∀ fw ∈ fws, ∀ item ∈ (fw.spec "entities").items, item.HasFiniteId) :
    (∃ found', fws.foldlM (addTargeting target) found = .ok found') ↔
      ∀ before fw after, fws = before ++ fw :: after →
        fw.IsSearchable (known ++ before.filterMap (·.numberFor? target)) := by
  induction fws generalizing found known with
  | nil => exact iff_of_true ⟨found, rfl⟩ fun _ _ _ he => absurd he (by simp)
  | cons fw fws ih =>
    have hfw := hitems fw List.mem_cons_self
    have hfws := fun fw' hm => hitems fw' (List.mem_cons_of_mem fw hm)
    have hknown (before : List Resource) :
        known ++ (fw :: before).filterMap (·.numberFor? target) =
          known ++ (fw.numberFor? target).toList ++ before.filterMap (·.numberFor? target) := by
      rw [List.filterMap_cons, List.append_assoc]
      cases fw.numberFor? target <;> rfl
    rw [List.foldlM_cons]
    constructor
    · rintro ⟨found', hok⟩ before fw' after he
      obtain ⟨found₁, h₁, hrest⟩ := bind_eq_ok.mp hok
      cases before with
      | nil =>
        cases he
        rw [List.filterMap_nil, List.append_nil]
        exact (addTargeting_ok h hfw).mp ⟨found₁, h₁⟩
      | cons _ before =>
        cases he
        rw [hknown]
        have h' := (addTargeting_adds hfw h₁).firstSeen h
        exact (ih h' hfws).mp ⟨found', hrest⟩ before fw' after rfl
    · intro hs
      have hs₁ : fw.IsSearchable known := by simpa using hs [] fw fws rfl
      obtain ⟨found₁, h₁⟩ := (addTargeting_ok h hfw).mpr hs₁
      rw [h₁]
      refine (ih ((addTargeting_adds hfw h₁).firstSeen h) hfws).mpr fun before fw' after he => ?_
      rw [← hknown]
      exact hs (fw :: before) fw' after (by rw [he]; rfl)

theorem foldlM_addAttached_ok (h : ∀ item ∈ items, item.HasFiniteId) (found : List Protector) :
    ∃ found', items.foldlM addAttached found = .ok found' := by
  induction items generalizing found with
  | nil => exact ⟨found, rfl⟩
  | cons item items ih =>
    obtain ⟨found₁, h₁, -⟩ := addAttached_adds (h item List.mem_cons_self) found
    rw [List.foldlM_cons, h₁]
    exact ih (fun item hi => h item (List.mem_cons_of_mem _ hi)) found₁

end Protector

namespace Inventory

variable {inv : Inventory} {r : Resource} {found : List Protector}

/-- No `id` that the search for protectors may come to is an infinite number. -/
structure HasFiniteIds (inv : Inventory) (r : Resource) : Prop where
  attached : ∀ item ∈ (r.spec "attached_firewalls").items, item.HasFiniteId
  targets : ∀ fw ∈ inv.firewalls, ∀ item ∈ (fw.spec "entities").items, item.HasFiniteId

theorem protectors_eq (h : inv.HasFiniteIds r) (ha : (r.spec "attached_firewalls").IsIterable) :
    ∃ attached, FirstSeen r.attachedNumbers (attached.map (·.number)) ∧
      inv.protectors r = match r.numericId? with
        | none => .ok attached
        | some target => inv.firewalls.foldlM (Protector.addTargeting target) attached := by
  obtain ⟨items, hitems⟩ := ha
  have hfinite := h.attached
  rw [Json.items_eq hitems] at hfinite
  obtain ⟨attached, hok⟩ := Protector.foldlM_addAttached_ok hfinite []
  refine ⟨attached, ?_, ?_⟩
  · rw [Resource.attachedNumbers, Json.items_eq hitems]
    refine FirstSeen.nil.foldlM (g := fun found => found.map (·.number)) ?_ hok
    intro item hi known found found' hk hstep
    obtain ⟨found₁, h₁, hadds⟩ := Protector.addAttached_adds (hfinite item hi) found
    cases h₁.symm.trans hstep
    exact hadds.firstSeen hk
  · rw [protectors, hitems]
    change (items.foldlM Protector.addAttached [] >>= _) = _
    rw [hok]
    rfl

theorem protectors_ok (h : inv.HasFiniteIds r) :
    (∃ found, inv.protectors r = .ok found) ↔ inv.IsSearchable r := by
  constructor
  · rintro ⟨found, hok⟩
    obtain ⟨items, hitems, -⟩ := bind_eq_ok.mp hok
    refine ⟨⟨items, hitems⟩, ?_⟩
    intro target ht
    obtain ⟨attached, hseen, he⟩ := protectors_eq h ⟨items, hitems⟩
    rw [he, ht] at hok
    exact (Protector.foldlM_addTargeting_ok target hseen h.targets).mp ⟨found, hok⟩
  · intro hs
    obtain ⟨attached, hseen, he⟩ := protectors_eq h hs.attached
    rw [he]
    cases ht : r.numericId? with
    | none => exact ⟨attached, rfl⟩
    | some target =>
      exact (Protector.foldlM_addTargeting_ok target hseen h.targets).mpr (hs.targets target ht)

theorem firewall?_of_targeting {n : Int} (hn : n ∈ inv.targetingNumbers r) :
    (inv.firewall? n).isSome := by
  rw [targetingNumbers] at hn
  split at hn
  · cases hn
  · obtain ⟨fw, hfw, hfor⟩ := List.mem_filterMap.mp hn
    rw [Resource.numberFor?] at hfor
    split at hfor
    · rw [firewall?, List.find?_isSome]
      exact ⟨fw, List.mem_reverse.mpr hfw, beq_iff_eq.mpr hfor⟩
    · cases hfor

theorem protectors_protectedBy (h : inv.HasFiniteIds r) (hok : inv.protectors r = .ok found) :
    inv.ProtectedBy r found := by
  refine ⟨?_, fun n hn => firewall?_of_targeting hn⟩
  have hs := (protectors_ok h).mp ⟨found, hok⟩
  obtain ⟨attached, hseen, he⟩ := protectors_eq h hs.attached
  rw [he] at hok
  rw [targetingNumbers]
  cases hn : r.numericId? with
  | none =>
    rw [hn] at hok
    cases hok
    rwa [List.append_nil]
  | some target =>
    rw [hn] at hok
    refine hseen.foldlM (g := fun found => found.map (·.number)) ?_ hok
    intro fw hfw known found found' hk hstep
    exact (Protector.addTargeting_adds (h.targets fw hfw) hstep).firstSeen hk

end Inventory

namespace Check

variable {rule : Rule} {r : Resource} {inv : Inventory} {s : Status}

theorem firewallAttached_gives : Gives (firewallAttached rule r inv) s ↔
    ∃ found, inv.protectors r = .ok found ∧
      (s = .compliant ∧ found ≠ [] ∨ s = .nonCompliant ∧ found = []) := by
  rw [firewallAttached, gives_bind]
  simp only [lift_data_eq_ok]
  refine exists_congr fun found => and_congr_right fun _ => ?_
  cases found with
  | nil =>
    change Gives (.ok (Outcome.nonCompliant _)) s ↔ _
    rw [gives_ok]
    exact ⟨fun h => .inr ⟨h.symm, rfl⟩, fun h => (h.resolve_left fun h => h.2 rfl).1.symm⟩
  | cons p found =>
    change Gives (.ok (Outcome.compliant _)) s ↔ _
    rw [gives_ok]
    exact ⟨fun h => .inl ⟨h.symm, List.cons_ne_nil p found⟩,
      fun h => (h.resolve_right fun h => List.cons_ne_nil p found h.2).1.symm⟩

/-- The firewalls that protect an instance are those on its list and those that name it as a target,
and the check says whether there are any. Both come to nothing where a list that the search reaches
has no items. -/
theorem firewallAttached_iff (h : inv.HasFiniteIds r) :
    ((∃ found, inv.protectors r = .ok found) ↔ inv.IsSearchable r) ∧
    (∀ found, inv.protectors r = .ok found → inv.ProtectedBy r found) ∧
    (Gives (firewallAttached rule r inv) .compliant ↔
      inv.IsSearchable r ∧ r.attachedNumbers ++ inv.targetingNumbers r ≠ []) ∧
    (Gives (firewallAttached rule r inv) .nonCompliant ↔
      inv.IsSearchable r ∧ r.attachedNumbers ++ inv.targetingNumbers r = []) := by
  have hnil {found : List Protector} (hok : inv.protectors r = .ok found) :
      found = [] ↔ r.attachedNumbers ++ inv.targetingNumbers r = [] := by
    rw [← (Inventory.protectors_protectedBy h hok).numbers.eq_nil_iff, List.map_eq_nil_iff]
  have hgives (s : Status) : Gives (firewallAttached rule r inv) s ↔ inv.IsSearchable r ∧
      (s = .compliant ∧ r.attachedNumbers ++ inv.targetingNumbers r ≠ [] ∨
        s = .nonCompliant ∧ r.attachedNumbers ++ inv.targetingNumbers r = []) := by
    rw [firewallAttached_gives, ← Inventory.protectors_ok h, ← exists_and_right]
    refine exists_congr fun found => and_congr_right fun hok => ?_
    rw [ne_eq, ne_eq, hnil hok]
  refine ⟨Inventory.protectors_ok h, fun _ => Inventory.protectors_protectedBy h, ?_, ?_⟩
  · rw [hgives]
    simp only [true_and, reduceCtorEq, false_and, or_false]
  · rw [hgives]
    simp only [true_and, reduceCtorEq, false_and, false_or]

/-- Numbers come as texts, integers and truth values, twice on the list, on the list and among the
firewalls that name the instance, and twice among these. -/
theorem firewallAttached_iff_repeated :
    let rule : Rule := ⟨"fw", "Firewall", "", ["linode"], "firewall_attached", [], .warning, true,
      none, false⟩
    let fw (id number : String) (target : Json) : Resource :=
      { id := id, providerId := number, type := "firewall",
        specs := [("entities", .arr [.null, .obj [("id", target)]])] }
    let r : Resource :=
      { id := "vm", providerId := "42", type := "linode", specs := [("attached_firewalls", .arr
        [.obj [("id", .str "9")], .obj [("id", .int 9)], .str "8", .obj [("id", .bool true)]])] }
    let inv : Inventory := ⟨"a", [r, fw "f" "7" (.int 42), fw "g" "9" (.int 42),
      fw "h" "7" (.str "42"), fw "i" "8" (.int 43)], ⟨2026, 3, 1, 9, 0, 0, 0, some 0⟩⟩
    inv.HasFiniteIds r ∧ r.attachedNumbers ++ inv.targetingNumbers r = [9, 9, 1, 7, 9, 7] ∧
      (inv.protectors r).toOption.map (·.map (·.number)) = some [9, 1, 7] ∧
      inv.IsSearchable r ∧ Gives (firewallAttached rule r inv) .compliant := by
  intro rule fw r inv
  have h : inv.HasFiniteIds r := ⟨by decide +kernel, by decide +kernel⟩
  have hnumbers : r.attachedNumbers ++ inv.targetingNumbers r = [9, 9, 1, 7, 9, 7] := by
    decide +kernel
  obtain ⟨hok, -, hcompliant, -⟩ := @firewallAttached_iff rule r inv h
  have hs : inv.IsSearchable r := hok.mp (of_isOk (by decide +kernel))
  refine ⟨h, hnumbers, by decide +kernel, hs, hcompliant.mpr ⟨hs, ?_⟩⟩
  rw [hnumbers]
  exact List.cons_ne_nil _ _

/-- A firewall names the instance, but the instance's own list is a number, which has no items: that
is a fault, and the firewall does not come up. -/
theorem firewallAttached_iff_unreadable :
    let rule : Rule := ⟨"fw", "Firewall", "", ["linode"], "firewall_attached", [], .warning, true,
      none, false⟩
    let r : Resource :=
      { id := "vm", providerId := "42", type := "linode",
        specs := [("attached_firewalls", .int 5)] }
    let fw : Resource :=
      { id := "f", providerId := "9", label := "edge", type := "firewall",
        specs := [("entities", .arr [.obj [("id", .int 42)]])] }
    let inv : Inventory := ⟨"a", [r, fw], ⟨2026, 3, 1, 9, 0, 0, 0, some 0⟩⟩
    inv.HasFiniteIds r ∧ r.attachedNumbers ++ inv.targetingNumbers r = [9] ∧
      (inv.protectors r).toOption.isNone ∧ ¬ Gives (firewallAttached rule r inv) .compliant := by
  intro rule r fw inv
  rw [gives_iff]
  exact ⟨⟨by decide +kernel, by decide +kernel⟩, by decide +kernel, by decide +kernel,
    by decide +kernel⟩

end Check

end CloudAudit
