import Mathlib.Data.List.Pairwise
import CloudAudit.Check.Protection
import CloudAudit.Proofs.Result

namespace CloudAudit

variable {inv : Inventory} {resources fws : List Resource} {fw fw' : Resource} {n : Int}

/-- No two firewalls of the inventory have one number. -/
def Inventory.NumbersApart (inv : Inventory) : Prop :=
  (inv.firewalls.filterMap Resource.numericId?).Nodup

namespace Protector

variable {target : Int} {attached extra : List Protector}

/-- What a firewall adds to the protectors of a resource. -/
def added? (target : Int) (found : List Protector) (fw : Resource) :
    Except DataFault (Option Protector) :=
  match fw.numericId? with
  | none => .ok none
  | some n =>
    if isKnown found n then .ok none
    else do
      let entities ← (fw.spec "entities").itemsOrNone
      if ← isTarget target entities then .ok (some ⟨n, .str fw.label, .str fw.status⟩)
      else .ok none

theorem addTargeting_eq (target : Int) (found : List Protector) (fw : Resource) :
    addTargeting target found fw = (added? target found fw).map (found ++ ·.toList) := by
  rw [addTargeting, added?]
  cases fw.numericId? with
  | none => exact congrArg Except.ok (List.append_nil found).symm
  | some n =>
    dsimp only
    split
    · exact congrArg Except.ok (List.append_nil found).symm
    · cases (fw.spec "entities").itemsOrNone with
      | error e => rfl
      | ok entities =>
        change (isTarget target entities >>= _) = (isTarget target entities >>= _).map _
        cases isTarget target entities with
        | error e => rfl
        | ok b =>
          cases b with
          | false => exact congrArg Except.ok (List.append_nil found).symm
          | true => rfl

theorem number_of_added? {p : Protector} (h : added? target attached fw = .ok (some p)) :
    fw.numericId? = some p.number := by
  rw [added?] at h
  split at h
  · cases h
  case h_2 n hn =>
    split at h
    · cases h
    · obtain ⟨entities, -, h⟩ := Result.bind_eq_ok.mp h
      obtain ⟨b, -, h⟩ := Result.bind_eq_ok.mp h
      split at h
      · cases h
        exact hn
      · cases h

theorem added?_append (h : ∀ p ∈ extra, fw.numericId? ≠ some p.number) :
    added? target (attached ++ extra) fw = added? target attached fw := by
  rw [added?, added?]
  cases hn : fw.numericId? with
  | none => rfl
  | some n =>
    have he : isKnown extra n = false := by
      rw [isKnown, List.any_eq_false]
      intro p hp
      rw [beq_iff_eq]
      exact fun hpn => h p hp (hpn ▸ hn)
    have hk : isKnown (attached ++ extra) n = isKnown attached n := by
      rw [isKnown, List.any_append]
      exact (congrArg _ he).trans (Bool.or_false _)
    dsimp only
    rw [hk]

theorem foldlM_addTargeting (hn : (fws.filterMap Resource.numericId?).Nodup)
    (hx : ∀ p ∈ extra, ∀ fw ∈ fws, fw.numericId? ≠ some p.number) :
    fws.foldlM (addTargeting target) (attached ++ extra) =
      (fws.mapM (added? target attached)).map (attached ++ extra ++ ·.flatMap Option.toList) := by
  induction fws generalizing extra with
  | nil => exact congrArg Except.ok (List.append_nil _).symm
  | cons fw fws ih =>
    obtain ⟨hfw, hp⟩ := List.pairwise_cons.mp (List.pairwise_filterMap.mp hn)
    have hn' : (fws.filterMap Resource.numericId?).Nodup := List.pairwise_filterMap.mpr hp
    have hx' : ∀ p ∈ extra, ∀ fw ∈ fws, fw.numericId? ≠ some p.number :=
      fun p hp fw hfw => hx p hp fw (List.mem_cons_of_mem _ hfw)
    rw [List.foldlM_cons, addTargeting_eq, added?_append fun p hp => hx p hp fw List.mem_cons_self,
      List.mapM_cons]
    cases ha : added? target attached fw with
    | error e => rfl
    | ok p =>
      have hstep : fws.foldlM (addTargeting target) (attached ++ extra ++ p.toList) =
          (fws.mapM (added? target attached)).map
            (attached ++ extra ++ p.toList ++ ·.flatMap Option.toList) := by
        rw [List.append_assoc]
        -- What was added so far has numbers that no later firewall has.
        refine ih hn' ?_
        intro q hq
        obtain hq | hq := List.mem_append.mp hq
        · exact hx' q hq
        · cases p with
          | none => cases hq
          | some p =>
            cases List.mem_singleton.mp hq
            intro fw' hfw' he
            exact hfw fw' hfw' _ (number_of_added? ha) _ he rfl
      refine hstep.trans ?_
      cases fws.mapM (added? target attached) with
      | error e => rfl
      | ok new => exact congrArg Except.ok (List.append_assoc _ _ _)

end Protector

namespace Inventory

theorem firewalls_perm (h : inv.resources.Perm resources) :
    inv.firewalls.Perm { inv with resources }.firewalls :=
  h.filter _

theorem NumbersApart.perm (hn : inv.NumbersApart) (h : inv.resources.Perm resources) :
    { inv with resources }.NumbersApart :=
  ((firewalls_perm h).filterMap _).nodup_iff.mp hn

/-- The protectors of a resource are the same in any order of the inventory. -/
theorem protectors_perm (hn : inv.NumbersApart) (h : inv.resources.Perm resources) (r : Resource) :
    Result.Alike List.Perm (inv.protectors r) ({ inv with resources }.protectors r) := by
  refine (Result.Alike.refl Eq.refl (r.spec "attached_firewalls").itemsOrNone).bind ?_
  rintro items _ rfl
  refine (Result.Alike.refl Eq.refl (items.foldlM Protector.addAttached [])).bind ?_
  rintro attached _ rfl
  cases r.numericId? with
  | none => exact .ok .rfl
  | some target =>
    have he (inv : Inventory) (hn : inv.NumbersApart) :
        inv.firewalls.foldlM (Protector.addTargeting target) attached =
          (inv.firewalls.mapM (Protector.added? target attached)).map
            (attached ++ ·.flatMap Option.toList) := by
      have hf := @Protector.foldlM_addTargeting inv.firewalls target attached [] hn nofun
      rwa [List.append_nil] at hf
    dsimp only
    rw [he inv hn, he _ (hn.perm h)]
    exact (Result.Alike.mapM (firewalls_perm h) _).map fun new new' hnew =>
      (hnew.flatMap_right _).append_left attached

theorem NumbersApart.eq (hn : inv.NumbersApart) (hfw : fw ∈ inv.firewalls)
    (hfw' : fw' ∈ inv.firewalls) (h : fw.numericId? = some n) (h' : fw'.numericId? = some n) :
    fw = fw' := by
  have hs : Std.Symm fun fw fw' : Resource =>
      ∀ m, fw.numericId? = some m → ∀ n, fw'.numericId? = some n → m ≠ n :=
    ⟨fun _ _ h m hm n hn => (h n hn m hm).symm⟩
  by_contra hne
  exact (List.pairwise_filterMap.mp hn).forall hfw hfw' hne n h n h' rfl

theorem firewall?_eq_some (hn : inv.NumbersApart) :
    inv.firewall? n = some fw ↔ fw ∈ inv.firewalls ∧ fw.numericId? = some n := by
  have found {fw} (h : inv.firewall? n = some fw) :
      fw ∈ inv.firewalls ∧ fw.numericId? = some n :=
    ⟨List.mem_reverse.mp (List.mem_of_find?_eq_some h), by simpa using List.find?_some h⟩
  constructor
  · exact found
  · rintro ⟨hm, hfw⟩
    have hs : (inv.firewall? n).isSome := by
      rw [firewall?, List.find?_isSome]
      exact ⟨fw, List.mem_reverse.mpr hm, beq_iff_eq.mpr hfw⟩
    obtain ⟨fw', h'⟩ := Option.isSome_iff_exists.mp hs
    rw [h', hn.eq (found h').1 hm (found h').2 hfw]

theorem firewall?_perm (hn : inv.NumbersApart) (h : inv.resources.Perm resources) :
    { inv with resources }.firewall? n = inv.firewall? n := by
  refine Option.ext fun fw => ?_
  rw [firewall?_eq_some hn, firewall?_eq_some (hn.perm h), (firewalls_perm h).mem_iff]

end Inventory

/-! ### Rules of firewalls -/

/-- The same resource, but perhaps with other firewall rules. -/
structure Resource.SameButRules (fw fw' : Resource) : Prop where
  same : fw' = { fw with specs := fw'.specs }
  specs : ∀ name, name ≠ "inbound_rules_detail" → name ≠ "outbound_rules_detail" →
    fw'.spec name = fw.spec name

/-- The same resource, but perhaps with other inbound rules. -/
structure Resource.SameButInbound (fw fw' : Resource) : Prop where
  same : fw' = { fw with specs := fw'.specs }
  specs : ∀ name, name ≠ "inbound_rules_detail" → fw'.spec name = fw.spec name

theorem Resource.SameButInbound.sameButRules (h : fw.SameButInbound fw') : fw.SameButRules fw' :=
  ⟨h.same, fun name hin _ => h.specs name hin⟩

namespace Resource.SameButRules

theorem refl (fw : Resource) : fw.SameButRules fw :=
  ⟨rfl, fun _ _ _ => rfl⟩

theorem type (h : fw.SameButRules fw') : fw'.type = fw.type := by
  rw [h.same]

theorem id (h : fw.SameButRules fw') : fw'.id = fw.id := by
  rw [h.same]

theorem label (h : fw.SameButRules fw') : fw'.label = fw.label := by
  rw [h.same]

theorem status (h : fw.SameButRules fw') : fw'.status = fw.status := by
  rw [h.same]

theorem numericId? (h : fw.SameButRules fw') : fw'.numericId? = fw.numericId? := by
  rw [h.same]
  rfl

theorem addTargeting (h : fw.SameButRules fw') (target : Int) (found : List Protector) :
    Protector.addTargeting target found fw' = Protector.addTargeting target found fw := by
  have he : fw'.spec "entities" = fw.spec "entities" := h.specs _ (by decide) (by decide)
  rw [Protector.addTargeting, Protector.addTargeting, h.numericId?, h.label, h.status, he]

end Resource.SameButRules

open Resource in
theorem foldlM_addTargeting_congr {fws' : List Resource}
    (h : List.Forall₂ SameButRules fws fws') (target : Int) (found : List Protector) :
    fws'.foldlM (Protector.addTargeting target) found =
      fws.foldlM (Protector.addTargeting target) found := by
  induction h generalizing found with
  | nil => rfl
  | cons hfw _ ih => simp only [List.foldlM_cons, hfw.addTargeting, ih]

namespace Inventory

theorem firewalls_forall₂ {R : Resource → Resource → Prop}
    (hR : ∀ fw fw', R fw fw' → fw.SameButRules fw') (h : List.Forall₂ R inv.resources resources) :
    List.Forall₂ R inv.firewalls { inv with resources }.firewalls :=
  List.rel_filter (fun _ _ hfw => by simp only [(hR _ _ hfw).type]) h

theorem firewall?_rel {R : Resource → Resource → Prop}
    (hR : ∀ fw fw', R fw fw' → fw.SameButRules fw') (h : List.Forall₂ R inv.resources resources)
    (n : Int) : Option.Rel R (inv.firewall? n) ({ inv with resources }.firewall? n) := by
  have find {fws fws' : List Resource} (hfws : List.Forall₂ R fws fws') :
      Option.Rel R (fws.find? (·.numericId? == some n)) (fws'.find? (·.numericId? == some n)) := by
    induction hfws with
    | nil => exact .none
    | cons hfw _ ih =>
      rw [List.find?_cons, List.find?_cons, (hR _ _ hfw).numericId?]
      split
      · exact .some hfw
      · exact ih
  exact find (List.forall₂_reverse_iff.mpr (firewalls_forall₂ hR h))

theorem protectors_sameButRules {r r' : Resource} (hr : r.SameButRules r')
    (h : List.Forall₂ Resource.SameButRules inv.resources resources) :
    { inv with resources }.protectors r' = inv.protectors r := by
  have ha : r'.spec "attached_firewalls" = r.spec "attached_firewalls" :=
    hr.specs _ (by decide) (by decide)
  have hfws := foldlM_addTargeting_congr (firewalls_forall₂ (fun _ _ hfw => hfw) h)
  simp only [protectors, ha, hr.numericId?, hfws]

theorem protectors_congr
    (h : List.Forall₂ Resource.SameButInbound inv.resources resources) (r : Resource) :
    { inv with resources }.protectors r = inv.protectors r :=
  protectors_sameButRules (.refl r) (h.imp fun _ _ hfw => hfw.sameButRules)

end Inventory

end CloudAudit
