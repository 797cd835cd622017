import Mathlib.Data.List.Forall2
import Mathlib.Data.List.Perm.Basic

namespace CloudAudit.Result

variable {ε α β : Type} {x : Except ε α} {f : α → Except ε β} {b : β} {as : List α} {bs : List β}

theorem of_isOk (h : x.isOk = true) : ∃ a, x = .ok a := by
  cases x with
  | error e => cases h
  | ok a => exact ⟨a, rfl⟩

theorem bind_eq_ok : x >>= f = .ok b ↔ ∃ a, x = .ok a ∧ f a = .ok b := by
  cases x with
  | error e => exact ⟨nofun, fun ⟨_, h, _⟩ => nomatch h⟩
  | ok a =>
    constructor
    · exact fun h => ⟨a, rfl, h⟩
    · rintro ⟨_, ⟨⟩, h⟩
      exact h

theorem bind_eq_error {e : ε} :
    x >>= f = .error e ↔ x = .error e ∨ ∃ a, x = .ok a ∧ f a = .error e := by
  cases x with
  | error e' =>
    constructor
    · rintro ⟨⟩
      exact .inl rfl
    · rintro (h | ⟨_, h, _⟩)
      · cases h
        rfl
      · cases h
  | ok a =>
    constructor
    · exact fun h => .inr ⟨a, rfl, h⟩
    · rintro (h | ⟨_, ⟨⟩, h⟩)
      · cases h
      · exact h

theorem map_eq_ok {g : α → β} : x.map g = .ok b ↔ ∃ a, x = .ok a ∧ g a = b := by
  cases x with
  | error e => exact ⟨nofun, fun ⟨_, h, _⟩ => nomatch h⟩
  | ok a =>
    constructor
    · exact fun h => ⟨a, rfl, Except.ok.inj h⟩
    · rintro ⟨_, ⟨⟩, rfl⟩
      rfl

theorem mapError_eq_ok {ι : Type} {k : ε → ι} {a : α} : x.mapError k = .ok a ↔ x = .ok a := by
  cases x with
  | error e => exact ⟨nofun, nofun⟩
  | ok b => exact ⟨fun h => congrArg Except.ok (Except.ok.inj h), fun h => h ▸ rfl⟩

theorem mapError_eq_error {ι : Type} {k : ε → ι} {i : ι} :
    x.mapError k = .error i ↔ ∃ e, x = .error e ∧ k e = i := by
  cases x with
  | error e =>
    constructor
    · exact fun h => ⟨e, rfl, Except.error.inj h⟩
    · rintro ⟨_, ⟨⟩, rfl⟩
      rfl
  | ok a =>
    constructor
    · intro h
      cases h
    · rintro ⟨_, h, _⟩
      cases h

theorem of_map_toOption {γ : Type} {g : α → γ} {c : γ} (h : x.toOption.map g = some c) :
    ∃ a, x = .ok a ∧ g a = c := by
  cases x with
  | error e => cases h
  | ok a => exact ⟨a, rfl, Option.some.inj h⟩

theorem mapM_eq_ok : as.mapM f = .ok bs ↔ List.Forall₂ (fun a b => f a = .ok b) as bs := by
  induction as generalizing bs with
  | nil =>
    rw [List.mapM_nil, List.forall₂_nil_left_iff]
    exact ⟨fun h => (Except.ok.inj h).symm, fun h => h ▸ rfl⟩
  | cons a as ih =>
    rw [List.mapM_cons, bind_eq_ok, List.forall₂_cons_left_iff]
    constructor
    · rintro ⟨b, hb, h⟩
      obtain ⟨bs, hbs, h⟩ := bind_eq_ok.mp h
      exact ⟨b, bs, hb, ih.mp hbs, (Except.ok.inj h).symm⟩
    · rintro ⟨b, bs, hb, hbs, rfl⟩
      exact ⟨b, hb, bind_eq_ok.mpr ⟨bs, ih.mpr hbs, rfl⟩⟩

theorem mapM_ok (h : ∀ a ∈ as, ∃ b, f a = .ok b) : ∃ bs, as.mapM f = .ok bs := by
  induction as with
  | nil => exact ⟨[], rfl⟩
  | cons a as ih =>
    obtain ⟨b, hb⟩ := h a List.mem_cons_self
    obtain ⟨bs, hbs⟩ := ih fun a ha => h a (List.mem_cons_of_mem _ ha)
    exact ⟨b :: bs, mapM_eq_ok.mpr (.cons hb (mapM_eq_ok.mp hbs))⟩

theorem mapM_ne_nil (h : as.mapM f = .ok bs) (ha : as ≠ []) : bs ≠ [] := by
  rintro rfl
  exact ha (List.forall₂_nil_right_iff.mp (mapM_eq_ok.mp h))

theorem of_mem_mapM {a : α} (h : as.mapM f = .ok bs) (ha : a ∈ as) : ∃ b, f a = .ok b := by
  induction mapM_eq_ok.mp h with
  | nil => cases ha
  | cons hb hbs ih =>
    obtain rfl | ha := List.mem_cons.mp ha
    · exact ⟨_, hb⟩
    · exact ih (mapM_eq_ok.mpr hbs) ha

theorem of_mem_of_mapM (h : as.mapM f = .ok bs) (hb : b ∈ bs) : ∃ a ∈ as, f a = .ok b := by
  induction mapM_eq_ok.mp h with
  | nil => cases hb
  | @cons a _ _ _ ha has ih =>
    obtain rfl | hb := List.mem_cons.mp hb
    · exact ⟨a, List.mem_cons_self, ha⟩
    · obtain ⟨a', ha', he⟩ := ih (mapM_eq_ok.mpr has) hb
      exact ⟨a', List.mem_cons_of_mem _ ha', he⟩

theorem eq_map_of_mapM {g : α → β} (h : as.mapM f = .ok bs)
    (hg : ∀ a ∈ as, ∀ b, f a = .ok b → b = g a) : bs = as.map g := by
  induction mapM_eq_ok.mp h with
  | nil => rfl
  | @cons a b as bs hb hbs ih =>
    rw [List.map_cons, hg a List.mem_cons_self b hb,
      ih (mapM_eq_ok.mpr hbs) fun a ha => hg a (List.mem_cons_of_mem _ ha)]

theorem of_mem_forall₂ {R : α → β → Prop} {a : α} (h : List.Forall₂ R as bs) (ha : a ∈ as) :
    ∃ before b after, bs = before ++ b :: after ∧ R a b := by
  induction h with
  | nil => cases ha
  | @cons _ b _ bs hb hbs ih =>
    obtain rfl | ha := List.mem_cons.mp ha
    · exact ⟨[], b, bs, rfl, hb⟩
    · obtain ⟨before, c, after, rfl, hc⟩ := ih ha
      exact ⟨b :: before, c, after, rfl, hc⟩

theorem mapM_filter_ok (p : α → Bool) (h : as.mapM f = .ok bs) :
    ∃ bs', (as.filter p).mapM f = .ok bs' := by
  induction mapM_eq_ok.mp h with
  | nil => exact ⟨[], rfl⟩
  | @cons a b as bs hb hbs ih =>
    obtain ⟨bs', h'⟩ := ih (mapM_eq_ok.mpr hbs)
    rw [List.filter_cons]
    split
    · exact ⟨b :: bs', mapM_eq_ok.mpr (.cons hb (mapM_eq_ok.mp h'))⟩
    · exact ⟨bs', h'⟩

theorem run_bind {σ : Type} (m : ExceptT ε (StateM σ) α) (g : α → ExceptT ε (StateM σ) β) (s : σ) :
    (m >>= g).run s = match m.run s with
      | (.ok a, s) => (g a).run s
      | (.error e, s) => (.error e, s) := by
  change (match m.run s with | (r, s) => ExceptT.bindCont g r s) = _
  cases m.run s with
  | mk r s => cases r <;> rfl

theorem of_run_bind {σ : Type} {m : ExceptT ε (StateM σ) α} {g : α → ExceptT ε (StateM σ) β}
    {s s₂ : σ} (h : (m >>= g).run s = (.ok b, s₂)) :
    ∃ a s₁, m.run s = (.ok a, s₁) ∧ (g a).run s₁ = (.ok b, s₂) := by
  rw [run_bind] at h
  cases hm : m.run s with
  | mk r s₁ =>
    rw [hm] at h
    cases r with
    | error e => cases h
    | ok a => exact ⟨a, s₁, rfl, h⟩

/-- A computation fails with faults of one sort only. -/
def FailsOnly (Q : ε → Prop) (x : Except ε α) : Prop := ∀ e, x = .error e → Q e

section FailsOnly

variable {Q : ε → Prop} {c : Prop} [Decidable c] {y : Except ε α} {a : α} {e : ε}

@[simp]
theorem failsOnly_pure : FailsOnly Q (pure a : Except ε α) := nofun

@[simp]
theorem failsOnly_ok : FailsOnly Q (.ok a : Except ε α) := nofun

@[simp]
theorem failsOnly_error : FailsOnly Q (.error e : Except ε α) ↔ Q e := by
  constructor
  · intro h
    exact h e rfl
  · rintro h _ ⟨⟩
    exact h

@[simp]
theorem failsOnly_throw : FailsOnly Q (throw e : Except ε α) ↔ Q e := failsOnly_error

@[simp]
theorem failsOnly_true : FailsOnly (fun _ => True) x := fun _ _ => trivial

@[simp]
theorem failsOnly_bind :
    FailsOnly Q (x >>= f) ↔ FailsOnly Q x ∧ ∀ a, x = .ok a → FailsOnly Q (f a) := by
  cases x with
  | error e =>
    change FailsOnly Q (.error e) ↔ _
    simp
  | ok a =>
    change FailsOnly Q (f a) ↔ _
    simp

@[simp]
theorem failsOnly_map {g : α → β} : FailsOnly Q (x.map g) ↔ FailsOnly Q x := by
  cases x with
  | error e => exact failsOnly_error.trans failsOnly_error.symm
  | ok a => simp [Except.map]

@[simp]
theorem failsOnly_functor_map {g : α → β} : FailsOnly Q (g <$> x) ↔ FailsOnly Q x := failsOnly_map

@[simp]
theorem failsOnly_ite : FailsOnly Q (if c then x else y) ↔
    (c → FailsOnly Q x) ∧ (¬ c → FailsOnly Q y) := by
  split <;> simp [*]

theorem failsOnly_mapM (h : ∀ a ∈ as, FailsOnly Q (f a)) : FailsOnly Q (as.mapM f) := by
  induction as with
  | nil => exact failsOnly_pure
  | cons a as ih =>
    have ih := ih fun a ha => h a (List.mem_cons_of_mem _ ha)
    rw [List.mapM_cons, failsOnly_bind]
    refine ⟨h a List.mem_cons_self, fun b _ => ?_⟩
    rw [failsOnly_bind]
    exact ⟨ih, fun bs _ => failsOnly_pure⟩

theorem failsOnly_foldlM {f : β → α → Except ε β} {b : β}
    (h : ∀ b, ∀ a ∈ as, FailsOnly Q (f b a)) : FailsOnly Q (as.foldlM f b) := by
  induction as generalizing b with
  | nil => exact failsOnly_pure
  | cons a as ih =>
    rw [List.foldlM_cons, failsOnly_bind]
    exact ⟨h b a List.mem_cons_self, fun b _ => ih fun b a ha => h b a (List.mem_cons_of_mem _ ha)⟩

end FailsOnly

/-- Two computations fail alike: both or neither, and results are related. -/
inductive Alike (R : α → β → Prop) : Except ε α → Except ε β → Prop
  | ok {a b} : R a b → Alike R (.ok a) (.ok b)
  | error (e e' : ε) : Alike R (.error e) (.error e')

namespace Alike

variable {γ δ ι : Type} {R : α → β → Prop} {S : γ → δ → Prop} {y : Except ε β}

theorem refl {R : α → α → Prop} (h : ∀ a, R a a) (x : Except ε α) : Alike R x x := by
  cases x with
  | error e => exact .error e e
  | ok a => exact .ok (h a)

theorem trans {R : α → α → Prop} {x y z : Except ε α} (h : Alike R x y) (h' : Alike R y z)
    (hR : ∀ a b c, R a b → R b c → R a c) : Alike R x z := by
  cases h with
  | error e e' =>
    cases h' with
    | error e' e'' => exact .error e e''
  | ok hab =>
    cases h' with
    | ok hbc => exact .ok (hR _ _ _ hab hbc)

theorem bind {f : α → Except ε γ} {g : β → Except ε δ} (h : Alike R x y)
    (hfg : ∀ a b, R a b → Alike S (f a) (g b)) : Alike S (x >>= f) (y >>= g) := by
  cases h with
  | ok hab => exact hfg _ _ hab
  | error e e' => exact .error e e'

theorem map {f : α → γ} {g : β → δ} (h : Alike R x y) (hfg : ∀ a b, R a b → S (f a) (g b)) :
    Alike S (x.map f) (y.map g) := by
  cases h with
  | ok hab => exact .ok (hfg _ _ hab)
  | error e e' => exact .error e e'

theorem mapError (k : ε → ι) (h : Alike R x y) : Alike R (x.mapError k) (y.mapError k) := by
  cases h with
  | ok hab => exact .ok hab
  | error e e' => exact .error (k e) (k e')

theorem mapM {as' : List α} (h : as.Perm as') (f : α → Except ε β) :
    Alike List.Perm (as.mapM f) (as'.mapM f) := by
  induction h with
  | nil => exact .ok .nil
  | cons a _ ih =>
    rw [List.mapM_cons, List.mapM_cons]
    exact (refl Eq.refl (f a)).bind fun b _ hb => ih.bind fun _ _ h => .ok (hb ▸ h.cons b)
  | swap a a' as =>
    -- If either item fails both orders fail, each with the fault of its first failing item.
    simp only [List.mapM_cons]
    cases f a with
    | error e =>
      cases f a' with
      | error e' => exact .error e' e
      | ok b' => exact .error e e
    | ok b =>
      cases f a' with
      | error e' => exact .error e' e'
      | ok b' =>
        cases as.mapM f with
        | error e => exact .error e e
        | ok bs => exact .ok (.swap b b' bs)
  | trans _ _ ih ih' => exact ih.trans ih' fun _ _ _ => List.Perm.trans

end Alike

theorem flatMap_of_mapM {γ : Type} (g : β → List γ) (h : as.mapM f = .ok bs) :
    bs.flatMap g = as.flatMap fun a => ((f a).toOption.map g).getD [] := by
  induction mapM_eq_ok.mp h with
  | nil => rfl
  | cons hb hbs ih =>
    rw [List.flatMap_cons, List.flatMap_cons, hb, ih (mapM_eq_ok.mpr hbs)]
    rfl

theorem perm_of_mapM {as' : List α} {bs' : List β} {f' : α → Except ε β} {γ : Type}
    (g : β → List γ) (h : as.Perm as') (hf : as.mapM f = .ok bs) (hf' : as'.mapM f' = .ok bs')
    (hg : ∀ a ∈ as, ∀ b b', f a = .ok b → f' a = .ok b' → (g b).Perm (g b')) :
    (bs.flatMap g).Perm (bs'.flatMap g) := by
  rw [flatMap_of_mapM g hf, flatMap_of_mapM g hf']
  refine h.flatMap fun a ha => ?_
  obtain ⟨b, hb⟩ := of_mem_mapM hf ha
  obtain ⟨b', hb'⟩ := of_mem_mapM hf' (h.mem_iff.mp ha)
  rw [hb, hb']
  exact hg a ha b b' hb hb'

end CloudAudit.Result
