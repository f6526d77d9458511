import Mathlib.Data.List.Forall2

/-!
# Sequences of steps that can fail

A computation in `Except` succeeds exactly when each of its steps does, and fails with the first
error; these lemmas take one apart, step by step.

* `mapM_eq_ok` — a step taken for each of several items succeeds for all or not at all.
* `foldlM_eq_error` — a run fails where one of its steps does.
* `FailsWith` — all that a computation can fail with; a sequence fails with what its steps do.
* `Agree` — two computations fail with the same error or succeed with related values.
* `Agree.bind`, `Agree.foldlM` — agreement carries over from the steps to a sequence of them.
-/

set_option autoImplicit false

namespace Patchwork

variable {ε δ α β : Type}

@[simp] theorem ok_bind (a : α) (f : α → Except ε β) : (Except.ok a >>= f) = f a := rfl

@[simp] theorem error_bind (e : ε) (f : α → Except ε β) : (Except.error e >>= f) = .error e := rfl

@[simp] theorem map_ok (f : α → β) (a : α) : f <$> (Except.ok a : Except ε α) = .ok (f a) := rfl

@[simp] theorem map_error (f : α → β) (e : ε) : f <$> (Except.error e : Except ε α) = .error e :=
  rfl

@[simp] theorem bind_ok (x : Except ε α) : (x >>= fun a => .ok a) = x := by
  cases x <;> rfl

theorem bind_eq_ok {x : Except ε α} {f : α → Except ε β} {b : β} :
    (x >>= f) = .ok b ↔ ∃ a, x = .ok a ∧ f a = .ok b := by
  cases x <;> simp

theorem bind_eq_error {x : Except ε α} {f : α → Except ε β} {e : ε} :
    (x >>= f) = .error e ↔ x = .error e ∨ ∃ a, x = .ok a ∧ f a = .error e := by
  cases x <;> simp

theorem bind_pure_eq_error {x : Except ε α} {f : α → β} {e : ε} :
    (x >>= fun a => pure (f a)) = .error e ↔ x = .error e := by
  cases x <;> simp [pure, Except.pure]

theorem map_eq_error {x : Except ε α} {f : α → β} {e : ε} :
    f <$> x = .error e ↔ x = .error e := by
  cases x <;> simp

theorem map_eq_ok {x : Except ε α} {f : α → β} {b : β} :
    f <$> x = .ok b ↔ ∃ a, x = .ok a ∧ f a = b := by
  cases x <;> simp

@[simp] theorem mapError_ok (f : ε → δ) (a : α) :
    (Except.ok a : Except ε α).mapError f = .ok a := rfl

@[simp] theorem mapError_error (f : ε → δ) (e : ε) :
    (Except.error e : Except ε α).mapError f = .error (f e) := rfl

theorem mapError_eq_ok {x : Except ε α} {f : ε → δ} {a : α} :
    x.mapError f = .ok a ↔ x = .ok a := by
  cases x <;> simp

theorem mapError_bind (x : Except ε α) (f : α → Except ε β) (g : ε → δ) :
    (x >>= f).mapError g = x.mapError g >>= fun a => (f a).mapError g := by
  cases x <;> rfl

theorem toOption_eq_some {x : Except ε α} {a : α} : x.toOption = some a ↔ x = .ok a := by
  cases x <;> simp [Except.toOption]

/-- A step taken for each item succeeds if it does for every one, with its result for each. -/
theorem mapM_eq_ok {f : α → Except ε β} {as : List α} {bs : List β} :
    as.mapM f = .ok bs ↔ List.Forall₂ (fun a b => f a = .ok b) as bs := by
  induction as generalizing bs with
  | nil => simp [pure, Except.pure, eq_comm]
  | cons a rest ih =>
    rw [List.mapM_cons, List.forall₂_cons_left_iff]
    simp only [bind_eq_ok, ih]
    constructor
    · rintro ⟨b, hb, bs', hbs', h⟩
      cases h
      exact ⟨b, bs', hb, hbs', rfl⟩
    · rintro ⟨b, bs', hb, hbs', rfl⟩
      exact ⟨b, hb, bs', hbs', rfl⟩

/-- Each result of a step taken for every item is that for one of them. -/
theorem exists_of_mapM_eq_ok {f : α → Except ε β} {as : List α} {bs : List β} {b : β}
    (h : as.mapM f = .ok bs) (hb : b ∈ bs) : ∃ a ∈ as, f a = .ok b := by
  induction mapM_eq_ok.1 h with
  | nil => cases hb
  | @cons a b' rest others hfirst hrest ih =>
    obtain rfl | hb := List.mem_cons.1 hb
    · exact ⟨a, List.mem_cons_self, hfirst⟩
    · obtain ⟨a', ha', hb'⟩ := ih (mapM_eq_ok.2 hrest) hb
      exact ⟨a', List.mem_cons_of_mem _ ha', hb'⟩

/-- A run fails with the error of one of its steps, which comes after steps that succeed. -/
theorem foldlM_eq_error {γ : Type} {f : α → γ → Except ε α} {l : List γ} {a : α} {e : ε} :
    l.foldlM f a = .error e ↔
      ∃ before c after b, l = before ++ c :: after ∧ before.foldlM f a = .ok b ∧
        f b c = .error e := by
  induction l generalizing a with
  | nil => simp [pure, Except.pure]
  | cons c rest ih =>
    simp only [List.foldlM_cons, bind_eq_error, ih]
    constructor
    · rintro (h | ⟨a', ha', before, c', after, b, rfl, hbefore, h⟩)
      · exact ⟨[], c, rest, a, rfl, rfl, h⟩
      · refine ⟨c :: before, c', after, b, rfl, ?_, h⟩
        rw [List.foldlM_cons, ha', ok_bind, hbefore]
    · rintro ⟨before, c', after, b, hl, hbefore, h⟩
      cases before with
      | nil =>
        cases hl
        cases hbefore
        exact .inl h
      | cons c'' before =>
        obtain ⟨rfl, rfl⟩ := List.cons_eq_cons.1 hl
        rw [List.foldlM_cons] at hbefore
        obtain ⟨a', ha', hbefore⟩ := bind_eq_ok.1 hbefore
        exact .inr ⟨a', ha', before, c', after, b, rfl, hbefore, h⟩

/-! ## Errors -/

/-- Every error that the computation ends with satisfies `P`. -/
def FailsWith (P : ε → Prop) (x : Except ε α) : Prop := ∀ e, x = .error e → P e

section FailsWith

variable {P Q : ε → Prop} {x : Except ε α}

theorem failsWith_ok (a : α) : FailsWith P (.ok a) := nofun

theorem FailsWith.imp (h : FailsWith P x) (himp : ∀ e, P e → Q e) : FailsWith Q x :=
  fun e he => himp e (h e he)

/-- A sequence fails with what its first step fails with or what the rest of it does. -/
theorem FailsWith.bind {f : α → Except ε β} (h : FailsWith P x)
    (hf : ∀ a, x = .ok a → FailsWith P (f a)) : FailsWith P (x >>= f) := by
  intro e he
  rcases bind_eq_error.1 he with hx | ⟨a, ha, he⟩
  · exact h e hx
  · exact hf a ha e he

theorem FailsWith.map (h : FailsWith P x) (f : α → β) : FailsWith P (f <$> x) :=
  fun e he => h e (map_eq_error.1 he)

/-- A computation whose errors are put into others fails with those. -/
theorem FailsWith.mapError {f : ε → δ} {R : δ → Prop} (h : FailsWith P x)
    (himp : ∀ e, P e → R (f e)) : FailsWith R (x.mapError f) := by
  intro e he
  cases x with
  | ok a => cases he
  | error e' =>
    cases he
    exact himp e' (h e' rfl)

end FailsWith

/-! ## Agreement -/

/-- Two outcomes agree: the same error, or values that are related. -/
inductive Agree (R : α → β → Prop) : Except ε α → Except ε β → Prop where
  | ok {a : α} {b : β} (h : R a b) : Agree R (.ok a) (.ok b)
  | error (e : ε) : Agree R (.error e) (.error e)

theorem Agree.refl (x : Except ε α) : Agree (· = ·) x x := by
  cases x with
  | ok a => exact .ok rfl
  | error e => exact .error e

theorem Agree.eq {x y : Except ε α} (h : Agree (· = ·) x y) : x = y := by
  cases h with
  | ok h => rw [h]
  | error e => rfl

/-- What agrees with a failure fails with the same error. -/
theorem Agree.error_iff {R : α → β → Prop} {x : Except ε α} {y : Except ε β} (h : Agree R x y)
    {e : ε} : x = .error e ↔ y = .error e := by
  cases h with
  | ok hr => exact ⟨nofun, nofun⟩
  | error e => exact Iff.of_eq (by rw [Except.error.injEq, Except.error.injEq])

theorem Agree.imp {R S : α → β → Prop} {x : Except ε α} {y : Except ε β} (h : Agree R x y)
    (himp : ∀ a b, R a b → S a b) : Agree S x y := by
  cases h with
  | ok hr => exact .ok (himp _ _ hr)
  | error e => exact .error e

theorem Agree.map {γ δ : Type} {R : α → β → Prop} {S : γ → δ → Prop} {x : Except ε α}
    {y : Except ε β} {f : α → γ} {g : β → δ} (h : Agree R x y)
    (hstep : ∀ a b, R a b → S (f a) (g b)) : Agree S (f <$> x) (g <$> y) := by
  cases h with
  | ok hr => exact .ok (hstep _ _ hr)
  | error e => exact .error e

/-- What agrees with a success succeeds. -/
theorem Agree.exists_ok {R : α → β → Prop} {x : Except ε α} {b : β} (h : Agree R x (.ok b)) :
    ∃ a, x = .ok a ∧ R a b := by
  cases h with
  | ok hr => exact ⟨_, rfl, hr⟩

theorem Agree.exists_ok_right {R : α → β → Prop} {y : Except ε β} {a : α}
    (h : Agree R (.ok a) y) : ∃ b, y = .ok b ∧ R a b := by
  cases h with
  | ok hr => exact ⟨_, rfl, hr⟩

/-- Two outcomes that agree with a third agree. -/
theorem Agree.trans {γ : Type} {R : α → γ → Prop} {S : β → γ → Prop} {x : Except ε α}
    {y : Except ε β} {z : Except ε γ} (h : Agree R x z) (h' : Agree S y z) :
    Agree (fun a b => ∃ c, R a c ∧ S b c) x y := by
  cases h with
  | ok hr =>
    cases h' with
    | ok hs => exact .ok ⟨_, hr, hs⟩
  | error e =>
    cases h' with
    | error e => exact .error e

theorem Agree.bind {γ γ' : Type} {R : α → β → Prop} {S : γ → γ' → Prop} {x : Except ε α}
    {y : Except ε β} {f : α → Except ε γ} {g : β → Except ε γ'} (h : Agree R x y)
    (hstep : ∀ a b, R a b → Agree S (f a) (g b)) : Agree S (x >>= f) (y >>= g) := by
  cases h with
  | ok hr => exact hstep _ _ hr
  | error e => exact .error e

/-- Steps that keep two states related keep them related over a whole run. -/
theorem Agree.foldlM {γ : Type} {R : α → β → Prop} {f : α → γ → Except ε α}
    {g : β → γ → Except ε β} (hstep : ∀ a b c, R a b → Agree R (f a c) (g b c)) {l : List γ} {a : α}
    {b : β} (h : R a b) : Agree R (l.foldlM f a) (l.foldlM g b) := by
  induction l generalizing a b with
  | nil => exact .ok h
  | cons c rest ih =>
    rw [List.foldlM_cons, List.foldlM_cons]
    exact (hstep a b c h).bind fun a' b' h' => ih h'

end Patchwork
