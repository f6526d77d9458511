import Mathlib
import Patchwork.Proofs.Outcome
import Patchwork.Yaml.Node.Value

/-!
# Steps of making parts

What a step does where it succeeds: rules for results and states, step by step.

* `Ensures` — what holds of the result of a step from a given state, and of the state behind it.
* `Keeps` — the step keeps an invariant of the state.
* `Looks` — the step changes nothing; `looks_textOf` and the lemmas before it are for the steps that
  look something up.
-/

set_option autoImplicit false

namespace Patchwork
namespace Yaml

/-! ## Steps -/

section Steps

variable {α β : Type} {I : Assembly → Prop} {Q : α → Prop} {R : β → Prop}
  {m : Assembling α} {f : α → Assembling β} {s : Assembly}

/-- Where the step succeeds from a state, its result and the state behind it are in `post`. -/
def Ensures (m : Assembling α) (s : Assembly) (post : α → Assembly → Prop) : Prop :=
  ∀ a s', m.run s = .ok (a, s') → post a s'

theorem Ensures.bind {mid : α → Assembly → Prop} {post : β → Assembly → Prop}
    (hm : Ensures m s mid) (hf : ∀ a s', mid a s' → Ensures (f a) s' post) :
    Ensures (m >>= f) s post := by
  intro b s'' hrun
  rw [StateT.run_bind] at hrun
  obtain ⟨⟨a, s'⟩, hfirst, hrest⟩ := bind_eq_ok.1 hrun
  exact hf a s' (hm a s' hfirst) b s'' hrest

theorem ensures_pure {post : α → Assembly → Prop} {a : α} (h : post a s) :
    Ensures (pure a) s post := by
  rintro _ _ ⟨⟩
  exact h

theorem ensures_throw {post : α → Assembly → Prop} (e : ReadError) :
    Ensures (throw e) s post := nofun

theorem ensures_get_bind {f : Assembly → Assembling β} {post : β → Assembly → Prop}
    (h : Ensures (f s) s post) : Ensures (get >>= f) s post := h

theorem ensures_modify {g : Assembly → Assembly} {post : Unit → Assembly → Prop}
    (h : post () (g s)) : Ensures (modify g) s post := by
  rintro _ _ ⟨⟩
  exact h

theorem ensures_lift {x : Except ReadError α} {post : α → Assembly → Prop}
    (h : ∀ a, x = .ok a → post a s) : Ensures (liftM x) s post := by
  intro a s' hrun
  cases x with
  | error e => cases hrun
  | ok a =>
    cases hrun
    exact h a rfl

/-- The step keeps an invariant, and its result is in `Q`. -/
def Keeps (I : Assembly → Prop) (m : Assembling α) (Q : α → Prop) : Prop :=
  ∀ s, I s → Ensures m s fun a s' => I s' ∧ Q a

theorem Keeps.bind (hm : Keeps I m Q) (hf : ∀ a, Q a → Keeps I (f a) R) : Keeps I (m >>= f) R :=
  fun s hs => (hm s hs).bind fun a s' h => hf a h.2 s' h.1

theorem keeps_pure {a : α} (h : Q a) : Keeps I (pure a) Q := fun _ hs => ensures_pure ⟨hs, h⟩

theorem keeps_throw (e : ReadError) : Keeps I (throw e : Assembling α) Q :=
  fun _ _ => ensures_throw e

/-- The step changes nothing. -/
def Looks (m : Assembling α) : Prop := ∀ s, Ensures m s fun _ s' => s' = s

theorem Looks.bind (hm : Looks m) (hf : ∀ a, Looks (f a)) : Looks (m >>= f) :=
  fun s => (hm s).bind fun a s' h => h ▸ hf a s'

theorem looks_pure (a : α) : Looks (pure a) := fun _ => ensures_pure rfl

theorem looks_throw (e : ReadError) : Looks (throw e : Assembling α) := fun _ => ensures_throw e

theorem looks_get : Looks get := by
  rintro _ _ _ ⟨⟩
  rfl

theorem Looks.keeps (hm : Looks m) : Keeps I m fun _ => True :=
  fun s hs a s' hrun => ⟨hm s a s' hrun ▸ hs, trivial⟩

theorem keeps_forM {step : α → Assembling PUnit} (h : ∀ a, Keeps I (step a) fun _ => True)
    (items : List α) : Keeps I (items.forM step) fun _ => True := by
  induction items with
  | nil => exact keeps_pure trivial
  | cons item rest ih => exact (h item).bind fun _ _ => ih

end Steps

namespace Assembly

/-! ## Looking up -/

theorem looks_tagAt (id : NodeId) : Looks (tagAt id) := looks_get.bind fun _ => looks_pure _

theorem looks_contentAt (id : NodeId) : Looks (contentAt id) := looks_get.bind fun _ => looks_pure _

theorem looks_entriesAt (id : NodeId) : Looks (entriesAt id) :=
  (looks_contentAt id).bind fun content => by
    cases content <;> exact looks_pure _

theorem looks_itemsAt (id : NodeId) : Looks (itemsAt id) :=
  (looks_contentAt id).bind fun content => by
    cases content with
    | sequence items => exact looks_pure _
    | scalar | mapping => exact looks_throw _

theorem looks_mergeFuel : Looks mergeFuel := looks_get.bind fun _ => looks_pure _

theorem looks_valueEntry (entries : List Entry) : Looks ( valueEntry? entries) := by
  induction entries with
  | nil => exact looks_pure _
  | cons entry rest ih =>
    obtain ⟨k, v⟩ := entry
    refine (looks_tagAt k).bind fun tag => ?_
    split
    · exact looks_pure _
    · exact ih

theorem looks_textOf (fuel : Nat) (id : NodeId) : Looks (textOf fuel id) := by
  induction fuel generalizing id with
  | zero => exact looks_throw _
  | succ fuel ih =>
    refine (looks_contentAt id).bind fun content => ?_
    cases content with
    | scalar text => exact looks_pure _
    | sequence items => exact looks_throw _
    | mapping entries =>
      refine (looks_valueEntry entries).bind fun found => ?_
      cases found with
      | none => exact looks_throw _
      | some v => exact ih v

/-- The tag as it stands decides what comes next. -/
theorem ensures_tagAt_bind {β : Type} {s : Assembly} {id : NodeId} {f : Tag → Assembling β}
    {post : β → Assembly → Prop} (h : Ensures (f (s.tags.getD id .null)) s post) :
    Ensures (tagAt id >>= f) s post := h

/-- The content as it stands decides what comes next. -/
theorem ensures_contentAt_bind {β : Type} {s : Assembly} {id : NodeId} {f : Content → Assembling β}
    {post : β → Assembly → Prop} (h : Ensures (f (s.contents.getD id (.scalar ""))) s post) :
    Ensures (contentAt id >>= f) s post := h

/-- What stands at a place after a change is what was put there, or what stood there. -/
theorem getD_setIfInBounds {α : Type} (xs : Array α) (i j : Nat) (v d : α) :
    (xs.setIfInBounds i v).getD j d = v ∨ (xs.setIfInBounds i v).getD j d = xs.getD j d := by
  simp only [Array.getD_eq_getD_getElem?, Array.getElem?_setIfInBounds]
  split
  · subst_vars
    split
    · exact .inl rfl
    · exact .inr (by rw [Array.getElem?_eq_none (Nat.le_of_not_lt ‹_›)])
  · exact .inr rfl

end Assembly

end Yaml
end Patchwork
