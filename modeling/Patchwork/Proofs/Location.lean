import Patchwork.Conversion
import Patchwork.Proofs.Document.Blame
import Patchwork.Proofs.WellFormed

/-!
# Locations that are paths

A location is made of keys and positions in the way of a path, but keys stand in it as they are,
never in brackets.  As long as no key needs brackets, a location is the path of what stands there.

* `Location.below` — the location of a place.
* `Segment.Plain` — the segments that stand in a location as they do in a path.
* `Location.place?_below` — the location of a place gives the place back.
* `Location.getAt_below` — a document reads at a location what stands at its place.
-/

set_option autoImplicit false

namespace Patchwork

namespace Location

/-- The location of the part that a segment selects of what stands at `location`. -/
def step (location : Text) : Segment → Text
  | .field key => entry location key
  | .index i => item location i

/-- The location of a place below what stands at `location`. -/
def below (location : Text) (place : FieldPath) : Text := place.foldl step location

theorem part_eq_entry {location : Text} (h : location ≠ "") (key : Text) :
    part location key = entry location key := by
  rw [part, entry, if_neg]
  rwa [Text.isEmpty_iff]

theorem entry_ne_empty {location : Text} (h : location ≠ "") (key : Text) :
    entry location key ≠ "" := by
  rw [← part_eq_entry h, part]
  intro hempty
  exact h (Text.append_eq_empty_iff.1 (Text.append_eq_empty_iff.1 hempty).1).1

theorem item_ne_empty (location : Text) (i : Nat) : item location i ≠ "" := by
  unfold item
  intro hempty
  exact absurd (Text.append_eq_empty_iff.1 hempty).2 (by decide)

end Location

/-! ## Plain segments -/

namespace Segment

/-- The segment stands in a location as it does in a path: a key is not empty and needs no brackets,
and a position is one that an array can have. -/
def Plain : Segment → Prop
  | .field name => name ≠ "" ∧ needsBrackets name = false
  | .index i => i < Limit.countBound

variable {s : Segment}

theorem countBound_le : Limit.countBound ≤ 10 ^ Limit.maxDigits :=
  calc Limit.countBound
    _ ≤ 10 ^ 19 := by decide
    _ ≤ 10 ^ Limit.maxDigits := Nat.pow_le_pow_right (by decide) (by decide)

theorem Plain.addressable (h : s.Plain) : s.Addressable := by
  cases s with
  | index i => exact Nat.lt_of_lt_of_le h countBound_le
  | field name =>
    refine ⟨h.1, fun hclose => ?_⟩
    have hplain := List.any_eq_false.1 h.2 ']' hclose
    simp at hplain

theorem Plain.step_eq (h : s.Plain) (location : Text) :
    Location.step location s = append location s := by
  cases s with
  | index i => rfl
  | field name =>
    simp only [Location.step, Location.entry, append, h.2, Bool.false_eq_true, if_false]

end Segment

/-! ## Places and their locations -/

namespace Location

variable {place : FieldPath} {document : Value}

theorem below_eq_foldl (h : ∀ s ∈ place, s.Plain) (location : Text) :
    below location place = place.foldl Segment.append location := by
  induction place generalizing location with
  | nil => rfl
  | cons s rest ih =>
    obtain ⟨hs, hrest⟩ := List.forall_mem_cons.1 h
    rw [below, List.foldl_cons, hs.step_eq, List.foldl_cons]
    exact ih hrest _

theorem below_append (location : Text) (place more : FieldPath) :
    below location (place ++ more) = below (below location place) more :=
  List.foldl_append

/-- The location of a place of plain segments is its path. -/
theorem below_eq_join (h : ∀ s ∈ place, s.Plain) : below "" place = FieldPath.join place :=
  below_eq_foldl h ""

theorem addressable (h : ∀ s ∈ place, s.Plain) (hne : place ≠ []) :
    FieldPath.Addressable place :=
  ⟨hne, fun s hs => (h s hs).addressable⟩

theorem parse_below (h : ∀ s ∈ place, s.Plain) (hne : place ≠ []) :
    FieldPath.parse (below "" place) = .ok place := by
  rw [below_eq_join h, (addressable h hne).parse_join]

theorem below_eq_empty_iff (h : ∀ s ∈ place, s.Plain) : below "" place = "" ↔ place = [] := by
  constructor
  · intro hempty
    refine Decidable.byContradiction fun hne => ?_
    have hparse := parse_below h hne
    rw [hempty] at hparse
    cases hparse
  · rintro rfl
    rfl

/-- **A document reads at a location what stands at its place.** -/
theorem getAt_below (h : ∀ s ∈ place, s.Plain) (hne : place ≠ []) :
    document.getAt (below "" place) = Value.read place document := by
  rw [below_eq_join h, Value.getAt_join (addressable h hne)]

end Location
end Patchwork
