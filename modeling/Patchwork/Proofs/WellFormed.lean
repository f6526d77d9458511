import Patchwork.Value

/-!
# Well-formed values

A map has each of its keys once, and there is a number for each item of an array.  The lists that
maps and arrays are made of do not show it.

* `Value.holds_map_eq_false`, `Value.holds_list_eq_false` — what no part of a container is.
* `Value.WellFormed` — no text stands twice among the keys of a map, and no array is too long.
* `Value.lookup_of_mem` — an entry of a well-formed map is the one that is found under its key.
-/

set_option autoImplicit false

namespace Patchwork
namespace Value

variable {p : Value → Bool} {items : List Value} {entries : List (Value × Value)} {v key : Value}

/-! ## Parts of containers -/

theorem anyHolds_eq_false : anyHolds p items = false ↔ ∀ v ∈ items, v.holds p = false := by
  induction items with
  | nil => simp [anyHolds]
  | cons v rest ih => simp [anyHolds, ih]

theorem anyEntryHolds_eq_false :
    anyEntryHolds p entries = false ↔
      ∀ entry ∈ entries, entry.1.holds p = false ∧ entry.2.holds p = false := by
  induction entries with
  | nil => simp [anyEntryHolds]
  | cons entry rest ih => simp [anyEntryHolds, ih]

theorem holds_list_eq_false :
    (Value.list items).holds p = false ↔
      p (.list items) = false ∧ ∀ v ∈ items, v.holds p = false := by
  rw [holds, Bool.or_eq_false_iff, anyHolds_eq_false]

theorem holds_tuple_eq_false :
    (Value.tuple items).holds p = false ↔
      p (.tuple items) = false ∧ ∀ v ∈ items, v.holds p = false := by
  rw [holds, Bool.or_eq_false_iff, anyHolds_eq_false]

theorem holds_set_eq_false :
    (Value.set items).holds p = false ↔
      p (.set items) = false ∧ ∀ v ∈ items, v.holds p = false := by
  rw [holds, Bool.or_eq_false_iff, anyHolds_eq_false]

theorem holds_map_eq_false :
    (Value.map entries).holds p = false ↔ p (.map entries) = false ∧
      ∀ entry ∈ entries, entry.1.holds p = false ∧ entry.2.holds p = false := by
  rw [holds, Bool.or_eq_false_iff, anyEntryHolds_eq_false]

/-! ## Text keys -/

def textKeys : List (Value × Value) → List Text
  | [] => []
  | (.str key, _) :: rest => key :: textKeys rest
  | _ :: rest => textKeys rest

theorem mem_textKeys {key : Text} : key ∈ textKeys entries ↔ ∃ v, (.str key, v) ∈ entries := by
  fun_induction textKeys entries with
  | case1 => simp
  | case2 k v rest ih => simp [ih, exists_or, eq_comm]
  | case3 entry rest hne ih =>
    have hkey : ∀ v, (.str key, v) ≠ entry := fun v heq => hne key v heq.symm
    simp [ih, hkey]

theorem mem_of_lookup {key : Text} (h : lookup key entries = some v) :
    (.str key, v) ∈ entries := by
  fun_induction lookup key entries with
  | case1 => cases h
  | case2 => cases h; exact List.mem_cons_self
  | case3 _ _ _ _ ih | case4 _ _ _ ih => exact List.mem_cons_of_mem _ (ih h)

/-- Where no text stands twice among the keys, an entry is the one that is found under its key. -/
theorem lookup_of_mem {key : Text} (hnodup : (textKeys entries).Nodup)
    (h : (.str key, v) ∈ entries) : lookup key entries = some v := by
  fun_induction textKeys entries with
  | case1 => cases h
  | case2 k w rest ih =>
    obtain ⟨hk, hrest⟩ := List.nodup_cons.1 hnodup
    rcases List.mem_cons.1 h with heq | hmem
    · cases heq
      rw [lookup_cons, if_pos rfl]
    · have hne : k ≠ key := fun heq => hk (mem_textKeys.2 ⟨v, heq ▸ hmem⟩)
      rw [lookup_cons, if_neg hne, ih hrest hmem]
  | case3 entry rest hne ih =>
    rcases List.mem_cons.1 h with heq | hmem
    · exact absurd heq.symm (hne key v)
    · rw [lookup]
      · exact ih hnodup hmem
      · exact hne

/-! ## Well-formed values -/

/-- The node is a map with a text twice among its keys, or an array with more items than can be
counted. -/
def isMalformed : Value → Bool
  | .list items => decide (Limit.countBound ≤ items.length)
  | .map entries => !decide (textKeys entries).Nodup
  | _ => false

/-- No part of the value is malformed.  Maps and arrays are like that wherever they come from; only
their representation by lists would allow for others. -/
def WellFormed (v : Value) : Prop := v.holds isMalformed = false

instance (v : Value) : Decidable v.WellFormed := inferInstanceAs (Decidable (_ = _))

namespace WellFormed

theorem nodup (h : (Value.map entries).WellFormed) : (textKeys entries).Nodup := by
  have hmap := (holds_map_eq_false.1 h).1
  simpa only [isMalformed, Bool.not_eq_false', decide_eq_true_eq] using hmap

theorem entry (h : (Value.map entries).WellFormed) (hmem : (key, v) ∈ entries) : v.WellFormed :=
  ((holds_map_eq_false.1 h).2 _ hmem).2

theorem length_lt (h : (Value.list items).WellFormed) : items.length < Limit.countBound := by
  have hlist := (holds_list_eq_false.1 h).1
  simpa only [isMalformed, decide_eq_false_iff_not, Nat.not_le] using hlist

theorem item (h : (Value.list items).WellFormed) (hmem : v ∈ items) : v.WellFormed :=
  (holds_list_eq_false.1 h).2 v hmem

end WellFormed
end Value
end Patchwork
