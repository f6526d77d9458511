import Patchwork.Conversion
import Patchwork.Proofs.Outcome
import Patchwork.Value.Json

/-!
# JSON values

The values that JSON can hold are those that conversion copies.

* `Value.unstructured_of_isJson` — such a value is its own copy.
* `Value.isJson_of_unstructured` — every copy is such a value, so copying twice is copying once.
* `Value.unstructured_elsewhere` — the location of a value shows in errors only, not in its copy.
* `Value.unstructuredEntries_insert` — in entries that JSON can hold, only the one that is put in
  can be refused.
-/

set_option autoImplicit false

namespace Patchwork
namespace Value

theorem allJson_iff {items : List Value} :
    allJson items = true ↔ ∀ v ∈ items, isJson v = true := by
  induction items with
  | nil => simp [allJson]
  | cons v rest ih => simp [allJson, ih]

theorem entry_of_entriesJson {entries : List (Value × Value)} {key v : Value}
    (h : entriesJson entries = true) (hmem : (key, v) ∈ entries) :
    (∃ text, key = .str text) ∧ isJson v = true := by
  induction entries with
  | nil => cases hmem
  | cons entry rest ih =>
    obtain ⟨k, w⟩ := entry
    cases k <;> try cases h
    rename_i text
    simp only [entriesJson, Bool.and_eq_true] at h
    rcases List.mem_cons.1 hmem with heq | hmem
    · cases heq
      exact ⟨⟨text, rfl⟩, h.1⟩
    · exact ih h.2 hmem

/-! ## Copies -/

mutual

/-- A value that JSON can hold is its own copy. -/
theorem unstructured_of_isJson : ∀ (v : Value) (location : Text), isJson v = true →
    unstructured location v = .ok v
  | .null, _, _ | .bool _, _, _ | .int _, _, _ | .float _, _, _ | .str _, _, _ => rfl
  | .list items, location, h => by
    rw [unstructured, unstructuredItems_of_allJson items location 0 h, map_ok]
  | .map entries, location, h => by
    rw [unstructured, unstructuredEntries_of_entriesJson entries location h, map_ok]

theorem unstructuredItems_of_allJson : ∀ (items : List Value) (location : Text) (i : Nat),
    allJson items = true → unstructuredItems location i items = .ok items
  | [], _, _, _ => rfl
  | v :: rest, location, i, h => by
    simp only [allJson, Bool.and_eq_true] at h
    rw [unstructuredItems, unstructured_of_isJson v _ h.1, ok_bind,
      unstructuredItems_of_allJson rest location (i + 1) h.2, ok_bind]
    rfl

theorem unstructuredEntries_of_entriesJson : ∀ (entries : List (Value × Value))
    (location : Text), entriesJson entries = true →
    unstructuredEntries location entries = .ok entries
  | [], _, _ => rfl
  | (.str key, v) :: rest, location, h => by
    simp only [entriesJson, Bool.and_eq_true] at h
    rw [unstructuredEntries, unstructured_of_isJson v _ h.1, ok_bind,
      unstructuredEntries_of_entriesJson rest location h.2, ok_bind]
    rfl

end

mutual

/-- JSON can hold every copy. -/
theorem isJson_of_unstructured : ∀ (v : Value) {location : Text} {copy : Value},
    unstructured location v = .ok copy → isJson copy = true
  | .null, _, _, h | .bool _, _, _, h | .int _, _, _, h | .float _, _, _, h | .str _, _, _, h => by
    cases h; rfl
  | .map entries, _, _, h => by
    obtain ⟨copies, hcopies, rfl⟩ := map_eq_ok.1 h
    exact entriesJson_of_unstructured entries hcopies
  | .list items, _, _, h | .tuple items, _, _, h => by
    obtain ⟨copies, hcopies, rfl⟩ := map_eq_ok.1 h
    exact allJson_of_unstructured items hcopies

theorem allJson_of_unstructured : ∀ (items : List Value) {location : Text} {i : Nat}
    {copies : List Value}, unstructuredItems location i items = .ok copies →
    allJson copies = true
  | [], _, _, _, h => by cases h; rfl
  | v :: rest, _, _, _, h => by
    simp only [unstructuredItems, bind_eq_ok] at h
    obtain ⟨copy, hcopy, copies, hcopies, h⟩ := h
    cases h
    simp only [allJson, isJson_of_unstructured v hcopy, allJson_of_unstructured rest hcopies,
      Bool.and_self]

theorem entriesJson_of_unstructured : ∀ (entries : List (Value × Value)) {location : Text}
    {copies : List (Value × Value)}, unstructuredEntries location entries = .ok copies →
    entriesJson copies = true
  | [], _, _, h => by cases h; rfl
  | (.str key, v) :: rest, _, _, h => by
    simp only [unstructuredEntries, bind_eq_ok] at h
    obtain ⟨copy, hcopy, copies, hcopies, h⟩ := h
    cases h
    simp only [entriesJson, isJson_of_unstructured v hcopy,
      entriesJson_of_unstructured rest hcopies, Bool.and_self]

end

mutual

/-- Where a value stands does not matter for its copy. -/
theorem unstructured_elsewhere : ∀ (v : Value) {location : Text} {copy : Value},
    unstructured location v = .ok copy → ∀ location', unstructured location' v = .ok copy
  | .null, _, _, h, _ | .bool _, _, _, h, _ | .int _, _, _, h, _ | .float _, _, _, h, _
  | .str _, _, _, h, _ => h
  | .map entries, _, _, h, location' => by
    obtain ⟨copies, hcopies, rfl⟩ := map_eq_ok.1 h
    rw [unstructured, unstructuredEntries_elsewhere entries hcopies location', map_ok]
  | .list items, _, _, h, location' | .tuple items, _, _, h, location' => by
    obtain ⟨copies, hcopies, rfl⟩ := map_eq_ok.1 h
    rw [unstructured, unstructuredItems_elsewhere items hcopies location' 0, map_ok]

theorem unstructuredItems_elsewhere : ∀ (items : List Value) {location : Text} {i : Nat}
    {copies : List Value}, unstructuredItems location i items = .ok copies →
    ∀ location' j, unstructuredItems location' j items = .ok copies
  | [], _, _, _, h, _, _ => h
  | v :: rest, _, _, _, h, location', j => by
    simp only [unstructuredItems, bind_eq_ok] at h
    obtain ⟨copy, hcopy, copies, hcopies, h⟩ := h
    rw [unstructuredItems, unstructured_elsewhere v hcopy, ok_bind,
      unstructuredItems_elsewhere rest hcopies, ok_bind, h]

theorem unstructuredEntries_elsewhere : ∀ (entries : List (Value × Value)) {location : Text}
    {copies : List (Value × Value)}, unstructuredEntries location entries = .ok copies →
    ∀ location', unstructuredEntries location' entries = .ok copies
  | [], _, _, h, _ => h
  | (.str key, v) :: rest, _, _, h, location' => by
    simp only [unstructuredEntries, bind_eq_ok] at h
    obtain ⟨copy, hcopy, copies, hcopies, h⟩ := h
    rw [unstructuredEntries, unstructured_elsewhere v hcopy, ok_bind,
      unstructuredEntries_elsewhere rest hcopies, ok_bind, h]

end

/-! ## Entries -/

theorem isJson_field {entries : List (Value × Value)} (h : entriesJson entries = true)
    (key : Text) : isJson (field entries key) = true := by
  unfold field fieldOr
  fun_induction lookup key entries <;> simp_all [entriesJson, isJson]

theorem isJson_of_lookup {entries : List (Value × Value)} {key : Text} {v : Value}
    (h : entriesJson entries = true) (hv : lookup key entries = some v) : isJson v = true := by
  have hjson := isJson_field h key
  rw [field, fieldOr, hv] at hjson
  exact hjson

/-- **In entries that JSON can hold, only the one that is put in can be refused.** -/
theorem unstructuredEntries_insert {entries : List (Value × Value)}
    (h : entriesJson entries = true) (location key : Text) (v : Value) :
    unstructuredEntries location (insert key v entries) =
      (insert key · entries) <$> unstructured (Location.entry location key) v := by
  induction entries with
  | nil =>
    simp only [insert, unstructuredEntries]
    cases unstructured (Location.entry location key) v <;> rfl
  | cons entry rest ih =>
    obtain ⟨k, w⟩ := entry
    cases k <;> try cases h
    rename_i k
    simp only [entriesJson, Bool.and_eq_true] at h
    by_cases hk : k = key
    · subst hk
      simp only [insert, if_true, unstructuredEntries,
        unstructuredEntries_of_entriesJson rest location h.2]
      cases unstructured (Location.entry location k) v <;> rfl
    · simp only [insert, hk, if_false, unstructuredEntries, unstructured_of_isJson w _ h.1, ok_bind,
        ih h.2]
      cases unstructured (Location.entry location key) v <;> rfl

end Value
end Patchwork
