import Patchwork.Proofs.Document.Update
import Patchwork.Proofs.Json

/-!
# Copies of updated documents

Conversion copies a whole document, but in one that JSON can hold only the value that was just
written can change or be refused.

* `Value.unstructured_update?` — the copy of an updated document is the document updated with the
  copy of the value.
* `Value.reach?_copy` — what a path reaches is copied to where the path reaches it.
-/

set_option autoImplicit false

namespace Patchwork
namespace Value

variable {s : Segment} {node v w u : Value} {p : FieldPath} {items : List Value} {i : Nat}

theorem isJson_getD_getElem? (h : allJson items = true) (i : Nat) :
    isJson (items[i]?.getD .null) = true := by
  cases hi : items[i]? with
  | none => rfl
  | some v => exact allJson_iff.1 h v (List.mem_of_getElem? hi)

theorem isJson_getD_child? (h : isJson node = true) (s : Segment) :
    isJson ((child? s node).getD .null) = true := by
  cases s with
  | index i =>
    cases node
    case list items => exact isJson_getD_getElem? h i
    all_goals rfl
  | field name =>
    cases node
    case map entries => exact isJson_field h name
    all_goals rfl

theorem isJson_reach? (h : isJson node = true) (hreach : reach? p node = some v) :
    isJson v = true := by
  induction p generalizing node with
  | nil => cases hreach; exact h
  | cons s rest ih =>
    obtain ⟨w, hw, hrest⟩ := Option.bind_eq_some_iff.1 hreach
    have hjson := isJson_getD_child? h s
    rw [hw] at hjson
    exact ih hjson hrest

/-- In items that JSON can hold, only the one that is set can be refused. -/
theorem unstructuredItems_set (h : allJson items = true) (hi : i < items.length)
    (location : Text) (j : Nat) (v : Value) :
    unstructuredItems location j (items.set i v) =
      (items.set i ·) <$> unstructured (Location.item location (j + i)) v := by
  induction items generalizing i j with
  | nil => cases hi
  | cons w rest ih =>
    simp only [allJson, Bool.and_eq_true] at h
    cases i with
    | zero =>
      simp only [List.set_cons_zero, unstructuredItems, Nat.add_zero,
        unstructuredItems_of_allJson rest location (j + 1) h.2]
      cases unstructured (Location.item location j) v <;> rfl
    | succ i =>
      have hi : i < rest.length := Nat.lt_of_succ_lt_succ hi
      have hj : j + 1 + i = j + (i + 1) := by omega
      simp only [List.set_cons_succ, unstructuredItems, unstructured_of_isJson w _ h.1, ok_bind,
        ih h.2 hi, hj]
      cases unstructured (Location.item location (j + (i + 1))) v <;> rfl

theorem unstructuredItems_setPadded (h : allJson items = true) (location : Text) (v : Value) :
    unstructuredItems location 0 (setPadded v i items) =
      (setPadded · i items) <$> unstructured (Location.item location i) v := by
  have hpadded : allJson (padTo i items) = true := by
    rw [allJson_iff] at h ⊢
    intro w hw
    rcases List.mem_append.1 hw with hw | hw
    · exact h w hw
    · rw [List.eq_of_mem_replicate hw]
      rfl
  simp only [setPadded_eq_set, unstructuredItems_set hpadded (lt_length_padTo i items),
    Nat.zero_add]

/-- In a node that JSON can hold, only the child that is put in can be refused. -/
theorem unstructured_putChild [Machine] (hnode : isJson node = true) (hs : opens s node = true)
    (location : Text) (v : Value) :
    ∃ location', unstructured location (putChild s v node) =
      (putChild s · node) <$> unstructured location' v := by
  cases s with
  | index i =>
    refine ⟨Location.item location i, ?_⟩
    cases node <;> simp only [opens, Bool.false_eq_true] at hs
    case null =>
      have hnil : allJson [] = true := rfl
      simp only [putChild, unstructured, unstructuredItems_setPadded hnil]
      cases unstructured (Location.item location i) v <;> rfl
    case list items =>
      simp only [putChild, unstructured, unstructuredItems_setPadded hnode]
      cases unstructured (Location.item location i) v <;> rfl
  | field name =>
    refine ⟨Location.entry location name, ?_⟩
    cases node <;> simp only [opens, Bool.false_eq_true] at hs
    case null =>
      have hnil : entriesJson [] = true := rfl
      simp only [putChild, unstructured, unstructuredEntries_insert hnil]
      cases unstructured (Location.entry location name) v <;> rfl
    case map entries =>
      simp only [putChild, unstructured, unstructuredEntries_insert hnode]
      cases unstructured (Location.entry location name) v <;> rfl

/-- **The copy of an updated document** is the document updated with the copy of the value. -/
theorem unstructured_update? [Machine] {location : Text} {copied : Value}
    (hnode : isJson node = true)
    (hw : update? p v node = some w) :
    unstructured location w = .ok copied ↔
      ∃ copy, unstructured "" v = .ok copy ∧ update? p copy node = some copied := by
  induction p generalizing node w location copied with
  | nil =>
    cases hw
    simp only [update?_nil, Option.some.injEq, exists_eq_right]
    exact ⟨fun h => unstructured_elsewhere v h "", fun h => unstructured_elsewhere v h location⟩
  | cons s p ih =>
    obtain ⟨hs, item, hitem, rfl⟩ := update?_cons.1 hw
    obtain ⟨location', hcopy⟩ := unstructured_putChild hnode hs location item
    have hchild := isJson_getD_child? hnode s
    simp only [hcopy, map_eq_ok, ih hchild hitem, update?_cons, hs, true_and]
    constructor
    · rintro ⟨child, ⟨copy, hv, hchild⟩, rfl⟩
      exact ⟨copy, hv, child, hchild, rfl⟩
    · rintro ⟨copy, hv, child, hchild, rfl⟩
      exact ⟨child, ⟨copy, hv, hchild⟩, rfl⟩

/-! ## Parts of copies -/

theorem lookup_unstructuredEntries {location key : Text} {entries copies : List (Value × Value)}
    (h : unstructuredEntries location entries = .ok copies) (hv : lookup key entries = some v) :
    ∃ copy, unstructured "" v = .ok copy ∧ lookup key copies = some copy := by
  induction entries generalizing copies with
  | nil => cases hv
  | cons entry rest ih =>
    obtain ⟨k, w⟩ := entry
    cases k <;> try cases h
    rename_i k
    simp only [unstructuredEntries, bind_eq_ok] at h
    obtain ⟨copy, hcopy, copies, hcopies, h⟩ := h
    cases h
    rw [lookup_cons] at hv ⊢
    split at hv
    · rename_i hk
      cases hv
      exact ⟨copy, unstructured_elsewhere _ hcopy "", if_pos hk⟩
    · rename_i hk
      rw [if_neg hk]
      exact ih hcopies hv

theorem lookup_unstructuredEntries_eq_none {location key : Text}
    {entries copies : List (Value × Value)} (h : unstructuredEntries location entries = .ok copies)
    (hnone : lookup key entries = none) : lookup key copies = none := by
  induction entries generalizing copies with
  | nil =>
    cases h
    rfl
  | cons entry rest ih =>
    obtain ⟨k, w⟩ := entry
    cases k <;> try cases h
    rename_i k
    simp only [unstructuredEntries, bind_eq_ok] at h
    obtain ⟨copy, hcopy, copies, hcopies, h⟩ := h
    cases h
    rw [lookup_cons] at hnone ⊢
    split at hnone
    · cases hnone
    · rename_i hk
      rw [if_neg hk]
      exact ih hcopies hnone

theorem getElem?_unstructuredItems {location : Text} {j : Nat} {items copies : List Value}
    (h : unstructuredItems location j items = .ok copies) (hv : items[i]? = some v) :
    ∃ copy, unstructured "" v = .ok copy ∧ copies[i]? = some copy := by
  induction items generalizing i j copies with
  | nil => cases hv
  | cons w rest ih =>
    simp only [unstructuredItems, bind_eq_ok] at h
    obtain ⟨copy, hcopy, others, hothers, h⟩ := h
    cases h
    cases i with
    | zero =>
      cases hv
      exact ⟨copy, unstructured_elsewhere _ hcopy "", rfl⟩
    | succ i =>
      rw [List.getElem?_cons_succ] at hv ⊢
      exact ih hothers hv

/-- **What a path reaches is copied to where the path reaches it.** -/
theorem reach?_copy {location : Text} {copied : Value}
    (h : unstructured location node = .ok copied) (hreach : reach? p node = some v) :
    ∃ copy, unstructured "" v = .ok copy ∧ reach? p copied = some copy := by
  induction p generalizing node location copied with
  | nil =>
    cases hreach
    exact ⟨copied, unstructured_elsewhere _ h "", rfl⟩
  | cons s rest ih =>
    obtain ⟨c, hc, hrest⟩ := Option.bind_eq_some_iff.1 hreach
    obtain ⟨copy, hcopy, hchild⟩ :
        ∃ copy, unstructured "" c = .ok copy ∧ child? s copied = some copy := by
      cases s with
      | index i =>
        cases node <;> try cases hc
        obtain ⟨copies, hcopies, rfl⟩ := map_eq_ok.1 h
        exact getElem?_unstructuredItems hcopies hc
      | field name =>
        cases node <;> try cases hc
        obtain ⟨copies, hcopies, rfl⟩ := map_eq_ok.1 h
        exact lookup_unstructuredEntries hcopies hc
    obtain ⟨u, hu, hrestU⟩ := ih hcopy hrest
    exact ⟨u, hu, by rw [reach?, hchild, Option.bind_some, hrestU]⟩

end Value
end Patchwork
