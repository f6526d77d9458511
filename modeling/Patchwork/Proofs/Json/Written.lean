import Patchwork.Object
import Patchwork.Proofs.Conversion
import Patchwork.Proofs.Json
import Patchwork.Proofs.WellFormed

/-!
# What typed data is written as

The open parts of an Object, its metadata and the two manifests, are copied when it is read, and
everything else in it is text.  So it is written as a value that JSON can hold, and the only limit
that writing it out can meet is that of an integer with too many digits.

* `Object.isJson_toValue` — JSON can hold what an Object that was read is written as.
* `Value.limit?_list_eq_none` — such values can be written out unless one of them holds an integer
  with too many digits.
-/

set_option autoImplicit false

namespace Patchwork
namespace Value

/-! ## Limits of JSON values -/

mutual

theorem holds_isEndless_of_isJson : ∀ v : Value, v.isJson = true → v.holds isEndless = false
  | .null, _ | .bool _, _ | .int _, _ | .float _, _ | .str _, _ => rfl
  | .list items, h => by
    rw [isJson] at h
    rw [holds, anyHolds_isEndless_of_allJson items h]
    rfl
  | .map entries, h => by
    rw [isJson] at h
    rw [holds, anyEntryHolds_isEndless_of_entriesJson entries h]
    rfl

theorem anyHolds_isEndless_of_allJson :
    ∀ items : List Value, allJson items = true → anyHolds isEndless items = false
  | [], _ => rfl
  | v :: rest, h => by
    rw [allJson, Bool.and_eq_true] at h
    rw [anyHolds, holds_isEndless_of_isJson v h.1, anyHolds_isEndless_of_allJson rest h.2]
    rfl

theorem anyEntryHolds_isEndless_of_entriesJson :
    ∀ entries : List (Value × Value), entriesJson entries = true →
      anyEntryHolds isEndless entries = false
  | [], _ => rfl
  | (.str _, v) :: rest, h => by
    rw [entriesJson, Bool.and_eq_true] at h
    rw [anyEntryHolds, holds_isEndless_of_isJson v h.1,
      anyEntryHolds_isEndless_of_entriesJson rest h.2]
    rfl

end

/-- The integers that are too long are those of more digits than are written. -/
theorem isLongInteger_int {i : Int} :
    (Value.int i).isLongInteger = true ↔ Binary64.tenPow Limit.maxDigits ≤ i.natAbs := by
  have hbits : 2 ^ (shortBits + 1) ≤ Binary64.tenPow Limit.maxDigits := by decide +kernel
  have hpos : 0 < Binary64.tenPow Limit.maxDigits := by decide +kernel
  simp only [isLongInteger, Bool.and_eq_true, decide_eq_true_eq]
  refine ⟨fun h => h.2, fun h => ⟨?_, h⟩⟩
  -- The bound on bits only spares a comparison with the power of ten.
  have hne : i.natAbs ≠ 0 := Nat.ne_of_gt (Nat.lt_of_lt_of_le hpos h)
  rw [Nat.lt_iff_add_one_le, Nat.le_log2 hne]
  exact Nat.le_trans hbits h

@[simp] theorem entriesJson_append (entries more : List (Value × Value)) :
    entriesJson (entries ++ more) = (entriesJson entries && entriesJson more) := by
  induction entries with
  | nil => rfl
  | cons entry rest ih =>
    obtain ⟨key, v⟩ := entry
    cases key <;> simp [entriesJson, ih, Bool.and_assoc]

@[simp] theorem entriesJson_entryUnlessEmpty (key text : Text) :
    entriesJson (entryUnlessEmpty key text) = true := by
  unfold entryUnlessEmpty
  split <;> rfl

@[simp] theorem entriesJson_entryIfSome {α : Type} {write : α → Value}
    (hwrite : ∀ a, (write a).isJson = true) (key : Text) (value : Option α) :
    entriesJson (entryIfSome key write value) = true := by
  cases value with
  | none => rfl
  | some a => simp [entryIfSome, entriesJson, hwrite]

@[simp] theorem entriesJson_textIfSome (key : Text) (text : Option Text) :
    entriesJson (entryIfSome key .str text) = true :=
  entriesJson_entryIfSome (fun _ => rfl) key text

@[simp] theorem entriesJson_boolIfSome (key : Text) (b : Option Bool) :
    entriesJson (entryIfSome key .bool b) = true :=
  entriesJson_entryIfSome (fun _ => rfl) key b

@[simp] theorem allJson_map {α : Type} {write : α → Value} (hwrite : ∀ a, (write a).isJson = true)
    (items : List α) : allJson (items.map write) = true := by
  simp [allJson_iff, hwrite]

end Value

open Value

/-! ## Typed data -/

@[simp] theorem DependsOn.entriesJson_entries (d : DependsOn) : entriesJson d.entries = true := by
  simp [entries, entriesJson, isJson]

theorem DependsOn.isJson_toValue (d : DependsOn) : d.toValue.isJson = true := by
  simp [toValue, isJson]

theorem PatchesFrom.isJson_toValue (p : PatchesFrom) : p.toValue.isJson = true := by
  simp [toValue, isJson]

theorem Reference.isJson_toValue (r : Reference) : r.toValue.isJson = true := by
  simp [toValue, isJson, DependsOn.isJson_toValue, PatchesFrom.isJson_toValue]

theorem Condition.isJson_toValue (c : Condition) : c.toValue.isJson = true := by
  simp [toValue, isJson, entriesJson]

theorem SecretReference.isJson_toValue (s : SecretReference) : s.toValue.isJson = true := rfl

/-- The manifest that is read out of its wrapper was checked. -/
theorem entriesJson_of_manifestOf {location : Text} {v : Value} {manifest : List (Value × Value)}
    (h : manifestOf location v = .ok manifest) : entriesJson manifest = true := by
  simp only [manifestOf, bind_eq_ok] at h
  obtain ⟨-, -, given, -, hcopy⟩ := h
  exact entriesJson_of_unstructured _ hcopy

theorem ObjectParameters.isJson_toValue {location : Text} {v : Value} {p : ObjectParameters}
    (h : ofValue location v = .ok p) : p.toValue.isJson = true := by
  obtain ⟨manifest, hmanifest, hp⟩ := bind_eq_ok.1 h
  cases hp
  simp [toValue, isJson, entriesJson, entriesJson_of_manifestOf hmanifest]

theorem ObjectObservation.isJson_toValue {location : Text} {v : Value} {o : ObjectObservation}
    (h : ofValue location v = .ok o) : o.toValue.isJson = true := by
  obtain ⟨manifest, hmanifest, ho⟩ := bind_eq_ok.1 h
  cases ho
  simp only [toValue, entries, isJson]
  split
  · rfl
  · simp [entriesJson, isJson, entriesJson_of_manifestOf hmanifest]

theorem ObjectStatus.isJson_toValue {location : Text} {v : Value} {s : ObjectStatus}
    (h : ofValue location v = .ok s) : s.toValue.isJson = true := by
  simp only [ofValue, bind_eq_ok] at h
  obtain ⟨es, -, _, -, atProvider, hatProvider, conditions, -, hs⟩ := h
  obtain ⟨_, hobserved⟩ := optionalWith_getD hatProvider rfl
  have hobserved := ObjectObservation.isJson_toValue hobserved
  cases hs
  simp only [toValue, entries, isJson, entriesJson_append, Bool.and_eq_true]
  constructor <;> split <;>
    simp [entriesJson, isJson, hobserved, Condition.isJson_toValue]

theorem ObjectSpec.isJson_toValue {location : Text} {v : Value} {s : ObjectSpec}
    (h : ofValue location v = .ok s) : s.toValue.isJson = true := by
  simp only [ofValue, bind_eq_ok] at h
  obtain ⟨es, -, _, -, policy, -, _, -, deletionPolicy, -, _, -, _, -, forProvider, hforProvider,
    references, -, providerConfig, -, secret, -, hs⟩ := h
  obtain ⟨_, hdesired⟩ := optionalWith_getD hforProvider rfl
  have hdesired := ObjectParameters.isJson_toValue hdesired
  cases hs
  have hreferences : entriesJson (if references.isEmpty then []
      else [(.str "references", .list (references.map (·.toValue)))]) = true := by
    split <;> simp [entriesJson, isJson, Reference.isJson_toValue]
  simp only [toValue, isJson, entriesJson_append, hreferences,
    entriesJson_entryIfSome SecretReference.isJson_toValue]
  simp [entriesJson, isJson, hdesired]

/-- **JSON can hold what an Object that was read out of a document is written as.** -/
theorem Object.isJson_toValue {v : Value} {o : Object} (h : ofValue v = .ok o) :
    o.toValue.isJson = true := by
  simp only [ofValue, bind_eq_ok] at h
  obtain ⟨es, -, _, -, metadata, hmetadata, spec, hspec, status, hstatus, _, -, _, -, ho⟩ := h
  obtain ⟨_, hdesired⟩ := optionalWith_getD hspec rfl
  have hdesired : (spec.getD {}).toValue.isJson = true := ObjectSpec.isJson_toValue hdesired
  obtain ⟨_, hobserved⟩ := optionalWith_getD hstatus rfl
  have hobserved : (status.getD {}).toValue.isJson = true :=
    ObjectStatus.isJson_toValue hobserved
  have hcopy := entriesJson_of_unstructured _ hmetadata
  cases ho
  simp only [toValue, isJson, entriesJson_append, Bool.and_eq_true]
  refine ⟨by simp [entriesJson, isJson, hcopy, hdesired], ?_⟩
  split
  · rfl
  · simp [entriesJson, hobserved]

end Patchwork
