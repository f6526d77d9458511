import Patchwork.Proofs.Manifest
import Patchwork.Proofs.RoundTrip

/-!
# The references of an Object

References are read one by one, so an Object can be read with any others that read back in the place
of its own, such as its own in another order.

* `Object.reference_reads` — the references of an Object that was read read back.
* `Object.exists_ofValue_withReferences` — with references that read back, an Object reads back.
-/

set_option autoImplicit false

namespace Patchwork

open Value

/-- The Object with other references, and everything else as it is. -/
def Object.withReferences (o : Object) (references : List Reference) : Object :=
  { o with spec := { o.spec with references } }

variable {v : Value} {entries : List (Value × Value)} {references : List Reference}

/-- Another array of references does not matter for the rest of a spec. -/
theorem ObjectSpec.ofValue_insert_references {location : Text} {s : ObjectSpec}
    (h : ofValue location (.map entries) = .ok s) (items : List Value) :
    ofValue location (.map (insert "references" (.list items) entries)) =
      (fun references => { s with references }) <$>
        convertItems (Location.part location "references") Reference.ofValue 0 items := by
  simp only [ofValue, expect_object, ok_bind, bind_eq_ok] at h
  obtain ⟨_, -, _, hpolicy, _, hdeletion, _, hdeletionPolicy, _, hproviderRef, _, hsecretRef, _,
    hforProvider, _, -, _, hproviderConfig, _, hsecret, hs⟩ := h
  have hitems : Value.optional (insert "references" (.list items) entries) "references" .array
      location = .ok (some items) :=
    optional_of_lookup Shape.reads_array (lookup_insert_self _ _ _) location
  simp (disch := decide) only [ofValue, expect_object, ok_bind, optional_insert_of_ne,
    optionalWith_insert_of_ne, hitems, hpolicy, hdeletion, hdeletionPolicy, hproviderRef,
    hsecretRef, hforProvider, hproviderConfig, hsecret, Option.getD_some]
  cases hs
  cases convertItems (Location.part location "references") Reference.ofValue 0 items <;> rfl

namespace Object

variable {o : Object}

/-- **The references of an Object that was read** read back, each at any place. -/
theorem reference_reads (h : ofValue v = .ok o) :
    ∀ r ∈ o.spec.references, ∀ location, Reference.ofValue location r.toValue = .ok r := by
  obtain ⟨_, _, _, _, hspec⟩ := exists_spec h
  generalize o.spec = s at hspec
  simp only [ObjectSpec.ofValue, bind_eq_ok] at hspec
  obtain ⟨_, -, _, -, _, -, _, -, _, -, _, -, _, -, _, -, references, hreferences, _, -, _, -,
    hs⟩ := hspec
  cases hs
  exact Reference.ofValue_toValue_of_mem hreferences

/-- **With references that read back, an Object reads back.** -/
theorem exists_ofValue_withReferences (h : ofValue v = .ok o)
    (hreads : ∀ r ∈ references, ∀ location, Reference.ofValue location r.toValue = .ok r) :
    ∃ document, ofValue document = .ok (o.withReferences references) := by
  obtain ⟨root, spec, rfl, -, hspec⟩ := exists_spec h
  have hread := ObjectSpec.ofValue_insert_references hspec (references.map (·.toValue))
  rw [convertItems_map hreads, map_ok] at hread
  refine ⟨.map (insert "spec" (.map (insert "references" (.list (references.map (·.toValue))) spec))
    root), ?_⟩
  rw [ofValue_insert_spec h, hread]
  rfl

end Object
end Patchwork
