import Patchwork.Proofs.Document.Order
import Patchwork.Proofs.Patch.Updates
import Patchwork.Proofs.References

/-!
# Reconciling an Object with its references

What the destinations of the patch references of an Object say about applying them: again, in
another order, and about what stands in the manifest afterwards.  The references are a run of
updates of the manifest, so each result is one about runs, with the destinations as the paths.

* `Object.applyPatches_again` — when no patch writes above an earlier one, applying the references
  once more changes nothing.
* `Object.applyPatches_perm` — when the destinations are apart, the order of the references shows in
  nothing but the order of entries.
* `Object.applyPatches_keeps` — a patch whose destination later ones stay apart from leaves what it
  read at its destination.
-/

set_option autoImplicit false

namespace Patchwork

open Value

/-! ## Destinations of two references -/

/-- The destinations of two references are in a relation, where both have one. -/
def Reference.Destinations (R : FieldPath → FieldPath → Prop) (r r' : Reference) : Prop :=
  ∀ p q, r.destination = .ok p → r'.destination = .ok q → R p q

namespace Reference

variable {R : FieldPath → FieldPath → Prop} {r r' : Reference} {p q : FieldPath}

theorem destinations_iff (h : r.destination = .ok p) (h' : r'.destination = .ok q) :
    Destinations R r r' ↔ R p q := by
  constructor
  · intro hR
    exact hR p q h h'
  · intro hR p' q' hp hq
    rw [h, Except.ok.injEq] at hp
    rw [h', Except.ok.injEq] at hq
    rwa [← hp, ← hq]

theorem Destinations.of_update? {lookup : SourceLookup} {a b : FieldPath × Value}
    (h : Destinations R r r') (ha : r.update? lookup = some a) (hb : r'.update? lookup = some b) :
    R a.1 b.1 :=
  (destinations_iff (destination_of_update? ha) (destination_of_update? hb)).1 h

end Reference

namespace Object

variable {lookup : SourceLookup} {document : Value} {x y : Object}

theorem pairwise_updates {R : FieldPath → FieldPath → Prop}
    (h : x.spec.patchReferences.Pairwise (Reference.Destinations R)) :
    (x.updates lookup).Pairwise fun a b => R a.1 b.1 := by
  refine List.pairwise_filterMap.2 (h.imp ?_)
  intro r r' hR a ha b hb
  exact hR.of_update? ha hb

/-! ## Again -/

/-- **Reconciling again changes nothing**, when no patch writes above an earlier one: below it or at
the same path, it may. -/
theorem applyPatches_again [Machine] (h : ofValue document = .ok x)
    (hy : x.applyPatches lookup = .ok y)
    (hdown : x.spec.patchReferences.Pairwise
      (Reference.Destinations fun earlier later => later <+: earlier → later = earlier)) :
    y.applyPatches lookup = .ok y := by
  obtain ⟨document', hread⟩ := exists_ofValue_applyPatches h hy
  obtain ⟨hall, hrun, hframe⟩ := (applyPatches_eq_ok h).1 hy
  have hreferences : y.spec.patchReferences = x.spec.patchReferences := by rw [hframe]; rfl
  refine (applyPatches_eq_ok hread).2 ⟨hreferences ▸ hall, ?_, rfl⟩
  rw [updates, hreferences]
  exact updates?_again (pairwise_updates hdown) hrun

open Machine in
/-- A map is copied, and then a number into it: the second time, the map is put in place of the
number first. -/
theorem applyPatches_again_below :
    let reference (fromPath toPath : Text) : Reference :=
      { patchesFrom := some { name := "source", fieldPath := some fromPath }
        toFieldPath := some toPath }
    let data := Value.map [(.str "conf", .map [(.str "port", .int 1)]), (.str "port", .int 80)]
    let source : PatchesFrom := { name := "source" }
    let resolver := ({} : Resolver).put source.key (.document data)
    let x : Object :=
      { spec := { references := [reference "conf" "conf", reference "port" "conf.port"] } }
    let y := x.withManifest [(.str "conf", .map [(.str "port", .int 80)])]
    x.applyReferences resolver = .ok y ∧ y.applyReferences resolver = .ok y := by
  intro reference data source resolver x y
  have hx : ofValue x.toValue = .ok x := rfl
  have hmap : (reference "conf" "conf").update? resolver.lookup =
      some ([.field "conf"], .map [(.str "port", .int 1)]) :=
    Reference.update?_eq_some.2 ⟨_, _, "conf", _, rfl, rfl, rfl, rfl, rfl⟩
  have hnumber : (reference "port" "conf.port").update? resolver.lookup =
      some ([.field "conf", .field "port"], .int 80) :=
    Reference.update?_eq_some.2 ⟨_, _, "conf.port", _, rfl, rfl, rfl, rfl, rfl⟩
  have hy : x.applyPatches resolver.lookup = .ok y :=
    applyPatches_of_updates hx [_, _] (congrArg₂ (fun a b => [a, b]) hmap hnumber) rfl
  have hdown : x.spec.patchReferences.Pairwise
      (Reference.Destinations fun earlier later => later <+: earlier → later = earlier) :=
    List.pairwise_pair.2 ((Reference.destinations_iff (Reference.destination_of_update? hmap)
      (Reference.destination_of_update? hnumber)).2 (by decide))
  exact ⟨hy, applyPatches_again hx hy hdown⟩

/-! ## In another order -/

/-- **Patches whose destinations are apart can be applied in any order**: the manifest is the same
but for the order of its entries. -/
theorem applyPatches_perm [Machine] {references : List Reference} (h : ofValue document = .ok x)
    (hy : x.applyPatches lookup = .ok y)
    (hapart : x.spec.patchReferences.Pairwise (Reference.Destinations FieldPath.Apart))
    (hperm : x.spec.references.Perm references) :
    ∃ y', (x.withReferences references).applyPatches lookup = .ok y' ∧
      Reordered (.map y.spec.forProvider.manifest) (.map y'.spec.forProvider.manifest) := by
  obtain ⟨hall, hrun, -⟩ := (applyPatches_eq_ok h).1 hy
  have hreads : ∀ r ∈ references, ∀ location, Reference.ofValue location r.toValue = .ok r :=
    fun r hr => reference_reads h r (hperm.mem_iff.2 hr)
  obtain ⟨document', hread⟩ := exists_ofValue_withReferences h hreads
  have hpatches : x.spec.patchReferences.Perm (x.withReferences references).spec.patchReferences :=
    hperm.filter _
  obtain ⟨w, hw, hsame⟩ := updates?_perm (hpatches.filterMap _) (pairwise_updates hapart) hrun
  obtain ⟨manifest, rfl⟩ := hsame.exists_map
  refine ⟨(x.withReferences references).withManifest manifest, (applyPatches_eq_ok hread).2 ?_,
    hsame⟩
  exact ⟨fun r hr => hall r (hpatches.mem_iff.2 hr), hw, rfl⟩

open Machine in
/-- Two items of one array, the second of which is put in first. -/
theorem applyPatches_perm_items :
    let reference (fromPath toPath : Text) : Reference :=
      { patchesFrom := some { name := "source", fieldPath := some fromPath }
        toFieldPath := some toPath }
    let data := Value.map [(.str "http", .int 80), (.str "https", .int 443)]
    let source : PatchesFrom := { name := "source" }
    let resolver := ({} : Resolver).put source.key (.document data)
    let first := reference "http" "ports[0]"
    let second := reference "https" "ports[1]"
    let x : Object := { spec := { references := [second, first] } }
    let manifest := [(Value.str "ports", Value.list [.int 80, .int 443])]
    x.applyReferences resolver = .ok (x.withManifest manifest) ∧
      ∃ y', (x.withReferences [first, second]).applyReferences resolver = .ok y' ∧
        Reordered (.map manifest) (.map y'.spec.forProvider.manifest) := by
  intro reference data source resolver first second x manifest
  have hx : ofValue x.toValue = .ok x := rfl
  have hfirst : first.update? resolver.lookup = some ([.field "ports", .index 0], .int 80) :=
    Reference.update?_eq_some.2 ⟨_, _, "ports[0]", _, rfl, rfl, rfl, rfl, rfl⟩
  have hsecond : second.update? resolver.lookup = some ([.field "ports", .index 1], .int 443) :=
    Reference.update?_eq_some.2 ⟨_, _, "ports[1]", _, rfl, rfl, rfl, rfl, rfl⟩
  have hy : x.applyPatches resolver.lookup = .ok (x.withManifest manifest) :=
    applyPatches_of_updates hx [_, _] (congrArg₂ (fun a b => [a, b]) hsecond hfirst) rfl
  have hapart : x.spec.patchReferences.Pairwise (Reference.Destinations FieldPath.Apart) :=
    List.pairwise_pair.2 ((Reference.destinations_iff (Reference.destination_of_update? hsecond)
      (Reference.destination_of_update? hfirst)).2 ⟨by decide, by decide⟩)
  exact ⟨hy, applyPatches_perm hx hy hapart (List.Perm.swap first second [])⟩

/-! ## What stands in the manifest -/

/-- **No patch is lost.**  A patch reference with which the destinations of all later ones are apart
leaves a copy of what it read from its source at its destination. -/
theorem applyPatches_keeps [Machine] {before after : List Reference} {r : Reference}
    (h : ofValue document = .ok x) (hy : x.applyPatches lookup = .ok y)
    (hsplit : x.spec.patchReferences = before ++ r :: after)
    (hlater : ∀ r' ∈ after, Reference.Destinations FieldPath.Apart r r') :
    ∃ target source content fromPath toPath value copy,
      r.patchesFrom = some target ∧ lookup target = .ok source ∧ source.content = .ok content ∧
      r.patchPaths = .ok (fromPath, toPath) ∧ content.getAt fromPath = .ok value ∧
      value.unstructured "" = .ok copy ∧
      (Value.map y.spec.forProvider.manifest).getAt toPath = .ok copy := by
  obtain ⟨hall, hrun, -⟩ := (applyPatches_eq_ok h).1 hy
  obtain ⟨⟨p, copy⟩, hupdate⟩ := hall r (hsplit ▸ List.mem_append_right before List.mem_cons_self)
  rw [updates, hsplit, List.filterMap_append, List.filterMap_cons_some hupdate] at hrun
  obtain ⟨_, -, hrun⟩ := updates?_append.1 hrun
  obtain ⟨n, hn, hrun⟩ := updates?_cons.1 hrun
  have hapart : ∀ a ∈ after.filterMap (·.update? lookup), FieldPath.Apart a.1 p := by
    intro a ha
    obtain ⟨r', hr', ha⟩ := List.mem_filterMap.1 ha
    exact ((hlater r' hr').of_update? hupdate ha).symm
  have hreach := reach?_updates?_of_apart hrun hapart (reach?_update?_self hn)
  obtain ⟨target, source, toPath, value, htarget, hsource, hread, hpath, hcopy⟩ :=
    Reference.update?_eq_some.1 hupdate
  obtain ⟨content, fromPath, hcontent, hpaths, hvalue⟩ := Reference.readSource_eq_ok.1 hread
  refine ⟨target, source, content, fromPath, toPath, value, copy, htarget, hsource, hcontent,
    hpaths, hvalue, hcopy, ?_⟩
  rw [getAt, hpath, ok_bind]
  exact readFrom_eq_ok.2 hreach

open Machine in
/-- A number that was copied into an array is there after another was put in front of it. -/
theorem applyPatches_keeps_item :
    let reference (fromPath toPath : Text) : Reference :=
      { patchesFrom := some { name := "source", fieldPath := some fromPath }
        toFieldPath := some toPath }
    let data := Value.map [(.str "http", .int 80), (.str "https", .int 443)]
    let source : PatchesFrom := { name := "source" }
    let resolver := ({} : Resolver).put source.key (.document data)
    let r := reference "https" "ports[1]"
    let later := reference "http" "ports[0]"
    let x : Object := { spec := { references := [r, later] } }
    let manifest := [(Value.str "ports", Value.list [.int 80, .int 443])]
    x.applyReferences resolver = .ok (x.withManifest manifest) ∧
      ∃ target source content fromPath toPath value copy,
        r.patchesFrom = some target ∧ resolver.lookup target = .ok source ∧
        source.content = .ok content ∧ r.patchPaths = .ok (fromPath, toPath) ∧
        content.getAt fromPath = .ok value ∧ value.unstructured "" = .ok copy ∧
        (Value.map manifest).getAt toPath = .ok copy := by
  intro reference data source resolver r later x manifest
  have hx : ofValue x.toValue = .ok x := rfl
  have hr : r.update? resolver.lookup = some ([.field "ports", .index 1], .int 443) :=
    Reference.update?_eq_some.2 ⟨_, _, "ports[1]", _, rfl, rfl, rfl, rfl, rfl⟩
  have hlater : later.update? resolver.lookup = some ([.field "ports", .index 0], .int 80) :=
    Reference.update?_eq_some.2 ⟨_, _, "ports[0]", _, rfl, rfl, rfl, rfl, rfl⟩
  have hy : x.applyPatches resolver.lookup = .ok (x.withManifest manifest) :=
    applyPatches_of_updates hx [_, _] (congrArg₂ (fun a b => [a, b]) hr hlater) rfl
  have hapart : ∀ r' ∈ [later], Reference.Destinations FieldPath.Apart r r' :=
    List.forall_mem_singleton.2 ((Reference.destinations_iff (Reference.destination_of_update? hr)
      (Reference.destination_of_update? hlater)).2 ⟨by decide, by decide⟩)
  have hsplit : x.spec.patchReferences = [] ++ r :: [later] := rfl
  exact ⟨hy, applyPatches_keeps hx hy hsplit hapart⟩

end Object
end Patchwork
