import Patchwork.Proofs.Document.InPlace
import Patchwork.Proofs.Document.Update
import Patchwork.Proofs.FieldPath

/-!
# Writing again

A write in place creates containers and pads arrays on its way.  A second write along the same path
walks through what the first one made, and finds nothing to create or to pad.

* `Value.overwriteFrom_eq_iff` — a walk in place goes through exactly where the update does.
* `Value.overwriteAt_rewrites` — writing back what was read changes nothing, and of two writes at
  one path only the last one counts.
-/

set_option autoImplicit false

namespace Patchwork
namespace Value

variable {node v w : Value} {path : FieldPath} {s : Segment}

/-- A walk in place goes through exactly where the update does, with the same document. -/
theorem overwriteFrom_eq_iff [Machine] {trail : FieldPath} (hnode : Walkable path node) :
    overwriteFrom trail v path node = ⟨w, none⟩ ↔ update? path v node = some w := by
  constructor
  · intro h
    have hwrite := writeFrom_of_no_error hnode (by rw [h])
    rw [h] at hwrite
    exact writeFrom_eq_ok.1 hwrite
  · exact fun h => overwriteFrom_of_ok hnode (writeFrom_eq_ok.2 h)

theorem update?_of_no_error [Machine] {trail : FieldPath} (hnode : Walkable path node)
    (h : (overwriteFrom trail v path node).error = none) :
    update? path v node = some (overwriteFrom trail v path node).node :=
  writeFrom_eq_ok.1 (writeFrom_of_no_error hnode h)

theorem update?_cons_ne_null [Machine] (h : update? (s :: path) v node = some w) : w ≠ .null := by
  obtain ⟨-, item, -, rfl⟩ := update?_cons.1 h
  cases s <;> cases node <;> exact Value.noConfusion

/-- **Rewriting.**  Writing back what a path reads leaves the document as it is, to the order of its
keys.  Where one value can be written, so can any other, before and after it, and the document comes
out the same as if the first had never been written. -/
theorem overwriteAt_rewrites [Machine] (entries : List (Value × Value)) (path : Text) :
    let document := Value.map entries
    (∀ v, document.getAt path = .ok v → document.overwriteAt path v = ⟨document, none⟩) ∧
    ∀ v w, (document.overwriteAt path v).error = none →
      (document.overwriteAt path w).error = none ∧
        (document.overwriteAt path v).node.overwriteAt path w = document.overwriteAt path w := by
  intro document
  cases hp : FieldPath.parse path with
  | error fault =>
    refine ⟨fun v h => ?_, fun v w h => ?_⟩
    · rw [getAt_of_malformed hp] at h
      cases h
    · rw [overwriteAt_of_malformed hp] at h
      cases h
  | ok segments =>
    have hroot : Walkable segments document := .inr Value.noConfusion
    refine ⟨fun v h => ?_, fun v w h => ?_⟩
    · rw [getAt_eq hp, readFrom_eq_ok] at h
      rw [overwriteAt_eq hp, overwriteFrom_eq_iff hroot]
      exact update?_of_reach? h
    · rw [overwriteAt_eq hp] at h
      obtain ⟨z, hw, hvw⟩ := update?_update? (update?_of_no_error hroot h) w
      -- A walk starts at a container, and the first write leaves one at the root.
      have hafter : Walkable segments (overwriteFrom [] v segments document).node := by
        obtain ⟨s, rest, rfl⟩ := List.exists_cons_of_ne_nil (FieldPath.parse_ne_nil hp)
        exact .inr (update?_cons_ne_null (update?_of_no_error hroot h))
      simp only [overwriteAt_eq hp, (overwriteFrom_eq_iff hroot).2 hw,
        (overwriteFrom_eq_iff hafter).2 hvw, and_self]

open Machine in
/-- A write that creates a map and an array and pads it, followed by another at the same path, and
the write of the null that the padding reads as. -/
theorem overwriteAt_rewrites_padding :
    let document := Value.map [(.str "ports", .null), (.str "name", .str "web")]
    let after := Value.map [
      (.str "ports", .list [.null, .null, .map [(.str "name", .int 2)]]), (.str "name", .str "web")]
    ((document.overwriteAt "ports[2].name" (.int 1)).error = none ∧
      (document.overwriteAt "ports[2].name" (.int 1)).node.overwriteAt "ports[2].name" (.int 2) =
        ⟨after, none⟩) ∧
    after.getAt "ports[0]" = .ok .null ∧ after.overwriteAt "ports[0]" .null = ⟨after, none⟩ := by
  intro document after
  have hwrite : (document.overwriteAt "ports[2].name" (.int 1)).error = none := rfl
  have hread : after.getAt "ports[0]" = .ok .null := rfl
  refine ⟨⟨hwrite, ?_⟩, hread, (overwriteAt_rewrites _ "ports[0]").1 _ hread⟩
  exact ((overwriteAt_rewrites _ "ports[2].name").2 _ (.int 2) hwrite).2.trans rfl

end Value
end Patchwork
