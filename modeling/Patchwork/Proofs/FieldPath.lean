import Patchwork.FieldPath
import Patchwork.Proofs.Outcome

/-!
# Field paths that are read

* `FieldPath.parse_ne_nil` — a path that is read has at least one segment.
-/

set_option autoImplicit false

namespace Patchwork
namespace FieldPath

theorem scan_ne_nil {state : Scan} {position : Nat} {chars : List CodePoint} {path : FieldPath}
    (h : scan state position chars = .ok path) (hstate : state ≠ .closed) : path ≠ [] := by
  fun_induction scan state position chars generalizing path
  all_goals try cases h
  case case3 ih | case5 ih | case10 ih | case14 ih => exact ih h Scan.noConfusion
  case case6.refl => exact List.cons_ne_nil _ _
  case case7 | case8 =>
    obtain ⟨rest, -, rfl⟩ := map_eq_ok.1 h
    exact List.cons_ne_nil _ _
  case case13 =>
    obtain ⟨segment, -, h⟩ := bind_eq_ok.1 h
    obtain ⟨rest, -, rfl⟩ := map_eq_ok.1 h
    exact List.cons_ne_nil _ _
  all_goals exact absurd rfl hstate

theorem parse_ne_nil {path : Text} {segments : FieldPath} (h : parse path = .ok segments) :
    segments ≠ [] := by
  unfold parse at h
  split at h
  · cases h
  · exact scan_ne_nil h Scan.noConfusion

end FieldPath
end Patchwork
