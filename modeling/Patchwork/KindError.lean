import Patchwork.Value

/-!
# Data that cannot be handled

Some operations take documents as they come and do not check them first.  Where a value is of a
kind that the operation cannot handle, or meets a limit, it stops with a `KindError` and gives
nothing else.
-/

set_option autoImplicit false

namespace Patchwork

/-- Why a value cannot be handled at all. -/
inductive KindError where
  /-- Entries were asked of a value that has none. -/
  | notAnObject
  /-- Items were asked of a value that has none. -/
  | notIterable
  /-- A value that can change was to serve as a key. -/
  | unhashable
  /-- Two values were compared that have no order. -/
  | notComparable
  /-- Members were asked of a value that has none, or none of the kind. -/
  | notAContainer
  /-- A text was wanted. -/
  | notText
  /-- A number was to serve as a byte and is too large or negative. -/
  | notAByte
  /-- A position lies outside of a sequence. -/
  | outOfRange
  /-- A text with a surrogate was to be printed. -/
  | notEncodable
  /-- A bound of what can be handled was met. -/
  | limit (l : Limit)
  deriving DecidableEq, Repr

namespace Value

/-- The entries of a map. -/
def entriesOf : Value → Except KindError (List (Value × Value))
  | .map entries => .ok entries
  | _ => .error .notAnObject

/-- The entries of a map, none for a value that counts as unset. -/
def entriesIfSet (v : Value) : Except KindError (List (Value × Value)) :=
  if v.truthy then v.entriesOf else .ok []

end Value
end Patchwork
