/-!
# Limits

Some data is well formed and yet too large to be handled: a number with thousands of digits, an
array with more items than fit into memory, a value nested without end.  A `Limit` says which bound
was met.  An operation that meets one stops; it has nothing to report about the data itself.

How many items fit into memory is up to the machine; whatever grows an array takes a `Machine`.
-/

set_option autoImplicit false

namespace Patchwork

/-- A bound of what can be handled. -/
inductive Limit where
  /-- A number has more digits than are read or written. -/
  | digits
  /-- A number is too large for what it counts. -/
  | magnitude
  /-- An array does not fit into memory. -/
  | memory
  /-- A value is nested without end, or too deep to be followed. -/
  | nesting
  deriving DecidableEq, Repr, Inhabited

namespace Limit

/-- The greatest number of decimal digits of a number that is read or written. -/
def maxDigits : Nat := 4300

/-- The number of items that no array can be counted up to. -/
def countBound : Nat := 9223372036854775808

end Limit

/-- What there is room for. -/
class Machine where
  /-- The greatest number of items that an array grows to. -/
  maxItems : Nat
  maxItems_lt : maxItems < Limit.countBound

namespace Machine

/-- A machine with room for a million items in an array. -/
scoped instance roomy : Machine where
  maxItems := 1000000
  maxItems_lt := by decide

end Machine

namespace Limit

/-- The limit that an array meets when it grows from one length to another; it meets none when it
is long enough. -/
def ofGrowth? [Machine] (length grown : Nat) : Option Limit :=
  if grown ≤ length then none
  else if countBound ≤ grown - length then some .magnitude
  else if Machine.maxItems < grown then some .memory
  else none

/-- An array meets no limit exactly if it is long enough or does not grow beyond what fits; in what
steps it grows does not matter. -/
theorem ofGrowth?_eq_none [Machine] {length grown : Nat} :
    ofGrowth? length grown = none ↔ grown ≤ length ∨ grown ≤ Machine.maxItems := by
  have hroom := Machine.maxItems_lt
  unfold ofGrowth?
  split
  · rename_i hle
    simp [hle]
  · rename_i hgrown
    split
    · rename_i hcount
      simp only [reduceCtorEq, false_iff]
      omega
    · split
      · simp only [reduceCtorEq, false_iff]
        omega
      · simp only [true_iff]
        omega

/-- The limit in words. -/
def message : Limit → String
  | .digits => "a number has more than " ++ toString maxDigits ++ " digits"
  | .magnitude => "a number is too large"
  | .memory => "an array does not fit into memory"
  | .nesting => "a value is nested too deep"

end Limit
end Patchwork
