/-!
# Why YAML cannot be read

A text can fail to be YAML at all, a scalar can fail to have the value that its tag announces, and a
document can be nested too deep.
-/

set_option autoImplicit false

namespace Patchwork
namespace Yaml

/-- Why a scalar does not have the value that it announces. -/
inductive ScalarError where
  /-- Nothing is written where a number is announced. -/
  | noText
  | notANumber
  | tooManyDigits
  /-- A number is too large to be calculated with. -/
  | tooLarge
  | notATruthValue
  | notATimestamp
  /-- A timestamp is announced for what is no scalar. -/
  | notAScalar
  /-- There is no such day or time. -/
  | outOfCalendar
  /-- There is no character of such a number. -/
  | notACharacter
  deriving DecidableEq, Repr

/-- Why a text cannot be read. -/
inductive ReadError where
  | invalid
  | scalar (e : ScalarError)
  | tooDeep
  deriving DecidableEq, Repr

end Yaml
end Patchwork
