import Patchwork.Text
import Patchwork.Yaml.Error

/-!
# Tokens of YAML

What a YAML text consists of once its indentation is made explicit: a collection in block form
begins and ends with a token of its own, like one in brackets.
-/

set_option autoImplicit false

namespace Patchwork
namespace Yaml

/-- A tag as it is written: an address in angle brackets, or a handle and what follows it. -/
structure WrittenTag where
  handle : Option String
  suffix : String
  deriving DecidableEq, Repr

/-- A token. -/
inductive Token where
  | versionDirective (major minor : Nat)
  | tagDirective (handle address : String)
  | otherDirective (name : String)
  | documentStart
  | documentEnd
  | blockSequenceStart
  | blockMappingStart
  | blockEnd
  | flowSequenceStart
  | flowSequenceEnd
  | flowMappingStart
  | flowMappingEnd
  | flowEntry
  | blockEntry
  | key
  | value
  | alias (name : String)
  | anchor (name : String)
  | tag (tag : WrittenTag)
  | scalar (text : Text) (plain : Bool)
  | streamEnd
  /-- The text cannot be read from here on. -/
  | fault (e : ReadError)
  deriving DecidableEq, Repr, Inhabited

end Yaml
end Patchwork
