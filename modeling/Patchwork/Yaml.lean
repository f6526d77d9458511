import Patchwork.Yaml.Node.Value
import Patchwork.Yaml.Token.Lexer

/-!
# Reading YAML

`Yaml.read` gives the values of all documents of a text.  A text is read in full or not at all: the
first document that has no value decides the error.
-/

set_option autoImplicit false

namespace Patchwork
namespace Yaml

/-- The values of the documents in tokens; `fuel` bounds their number. -/
def readDocuments (rules : List ImplicitRule) :
    (fuel : Nat) → (first : Bool) → List Token → Except ReadError (List Value)
  | 0, _, _ => .error .invalid
  | fuel + 1, first, tokens => do
    match ← readDocument first tokens with
    | (none, _) => return []
    | (some graph, rest) =>
      let v ← graph.value rules
      let others ← readDocuments rules fuel false rest
      return v :: others

/-- The values of the documents of a text, under rules for plain scalars. -/
def read (rules : List ImplicitRule) (text : String) : Except ReadError (List Value) :=
  let tokens := tokens (normalizeBreaks text.toList)
  readDocuments rules (tokens.length + 1) true tokens

end Yaml
end Patchwork
