import Patchwork.Value.Decidable
import Patchwork.Value.Json
import Patchwork.Yaml
import Patchwork.Yaml.Printer

/-!
# Writers of YAML

How documents are laid out as YAML is up to the writer.  What counts is that they can be read back.

* `Yaml.Writer` is a writer of documents, which may stop at a limit.
* `Yaml.Writer.checked` prints documents in block form, and hands out no text that it has not read
  back.
-/

set_option autoImplicit false

namespace Patchwork
namespace Yaml

/-- A writer of documents.  It may stop at a limit; a text that it gives is read as the documents
again. -/
structure Writer where
  dump : List Value → Except Limit String
  read_dump : ∀ documents text, (∀ v ∈ documents, v.isJson = true) →
    dump documents = .ok text → read ImplicitRule.standard text = .ok documents

namespace Writer

/-- The text of documents in block form, once it was read back.  The reader has a bound for
collections inside each other; what it does not give back is beyond that. -/
def dumpChecked (documents : List Value) : Except Limit String :=
  match (Value.list documents).limit? with
  | some limit => .error limit
  | none =>
    let text := render documents
    match read ImplicitRule.standard text with
    | .ok again => if again = documents then .ok text else .error .nesting
    | .error _ => .error .nesting

theorem read_of_dumpChecked {documents : List Value} {text : String}
    (h : dumpChecked documents = .ok text) :
    read ImplicitRule.standard text = .ok documents := by
  unfold dumpChecked at h
  split at h
  · cases h
  · dsimp only at h
    split at h
    · rename_i again hread
      split at h
      · rename_i heq
        cases h
        rw [hread, heq]
      · cases h
    · cases h

/-- The writer that reads its text back. -/
def checked : Writer := ⟨dumpChecked, fun _ _ _ h => read_of_dumpChecked h⟩

end Writer
end Yaml
end Patchwork
