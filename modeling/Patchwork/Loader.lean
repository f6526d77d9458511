import Patchwork.FileView
import Patchwork.KindError
import Patchwork.Object
import Patchwork.Yaml

/-!
# Loading documents

* `Loader.documents` reads all documents of a YAML file, without the empty ones, under the rules
  for manifests; `Loader.documentsWith` does so with any reader of texts.
* `Loader.objects` converts those that announce themselves as Objects; `Loader.object` wants
  exactly one.
-/

set_option autoImplicit false

namespace Patchwork

/-- Why an operation on files gives nothing: an error, data that it does not check and cannot
handle, or a file that cannot be asked for or written. -/
inductive Failure where
  | error (e : Error)
  | kind (e : KindError)
  | scalar (e : Yaml.ScalarError)
  | file (fault : FileFault)
  | unnameable
  deriving Repr

/-- The failure says something about the data, so that a command reports it. -/
def Failure.reported? : Failure → Option Error
  | .error e => if e.limit?.isSome then none else some e
  | _ => none

namespace Loader

/-- The maps among values; the first value that is none is an error that gives its number. -/
def mappings (file : String) (number : Nat) :
    List Value → Except LoadError (List (List (Value × Value)))
  | [] => .ok []
  | .map entries :: rest => (entries :: ·) <$> mappings file (number + 1) rest
  | _ :: _ => .error (.notMapping file number)

/-- A reader of the values of all documents of a text. -/
abbrev Reader := String → Except Yaml.ReadError (List Value)

/-- The documents of a file, for what its reader gives of its text. -/
def parsed (file : String) : Except Yaml.ReadError (List Value) →
    Except Failure (List (List (Value × Value)))
  | .error .invalid => .error (.error (.load (.invalidYaml file)))
  | .error (.scalar e) => .error (.scalar e)
  | .error .tooDeep => .error (.kind (.limit .nesting))
  | .ok values =>
    (mappings file 1 (values.filter fun v => !v.isNull)).mapError fun e => .error (.load e)

/-- The documents of a file, read from its text by a reader. -/
def documentsWith (reader : Reader) (view : FileView) (path : String) :
    Except Failure (List (List (Value × Value))) :=
  let file := FilePath.normalize path
  if !FilePath.isNameable path then .error .unnameable
  else match view.read path with
    | .error fault => .error (.error (.load (.unreadable file fault)))
    | .ok text => parsed file (reader text)

/-- The documents of a file. -/
def documents (view : FileView) (path : String) : Except Failure (List (List (Value × Value))) :=
  documentsWith (Yaml.read Yaml.ImplicitRule.manifest) view path

/-- The Objects of a file; other documents are left out. -/
def objects (view : FileView) (path : String) : Except Failure (List Object) := do
  let documents ← documents view path
  ((documents.filter ApiGroup.isObject).mapM fun entries => Object.ofValue (.map entries)).mapError
    fun e => .error (.conversion e)

/-- The one Object of a file. -/
def object (view : FileView) (path : String) : Except Failure Object := do
  match ← objects view path with
  | [o] => return o
  | found =>
    throw (.error (.load (.notOneObject (FilePath.normalize path) found.length)))

end Loader
end Patchwork
