import Patchwork.Reference

/-!
# Errors

Everything that this library refuses on its own account, in one type.  Each error is a cause;
`Error.message` puts it into words, and `Error.limit?` tells the errors apart that say nothing about
the data but that a limit was met.
-/

set_option autoImplicit false

namespace Patchwork

/-- Why a file could not be opened. -/
inductive FileFault where
  | missing
  | denied
  | notDirectory
  | isDirectory
  | nameTooLong
  deriving DecidableEq, Repr

/-- The fault in words, with its number. -/
def FileFault.message : FileFault → String
  | .missing => "[Errno 2] No such file or directory"
  | .denied => "[Errno 13] Permission denied"
  | .notDirectory => "[Errno 20] Not a directory"
  | .isDirectory => "[Errno 21] Is a directory"
  | .nameTooLong => "[Errno 36] File name too long"

/-- Why documents could not be loaded from a file. -/
inductive LoadError where
  | unreadable (file : String) (fault : FileFault)
  | invalidYaml (file : String)
  | notMapping (file : String) (number : Nat)
  | notOneObject (file : String) (found : Nat)
  deriving DecidableEq, Repr

/-- The error in words. -/
def LoadError.message : LoadError → String
  | .unreadable file fault =>
    "Cannot read " ++ file ++ ": " ++ fault.message ++ ": " ++ Text.quoted file
  | .invalidYaml file => "Invalid YAML in " ++ file
  | .notMapping file number => file ++ ": document " ++ toString number ++ " is not a mapping"
  | .notOneObject file found =>
    file ++ ": expected exactly one " ++ ApiGroup.kind ++ ", found " ++ toString found

/-- No document is known for what a reference points at. -/
structure UnknownResource where
  target : DependsOn
  deriving DecidableEq, Repr

/-- The error in words. -/
def UnknownResource.message (e : UnknownResource) : Text :=
  e.target.kind ++ " " ++ e.target.displayName ++ " (" ++ e.target.apiVersion ++ ") not found"

/-- Everything that is refused. -/
inductive Error where
  | path (e : PathError)
  | conversion (e : ConversionError)
  | unknownResource (e : UnknownResource)
  | load (e : LoadError)
  deriving Repr

namespace Error

/-- The error in words. -/
def message : Error → Text
  | .path e => e.message
  | .conversion e => e.message
  | .unknownResource e => e.message
  | .load e => e.message

/-- The limit that was met, if that is the cause. -/
def limit? : Error → Option Limit
  | .path e => e.limit?
  | .conversion e => e.limit?
  | .unknownResource _ | .load _ => none

/-- The result with a path error as the general one. -/
def ofPath {α : Type} (r : Except PathError α) : Except Error α := r.mapError .path

/-- The result with a conversion error as the general one. -/
def ofConversion {α : Type} (r : Except ConversionError α) : Except Error α :=
  r.mapError .conversion

@[simp] theorem ofPath_ok {α : Type} (a : α) : ofPath (.ok a) = .ok a := rfl

@[simp] theorem ofPath_error {α : Type} (e : PathError) :
    ofPath (.error e : Except PathError α) = .error (.path e) := rfl

@[simp] theorem ofConversion_ok {α : Type} (a : α) : ofConversion (.ok a) = .ok a := rfl

@[simp] theorem ofConversion_error {α : Type} (e : ConversionError) :
    ofConversion (.error e : Except ConversionError α) = .error (.conversion e) := rfl

end Error
end Patchwork
