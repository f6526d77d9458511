import Patchwork.KindError
import Patchwork.Reference

/-!
# Consistency of references

Rules about the references of an Object document that a schema cannot express:

* a reference sets exactly one of `dependsOn` and `patchesFrom`;
* `toFieldPath` only has a meaning beside `patchesFrom`;
* `fieldPath` and `toFieldPath` are field paths;
* no reference points at the Object itself;
* no two patches write the same destination.

`Semantics.check` lists the issues of a document.  The document need not have passed the schema;
where it is of the wrong kind altogether the check stops with a `KindError`.
-/

set_option autoImplicit false

namespace Patchwork

/-- How bad an issue is: an error stops the Object, a warning is likely a mistake. -/
inductive Severity where
  | error
  | warning
  deriving DecidableEq, Repr

/-- The name of a severity. -/
def Severity.text : Severity → String
  | .error => "error"
  | .warning => "warning"

/-- What is inconsistent about a reference. -/
inductive SemanticFault where
  | ambiguous
  | empty
  | toFieldPathUnused
  | invalidFieldPath (value : Value) (error : PathError)
  | selfReference (name : Value)
  | duplicateDestination (first later : Nat) (destination : Value)
  deriving Repr

namespace SemanticFault

/-- Repeated destinations and useless paths are warnings, all else errors. -/
def severity : SemanticFault → Severity
  | .toFieldPathUnused | .duplicateDestination .. => .warning
  | _ => .error

/-- The code that identifies the rule. -/
def code : SemanticFault → String
  | .ambiguous => "REFERENCE_AMBIGUOUS"
  | .empty => "REFERENCE_EMPTY"
  | .toFieldPathUnused => "TO_FIELD_PATH_UNUSED"
  | .invalidFieldPath .. => "FIELD_PATH_INVALID"
  | .selfReference _ => "SELF_REFERENCE"
  | .duplicateDestination .. => "DUPLICATE_DESTINATION"

/-- The fault in words. -/
def message : SemanticFault → Text
  | .ambiguous =>
    "Reference sets both 'dependsOn' and 'patchesFrom'. "
      ++ "Use 'patchesFrom' alone; it already implies the dependency."
  | .empty => "Reference sets neither 'dependsOn' nor 'patchesFrom'."
  | .toFieldPathUnused => "'toFieldPath' has no effect without 'patchesFrom'."
  | .invalidFieldPath value error =>
    "Invalid field path " ++ value.literal ++ ": " ++ error.message
  | .selfReference name =>
    "Reference points at this " ++ ApiGroup.kind ++ " itself ('" ++ name.display ++ "')."
  | .duplicateDestination first later destination =>
    "References " ++ toString first ++ " and " ++ toString later ++ " both write '"
      ++ destination.display ++ "'; the later one wins."

end SemanticFault

/-- A fault at a location. -/
structure SemanticIssue where
  location : Text
  fault : SemanticFault
  deriving Repr

namespace SemanticIssue

/-- How bad the issue is. -/
def severity (i : SemanticIssue) : Severity := i.fault.severity

/-- The code that identifies the rule. -/
def code (i : SemanticIssue) : String := i.fault.code

/-- The fault in words. -/
def message (i : SemanticIssue) : Text := i.fault.message

end SemanticIssue

/-- The issues of a document, in the order in which they were found. -/
structure SemanticReport where
  issues : List SemanticIssue
  deriving Repr

namespace SemanticReport

/-- The issues that stop the Object. -/
def errors (r : SemanticReport) : List SemanticIssue :=
  r.issues.filter fun i => i.severity = .error

/-- The issues that are likely mistakes. -/
def warnings (r : SemanticReport) : List SemanticIssue :=
  r.issues.filter fun i => i.severity = .warning

/-- No issue stops the Object. -/
def passed (r : SemanticReport) : Bool := r.errors.isEmpty

/-- The verdict and the counts in one line. -/
def summary (r : SemanticReport) : String :=
  (if r.passed then "[PASS] " else "[FAIL] ") ++ toString r.errors.length ++ " error(s), "
    ++ toString r.warnings.length ++ " warning(s)"

end SemanticReport

namespace Semantics

/-- The location of a reference. -/
def referenceLocation (i : Nat) : Text := Location.item "spec.references" i

/-- The faults of setting both or neither of the variants, and of a useless destination. -/
def variantIssues (location : Text) (ref : List (Value × Value)) : List SemanticIssue :=
  let depends := !(Value.field ref "dependsOn").isNull
  let patches := !(Value.field ref "patchesFrom").isNull
  (if depends && patches then [⟨location, .ambiguous⟩]
    else if !depends && !patches then [⟨location, .empty⟩] else [])
  ++ (if !(Value.field ref "toFieldPath").isNull && !patches then
      [⟨Location.part location "toFieldPath", .toFieldPathUnused⟩] else [])

/-- The issue of a value that should be a field path, unless it is null. -/
def fieldPathIssues (location : Text) (v : Value) : Except KindError (List SemanticIssue) :=
  if v.isNull then .ok []
  else match FieldPath.ofValue v with
    | .ok _ => .ok []
    | .error e =>
      match e.limit? with
      | some limit => .error (.limit limit)
      | none => .ok [⟨location, .invalidFieldPath v e⟩]

/-- The issues of both field paths of a reference. -/
def pathIssues (location : Text) (ref : List (Value × Value)) :
    Except KindError (List SemanticIssue) := do
  let patchesFrom ← (Value.field ref "patchesFrom").entriesIfSet
  let sources ← fieldPathIssues
    (Location.part (Location.part location "patchesFrom") "fieldPath")
    (Value.field patchesFrom "fieldPath")
  let destinations ← fieldPathIssues (Location.part location "toFieldPath")
    (Value.field ref "toFieldPath")
  return sources ++ destinations

/-- The value, or another when it counts as unset. -/
def orElse (v default : Value) : Value := if v.truthy then v else default

/-- The key of the document itself. -/
def ownKey (document : List (Value × Value)) : Except KindError ResourceKey := do
  let metadata ← (Value.field document "metadata").entriesIfSet
  return {
    apiVersion := Value.fieldOr document "apiVersion" (.str ApiGroup.apiVersion)
    kind := Value.fieldOr document "kind" (.str ApiGroup.kind)
    ns := Value.fieldOr metadata "namespace" (.str "")
    name := Value.fieldOr metadata "name" (.str "") }

/-- The key that a reference points at. -/
def referencedKey (target : List (Value × Value)) : ResourceKey where
  apiVersion := orElse (Value.field target "apiVersion") (.str ApiGroup.apiVersion)
  kind := orElse (Value.field target "kind") (.str ApiGroup.kind)
  ns := Value.fieldOr target "namespace" (.str "")
  name := Value.fieldOr target "name" (.str "")

/-- The issue of a reference that points at the document itself. -/
def selfIssues (document : List (Value × Value)) (location : Text)
    (ref : List (Value × Value)) : Except KindError (List SemanticIssue) := do
  let target := orElse (Value.field ref "patchesFrom") (Value.field ref "dependsOn")
  if !target.truthy then return []
  let own ← ownKey document
  let referenced := referencedKey (← target.entriesOf)
  return if own.name.truthy && referenced.same own then [⟨location, .selfReference own.name⟩]
    else []

/-- The issues of the reference at position `i`, apart from its destination. -/
def referenceIssues (document : List (Value × Value)) (i : Nat) (ref : Value) :
    Except KindError (List SemanticIssue) := do
  let location := referenceLocation i
  let ref ← ref.entriesOf
  let paths ← pathIssues location ref
  let selfs ← selfIssues document location ref
  return variantIssues location ref ++ paths ++ selfs

/-- The issues of the references from position `i` on, apart from their destinations. -/
def allReferenceIssues (document : List (Value × Value)) (i : Nat) :
    List Value → Except KindError (List SemanticIssue)
  | [] => .ok []
  | ref :: rest => do
    let issues ← referenceIssues document i ref
    let others ← allReferenceIssues document (i + 1) rest
    return issues ++ others

/-- The path that a reference writes, if it copies a value and the path is set. -/
def destination? (ref : Value) : Except KindError (Option Value) := do
  let ref ← ref.entriesOf
  let patchesFrom := Value.field ref "patchesFrom"
  if !patchesFrom.truthy then return none
  let patchesFrom ← patchesFrom.entriesOf
  let own := Value.field ref "toFieldPath"
  let destination := if own.isNull then Value.field patchesFrom "fieldPath" else own
  return if destination.truthy then some destination else none

/-- The issues of references from position `i` on that write what an earlier one writes; `seen`
holds the destinations so far with the first reference to each. -/
def destinationIssues (seen : List (Value × Nat)) (i : Nat) :
    List Value → Except KindError (List SemanticIssue)
  | [] => .ok []
  | ref :: rest => do
    match ← destination? ref with
    | none => destinationIssues seen (i + 1) rest
    | some destination =>
      if !destination.hashable then throw .unhashable
      match seen.find? fun s => s.1.same destination with
      | some (_, first) =>
        let others ← destinationIssues seen (i + 1) rest
        return ⟨referenceLocation i, .duplicateDestination first i destination⟩ :: others
      | none => destinationIssues (seen ++ [(destination, i)]) (i + 1) rest

/-- The items of a value that counts as set.  Items of anything but an array or tuple are no
references. -/
def referenceItems : Value → Except KindError (List Value)
  | .list items | .tuple items => .ok items
  | .str _ | .map _ | .bytes _ | .set _ => .error .notAnObject
  | _ => .error .notIterable

/-- The references of a document. -/
def references (document : List (Value × Value)) : Except KindError (List Value) := do
  let spec ← (Value.field document "spec").entriesIfSet
  let references := Value.field spec "references"
  if references.truthy then referenceItems references else return []

/-- The issues of a document. -/
def check (document : Value) : Except KindError SemanticReport := do
  let document ← document.entriesOf
  let refs ← references document
  let issues ← allReferenceIssues document 0 refs
  let repeated ← destinationIssues [] 0 refs
  return ⟨issues ++ repeated⟩

end Semantics
end Patchwork
