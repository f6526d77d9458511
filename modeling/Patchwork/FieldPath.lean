import Patchwork.Value.Literal

/-!
# Field paths

A field path addresses a node of a document, as in `spec.containers[0].name` or
`metadata.labels[app.kubernetes.io/name]`.  Dots separate keys; brackets hold an array position
or a key that may itself hold dots.

* `FieldPath.parse` reads a path from its text in one pass over the characters, and names the
  first fault otherwise.
* `FieldPath.join` writes segments as text.
* `PathError` is what can go wrong in reading a path or in following it through a document.
-/

set_option autoImplicit false

namespace Patchwork

/-- One step of a field path: into an object by key or into an array by position.  Paths that
address documents have natural numbers as positions; a path can be written with positions of any
printable type. -/
inductive Segment (ι : Type := Nat) where
  | field (name : Text)
  | index (position : ι)
  deriving DecidableEq, Repr, Inhabited

namespace Segment

variable {ι : Type} [ToString ι]

/-- The segment on its own: a bare key, or a position in brackets. -/
def text : Segment ι → Text
  | .field name => name
  | .index i => "[" ++ toString i ++ "]"

/-- The key can only be written in brackets. -/
def needsBrackets (name : Text) : Bool :=
  name.toList.any fun c => c = '.' || c = '[' || c = ']'

/-- The text of a path extended by one segment. -/
def append (path : Text) : Segment ι → Text
  | .index i => path ++ "[" ++ toString i ++ "]"
  | .field name =>
    if needsBrackets name then path ++ "[" ++ name ++ "]"
    else if path.isEmpty then name
    else path ++ "." ++ name

end Segment

/-- A path through a document, from its root. -/
abbrev FieldPath := List (Segment Nat)

/-- The text of a sequence of segments. -/
def FieldPath.join {ι : Type} [ToString ι] (segments : List (Segment ι)) : Text :=
  segments.foldl Segment.append ""

/-- Why a text is not a field path.  Positions count characters from zero. -/
inductive PathFault where
  | notText
  | unexpectedDot (position : Nat)
  | endsWithDot
  | unterminated (position : Nat)
  | emptyBrackets (position : Nat)
  | afterBracket (found : CodePoint) (position : Nat)
  | unexpectedClose (position : Nat)
  /-- The digits in brackets are more than a number may have. -/
  | tooManyDigits
  deriving DecidableEq, Repr

namespace PathFault

/-- The fault in words. -/
def message : PathFault → String
  | .notText => "field path must be a non-empty string"
  | .unexpectedDot p => "unexpected '.' at position " ++ toString p
  | .endsWithDot => "path must not end with '.'"
  | .unterminated p => "unterminated '[' at position " ++ toString p
  | .emptyBrackets p => "empty brackets at position " ++ toString p
  | .afterBracket c p =>
    "unexpected " ++ Text.quoted (Text.ofList [c]) ++ " after ']' at position " ++ toString p
  | .unexpectedClose p => "unexpected ']' at position " ++ toString p
  | .tooManyDigits => Limit.digits.message

end PathFault

/-- What can go wrong with a path: it is malformed, or the document does not have what it
addresses or cannot take what is written there.  The places are the parts of the path up to the
node in question. -/
inductive PathError where
  | malformed (path : Text) (fault : PathFault)
  | notArray (place : FieldPath)
  | notObject (place : FieldPath)
  | noSuchField (place : FieldPath)
  | outOfBounds (place : FieldPath)
  | tooLong (place : FieldPath) (limit : Limit)
  | nothingToRead
  deriving DecidableEq, Repr

namespace PathError

/-- The path that the error is about. -/
def path : PathError → Text
  | .malformed path _ => path
  | .notArray place | .notObject place | .noSuchField place | .outOfBounds place
  | .tooLong place _ => FieldPath.join place
  | .nothingToRead => ""

/-- What is wrong, in words. -/
def reason : PathError → String
  | .malformed _ fault => fault.message
  | .notArray _ => "not an array"
  | .notObject _ => "not an object"
  | .noSuchField _ => "no such field"
  | .outOfBounds _ => "index out of bounds"
  | .tooLong _ limit => limit.message
  | .nothingToRead => "reference has no patchesFrom.fieldPath to read from"

/-- The path leads to nothing, as opposed to being wrong. -/
def isNotFound : PathError → Bool
  | .noSuchField _ | .outOfBounds _ => true
  | _ => false

/-- An array on the path cannot grow as far as it would have to. -/
def cannotGrow : PathError → Bool
  | .tooLong _ _ => true
  | _ => false

/-- The limit that was met, if that is what went wrong. -/
def limit? : PathError → Option Limit
  | .malformed _ .tooManyDigits => some .digits
  | .tooLong _ limit => some limit
  | _ => none

/-- The path, if there is one, and what is wrong. -/
def message (e : PathError) : Text :=
  if e.path.isEmpty then e.reason else e.path ++ ": " ++ e.reason

end PathError

namespace FieldPath

/-- The value of a decimal digit. -/
def digitValue (c : CodePoint) : Nat := c.toNat - '0'.toNat

/-- The number that decimal digits write. -/
def decimalValue (digits : List CodePoint) : Nat :=
  digits.foldl (fun n c => 10 * n + digitValue c) 0

/-- The segment for the content of brackets: a position if it is all ASCII digits, else a key.
Leading zeros count as digits. -/
def bracketSegment (content : List CodePoint) : Except PathFault Segment :=
  if content.all CodePoint.isDigit then
    if Limit.maxDigits < content.length then .error .tooManyDigits
    else .ok (.index (decimalValue content))
  else .ok (.field (Text.ofList content))

/-- Where a scan of a path stands. -/
inductive Scan where
  /-- An item must begin: nothing was read yet, or a dot was. -/
  | expectItem
  /-- Inside a bare key, whose characters so far stand in reverse. -/
  | key (reversed : List CodePoint)
  /-- Inside brackets opened at a position, with the content so far in reverse. -/
  | bracket (opened : Nat) (reversed : List CodePoint)
  /-- Just behind a closing bracket. -/
  | closed

/-- The segments of the characters from `position` on. -/
def scan : Scan → (position : Nat) → List CodePoint → Except PathFault FieldPath
  | .expectItem, _, [] => .error .endsWithDot
  | .expectItem, p, c :: rest =>
    if c = '.' then .error (.unexpectedDot p)
    else if c = '[' then scan (.bracket p []) (p + 1) rest
    else if c = ']' then .error (.unexpectedClose p)
    else scan (.key [c]) (p + 1) rest
  | .key reversed, _, [] => .ok [.field (Text.ofList reversed.reverse)]
  | .key reversed, p, c :: rest =>
    let segment := Segment.field (Text.ofList reversed.reverse)
    if c = '.' then (segment :: ·) <$> scan .expectItem (p + 1) rest
    else if c = '[' then (segment :: ·) <$> scan (.bracket p []) (p + 1) rest
    else if c = ']' then .error (.unexpectedClose p)
    else scan (.key (c :: reversed)) (p + 1) rest
  | .bracket opened _, _, [] => .error (.unterminated opened)
  | .bracket opened reversed, p, c :: rest =>
    if c = ']' then
      if reversed.isEmpty then .error (.emptyBrackets opened)
      else do
        let segment ← bracketSegment reversed.reverse
        (segment :: ·) <$> scan .closed (p + 1) rest
    else scan (.bracket opened (c :: reversed)) (p + 1) rest
  | .closed, _, [] => .ok []
  | .closed, p, c :: rest =>
    if c = '.' then scan .expectItem (p + 1) rest
    else if c = '[' then scan (.bracket p []) (p + 1) rest
    else .error (.afterBracket c p)

/-- The segments of a path. -/
def parse (path : Text) : Except PathFault FieldPath :=
  if path.isEmpty then .error .notText else scan .expectItem 0 path.toList

/-- The segments of a path, with the path named in the error. -/
def ofText (path : Text) : Except PathError FieldPath :=
  (parse path).mapError (.malformed path)

/-- The segments of a path given as a document value; only a text can be one. -/
def ofValue : Value → Except PathError FieldPath
  | .str path => ofText path
  | v => .error (.malformed v.displayIfSet .notText)

end FieldPath
end Patchwork
