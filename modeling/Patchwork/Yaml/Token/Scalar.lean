import Patchwork.Text
import Patchwork.Yaml.Char
import Patchwork.Yaml.Error

/-!
# Scalar tokens

How the text of a scalar is read: in quotes, as a block after `|` or `>`, or plain.  Each reader
starts at the scalar and gives its content and the place behind it; it gives nothing, or an error
that says why, if the scalar is malformed.  The loops take a bound on their rounds; the length of
what follows is enough, since each round moves on.
-/

set_option autoImplicit false

namespace Patchwork
namespace Yaml

/-! ## Quoted scalars -/

/-- The number that hexadecimal digits write. -/
def hexNumber? (digits : List Char) : Option Nat :=
  digits.foldlM (fun n c =>
    if c.isDigit then some (16 * n + (c.toNat - 48))
    else if 'a' ≤ c && c ≤ 'f' then some (16 * n + (c.toNat - 87))
    else if 'A' ≤ c && c ≤ 'F' then some (16 * n + (c.toNat - 55))
    else none) 0

/-- The character that a letter stands for behind a backslash. -/
def escapedChar? : Char → Option Char
  | '0' => some '\u0000'
  | 'a' => some '\u0007'
  | 'b' => some '\u0008'
  | 't' | '\t' => some '\t'
  | 'n' => some '\n'
  | 'v' => some '\u000b'
  | 'f' => some '\u000c'
  | 'r' => some '\r'
  | 'e' => some '\u001b'
  | ' ' => some ' '
  | '\x22' => some '\x22'
  | '\\' => some '\\'
  | '/' => some '/'
  | 'N' => some '\u0085'
  | '_' => some '\u00a0'
  | 'L' => some '\u2028'
  | 'P' => some '\u2029'
  | _ => none

/-- How many hexadecimal digits follow a letter behind a backslash. -/
def escapeWidth? : Char → Option Nat
  | 'x' => some 2
  | 'u' => some 4
  | 'U' => some 8
  | _ => none

/-- The blank lines from here on, as content; a document boundary must not come first. -/
def quotedBreaks : (fuel : Nat) → Cursor → Option (List Char × Cursor)
  | 0, _ => none
  | fuel + 1, c =>
    if c.atBoundary then none
    else
      let c := c.skipWhile isBlank
      if c.at? isBreak then do
        let (content, c) := c.takeBreak
        let (more, c) ← quotedBreaks fuel c
        return (content ++ more, c)
      else some ([], c)

/-- The blanks from here on, as content.  At the end of a line they and one line end become a
space, unless blank lines follow. -/
def quotedBlanks (c : Cursor) : Option (List Char × Cursor) :=
  let (blanks, c) := c.run isBlank
  match c.peek with
  | none => none
  | some ch =>
    if isBreak ch then do
      let (first, c) := c.takeBreak
      let (breaks, c) ← quotedBreaks (c.rest.length + 1) c
      let joined := if first ≠ ['\n'] then first else if breaks.isEmpty then [' '] else []
      return (joined ++ breaks, c)
    else some (blanks, c)

/-- The character stands for itself inside quotes of either kind. -/
def isQuotedPlain (c : Char) : Bool :=
  !(c = '\x27' || c = '\x22' || c = '\\' || isBlank c || isBreak c)

/-- What was read, which must be there. -/
def orInvalid {α : Type} : Option α → Except ReadError α
  | some a => .ok a
  | none => .error .invalid

/-- The number behind a backslash and a letter, if one is written there. -/
def codeBehind? (c : Cursor) : Option (Nat × Cursor) := do
  let width ← c.peek.bind escapeWidth?
  let digits := c.next.rest.take width
  if digits.length < width then none
  else return (← hexNumber? digits, c.next.skip width)

/-- The greatest number of a code point. -/
def maxCode : Nat := 0x10FFFF

/-- The greatest number that is looked up as one of a code point. -/
def maxLookup : Nat := 0x7FFFFFFF

/-- The code point of a number.  Each escape writes its own: surrogates are not joined. -/
def pointOfCode (code : Nat) : Except ReadError CodePoint :=
  if maxLookup < code then .error (.scalar .tooLarge)
  else if maxCode < code then .error (.scalar .notACharacter)
  else .ok (CodePoint.ofNat code)

/-- Characters that were read, as code points. -/
def asPoints (read : List Char × Cursor) : List CodePoint × Cursor :=
  (read.1.map CodePoint.char, read.2)

/-- One escape of a scalar in double quotes, behind its backslash. -/
def readEscape (c : Cursor) : Except ReadError (List CodePoint × Cursor) := do
  let ch ← orInvalid c.peek
  match escapedChar? ch, codeBehind? c with
  | some d, _ => return ([.char d], c.next)
  | none, some (code, c) => return ([← pointOfCode code], c)
  | none, none =>
    if isBreak ch then
      asPoints <$> orInvalid (quotedBreaks (c.rest.length + 1) c.takeBreak.2)
    else throw .invalid

/-- The content of a quoted scalar from behind its opening quote. -/
def quotedContent (double : Bool) :
    (fuel : Nat) → Cursor → Except ReadError (List CodePoint × Cursor)
  | 0, _ => .error .invalid
  | fuel + 1, c => do
    let ch ← orInvalid c.peek
    let (piece, c) ←
      if isQuotedPlain ch then pure (asPoints (c.run isQuotedPlain))
      else if isBlank ch || isBreak ch then asPoints <$> orInvalid (quotedBlanks c)
      else if double then
        if ch = '\x22' then throw .invalid
        else if ch = '\\' then readEscape c.next
        else pure ([.char ch], c.next)
      else if ch = '\x27' then
        if c.peekAt 1 = some '\x27' then pure ([.char '\x27'], c.skip 2) else throw .invalid
      else pure ([.char ch], c.next)
    if c.peek = some (if double then '\x22' else '\x27')
        && !(!double && c.peekAt 1 = some '\x27') then
      return (piece, c.next)
    else
      let (more, c) ← quotedContent double fuel c
      return (piece ++ more, c)

/-- A scalar in quotes. -/
def readQuoted (c : Cursor) : Except ReadError (Text × Cursor) := do
  let quote ← orInvalid c.peek
  let double := quote = '\x22'
  let c := c.next
  if c.peek = some quote && (double || c.peekAt 1 ≠ some quote) then return (.string "", c.next)
  else
    let (content, c) ← quotedContent double (c.rest.length + 1) c
    return (Text.ofList content, c)

/-! ## Block scalars -/

/-- What becomes of the line ends at the end of a block scalar: all but the first are dropped,
all are dropped, or all are kept. -/
inductive Chomping where
  | clip
  | strip
  | keep
  deriving DecidableEq, Repr

/-- The sign for chomping. -/
def chompingOf? : Option Char → Option Chomping
  | some '+' => some .keep
  | some '-' => some .strip
  | _ => none

/-- The digit for the indentation, which must not be zero. -/
def indentDigit? : Option Char → Option Nat
  | some c => if c.isDigit then some (c.toNat - 48) else none
  | none => none

/-- The signs behind `|` or `>`: chomping and indentation, in either order. -/
def blockHeader (c : Cursor) : Option (Chomping × Option Nat × Cursor) := do
  let (chomping, c) := match chompingOf? c.peek with
    | some k => (some k, c.next)
    | none => (none, c)
  let (indentation, c) := match indentDigit? c.peek with
    | some n => (some n, c.next)
    | none => (none, c)
  let (chomping, c) := match chomping, indentation, chompingOf? c.peek with
    | none, some _, some k => (some k, c.next)
    | k, _, _ => (k, c)
  if indentation = some 0 || !isSpaceOrEnd c.peek then none
  else return (chomping.getD .clip, indentation, c)

/-- The rest of a line that holds nothing but a comment. -/
def skipComment (c : Cursor) : Option Cursor :=
  let c := c.skipWhile (· = ' ')
  let c := if c.peek = some '#' then c.skipWhile (!isBreak ·) else c
  if isBreakOrEnd c.peek then some c.takeBreak.2 else none

/-- The blank lines before the first line of content, and the greatest column reached in them. -/
def leadingBreaks : (fuel widest : Nat) → Cursor → List Char × Nat × Cursor
  | 0, widest, c => ([], widest, c)
  | fuel + 1, widest, c =>
    if c.at? isBreak then
      let (content, c) := c.takeBreak
      let (more, widest, c) := leadingBreaks fuel widest c
      (content ++ more, widest, c)
    else if c.peek = some ' ' then leadingBreaks fuel (max widest c.next.column) c.next
    else ([], widest, c)

/-- Up to the indentation, over spaces. -/
def skipIndent (indent : Nat) (c : Cursor) : Cursor :=
  c.skip ((c.rest.take (indent - c.column)).takeWhile (· = ' ')).length

/-- The blank lines from here on, and the start of the next line up to the indentation. -/
def blockBreaks (indent : Nat) : (fuel : Nat) → Cursor → List Char × Cursor
  | 0, c => ([], c)
  | fuel + 1, c =>
    let c := skipIndent indent c
    if c.at? isBreak then
      let (content, c) := c.takeBreak
      let (more, c) := blockBreaks indent fuel c
      (content ++ more, c)
    else ([], c)

/-- The lines of a block scalar: their content, the last line end, and the blank lines behind. -/
def blockLines (folded : Bool) (indent : Nat) :
    (fuel : Nat) → (breaks : List Char) → Cursor → List Char × List Char × List Char × Cursor
  | 0, breaks, c => ([], [], breaks, c)
  | fuel + 1, breaks, c =>
    if c.column = indent && c.peek.isSome then
      let startsFull := !c.at? isBlank
      let (line, c) := c.run (!isBreak ·)
      let (lineEnd, c) := c.takeBreak
      let (after, c) := blockBreaks indent (c.rest.length + 1) c
      if c.column = indent && c.peek.isSome then
        let joint :=
          if folded && lineEnd = ['\n'] && startsFull && !c.at? isBlank then
            if after.isEmpty then [' '] else []
          else lineEnd
        let (more, lastEnd, trailing, c) := blockLines folded indent fuel after c
        (breaks ++ line ++ joint ++ more, lastEnd, trailing, c)
      else (breaks ++ line, lineEnd, after, c)
    else ([], [], breaks, c)

/-- A scalar behind `|` or, folded, behind `>`; `parent` is the indentation around it. -/
def readBlock (parent : Int) (c : Cursor) : Option (String × Cursor) := do
  let folded := c.peek = some '>'
  let (chomping, indentation, c) ← blockHeader c.next
  let c ← skipComment c
  let least := max (parent + 1).toNat 1
  let (breaks, indent, c) := match indentation with
    | some n =>
      let indent := least + n - 1
      let (breaks, c) := blockBreaks indent (c.rest.length + 1) c
      (breaks, indent, c)
    | none =>
      let (breaks, widest, c) := leadingBreaks (c.rest.length + 1) 0 c
      (breaks, max least widest, c)
  let (content, lastEnd, trailing, c) := blockLines folded indent (c.rest.length + 1) breaks c
  let ending := match chomping with
    | .clip => lastEnd
    | .strip => []
    | .keep => lastEnd ++ trailing
  return (String.ofList (content ++ ending), c)

/-! ## Plain scalars -/

/-- A plain scalar can begin here. -/
def startsPlain (inFlow : Bool) (c : Cursor) : Bool :=
  match c.peek with
  | none => false
  | some ch =>
    !(isBlank ch || isBreak ch || isIndicator ch) ||
      (!isBlankOrEnd (c.peekAt 1) && (ch = '-' || (!inFlow && (ch = '?' || ch = ':'))))

/-- The characters of one word of a plain scalar: up to a blank or line end, to a colon that ends
a key, or inside brackets to one of their signs. -/
def plainWord (inFlow : Bool) : List Char → List Char
  | [] => []
  | ch :: rest =>
    if isBlank ch || isBreak ch then []
    else if ch = ':' && (isBlankOrEnd rest.head? || (inFlow && rest.head?.any isFlowIndicator)) then
      []
    else if inFlow && (isFlowIndicator ch || ch = '?') then []
    else ch :: plainWord inFlow rest

/-- The blank lines between lines of a plain scalar; nothing if a document boundary follows. -/
def plainBreaks : (fuel : Nat) → Cursor → Option (List Char) × Cursor
  | 0, c => (some [], c)
  | fuel + 1, c =>
    if c.peek = some ' ' then plainBreaks fuel c.next
    else if c.at? isBreak then
      let (content, c) := c.takeBreak
      if c.atBoundary then (none, c)
      else
        let (more, c) := plainBreaks fuel c
        (more.map (content ++ ·), c)
    else (some [], c)

/-- What joins two words of a plain scalar, whether a line ended, and the place behind; nothing
joins at a document boundary. -/
def plainJoint (c : Cursor) : List Char × Bool × Cursor :=
  let (spaces, c) := c.run (· = ' ')
  if c.at? isBreak then
    let (first, c) := c.takeBreak
    if c.atBoundary then ([], true, c)
    else
      match plainBreaks (c.rest.length + 1) c with
      | (none, c) => ([], true, c)
      | (some breaks, c) =>
        let joined := if first ≠ ['\n'] then first else if breaks.isEmpty then [' '] else []
        (joined ++ breaks, true, c)
  else (spaces, false, c)

/-- The words of a plain scalar, the joint before the first being `joint`; also whether the scalar
ended at the end of a line. -/
def plainWords (inFlow : Bool) (indent : Nat) :
    (fuel : Nat) → (joint : List Char) → (lineEnded : Bool) → Cursor → List Char × Bool × Cursor
  | 0, _, lineEnded, c => ([], lineEnded, c)
  | fuel + 1, joint, lineEnded, c =>
    let word := if c.peek = some '#' then [] else plainWord inFlow c.rest
    if word.isEmpty then ([], lineEnded, c)
    else
      let (next, ended, c) := plainJoint (c.skip word.length)
      if next.isEmpty || c.peek = some '#' || (!inFlow && c.column < indent) then
        (joint ++ word, ended, c)
      else
        let (more, ended, c) := plainWords inFlow indent fuel next ended c
        (joint ++ word ++ more, ended, c)

/-- A plain scalar; `parent` is the indentation around it.  Also says whether a line ended behind
it, where a key may begin again. -/
def readPlain (inFlow : Bool) (parent : Int) (c : Cursor) : String × Bool × Cursor :=
  let (content, lineEnded, c) :=
    plainWords inFlow (parent + 1).toNat (c.rest.length + 1) [] false c
  (String.ofList content, lineEnded, c)

end Yaml
end Patchwork
