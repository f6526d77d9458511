import Patchwork.Yaml.Token
import Patchwork.Yaml.Token.Scalar

/-!
# Reading tokens

`Yaml.tokens` reads the tokens of a text.  Where the text cannot be read the tokens end with
`Token.fault`, so that what stands before is still there.  A token that may begin a key only counts
once it is known whether it does.

A text is checked in pieces for characters that may not stand in it.  Nothing is read out of a text
whose first piece holds one; a later piece only matters once it is reached.

Two things make the reading more than a split.  Indentation becomes tokens: `Lexer.indent` is the
column of the innermost block, and a smaller column ends it.  And a key without `?` is only known
by the `:` behind it: `Lexer.keys` holds the place where a key may have begun, for each depth of
brackets, and the token for the key is put in there later.  Such a key stays on one line and
within 1024 characters.
-/

set_option autoImplicit false

namespace Patchwork
namespace Yaml

/-- A place where a key may have begun: the number of tokens before it, whether a key has to be
there, and the position. -/
structure PossibleKey where
  tokensBefore : Nat
  required : Bool
  index : Nat
  line : Nat
  column : Nat

/-- The state of reading tokens. -/
structure Lexer where
  cursor : Cursor
  /-- The tokens so far, the last one first. -/
  reversed : List Token := []
  /-- The number of tokens so far. -/
  count : Nat := 0
  /-- The number of open brackets and braces. -/
  flowLevel : Nat := 0
  /-- The column of the innermost block, below zero outside all blocks. -/
  indent : Int := -1
  /-- The columns of the blocks around it, the innermost first. -/
  outer : List Int := []
  /-- A key without `?` may begin here. -/
  keyAllowed : Bool := true
  /-- Where a key may have begun, by the number of open brackets and braces. -/
  keys : List (Nat × PossibleKey) := []

namespace Lexer

/-! ## Tokens and blocks -/

/-- The state with one more token. -/
def emit (s : Lexer) (t : Token) : Lexer :=
  { s with reversed := t :: s.reversed, count := s.count + 1 }

/-- The state with one more token, at a new place. -/
def emitAt (s : Lexer) (t : Token) (c : Cursor) : Lexer := { s.emit t with cursor := c }

/-- The state with a token put behind the first `before` ones. -/
def emitBehind (s : Lexer) (before : Nat) (t : Token) : Lexer :=
  let later := s.count - before
  { s with
    reversed := s.reversed.take later ++ t :: s.reversed.drop later
    count := s.count + 1 }

/-- A position is outside all brackets and braces. -/
def inBlock (s : Lexer) : Bool := s.flowLevel == 0

/-- Ends the blocks that are indented more than `column`; `fuel` bounds their number. -/
def endBlocks (column : Int) : (fuel : Nat) → Lexer → Lexer
  | 0, s => s
  | fuel + 1, s =>
    if column < s.indent then
      endBlocks column fuel
        ({ s with indent := s.outer.headD (-1), outer := s.outer.tail }.emit .blockEnd)
    else s

/-- Ends the blocks that are indented more than `column`, outside brackets and braces. -/
def unwind (s : Lexer) (column : Int) : Lexer :=
  if s.inBlock then s.endBlocks column (s.outer.length + 1) else s

/-- Whether a block begins at `column`, and the state inside it. -/
def beginBlock (s : Lexer) (column : Int) : Bool × Lexer :=
  if s.indent < column then
    (true, { s with outer := s.indent :: s.outer, indent := column })
  else (false, s)

/-- The column as an integer. -/
def column (s : Lexer) : Int := Int.ofNat s.cursor.column

/-! ## Possible keys -/

/-- Forgets the possible keys that the place has left behind; a required one must not be among
them. -/
def dropStale (s : Lexer) : Option Lexer :=
  let stale (k : PossibleKey) : Bool :=
    k.line != s.cursor.line || 1024 < s.cursor.index - k.index
  if s.keys.any fun (_, k) => stale k && k.required then none
  else some { s with keys := s.keys.filter fun (_, k) => !stale k }

/-- Forgets the possible key at the depth of the place; it must not be a required one. -/
def dropKey (s : Lexer) : Option Lexer :=
  match s.keys.lookup s.flowLevel with
  | some k =>
    if k.required then none
    else some { s with keys := s.keys.filter fun (level, _) => level != s.flowLevel }
  | none => some s

/-- Notes that a key may begin here. -/
def noteKey (s : Lexer) : Option Lexer :=
  if s.keyAllowed then do
    let s ← s.dropKey
    let k : PossibleKey := {
      tokensBefore := s.count
      required := s.inBlock && s.indent == s.column
      index := s.cursor.index
      line := s.cursor.line
      column := s.cursor.column }
    return { s with keys := (s.flowLevel, k) :: s.keys }
  else some s

/-! ## Blanks, directives and document marks -/

/-- Over spaces, comments and line ends to the next token; behind a line end outside brackets a
key may begin. -/
def skipBlanks : (fuel : Nat) → Lexer → Lexer
  | 0, s => s
  | fuel + 1, s =>
    let c := s.cursor.skipWhile (· = ' ')
    let c := if c.peek = some '#' then c.skipWhile (!isBreak ·) else c
    if c.at? isBreak then
      skipBlanks fuel
        { s with cursor := c.takeBreak.2, keyAllowed := s.keyAllowed || s.inBlock }
    else { s with cursor := c }

/-- To the next token; a byte order mark at the very start is no token. -/
def toNextToken (s : Lexer) : Lexer :=
  let c := if s.cursor.index = 0 && s.cursor.peek = some byteOrderMark then s.cursor.next
    else s.cursor
  skipBlanks (c.rest.length + 1) { s with cursor := c }

/-- A number in decimal digits. -/
def readNumber (c : Cursor) : Option (Nat × Cursor) :=
  let (digits, c) := c.run Char.isDigit
  if digits.isEmpty then none
  else some (digits.foldl (fun n d => 10 * n + (d.toNat - 48)) 0, c)

/-- One byte written as a percent sign and two hexadecimal digits. -/
def percentByte (c : Cursor) : Option (UInt8 × Cursor) :=
  match c.rest with
  | '%' :: a :: b :: _ => (hexNumber? [a, b]).map fun n => (UInt8.ofNat n, c.skip 3)
  | _ => none

/-- The bytes written by percent signs from here on. -/
def percentBytes : (fuel : Nat) → Cursor → Option (List UInt8 × Cursor)
  | 0, _ => none
  | fuel + 1, c =>
    if c.peek = some '%' then do
      let (b, c) ← percentByte c
      let (more, c) ← percentBytes fuel c
      return (b :: more, c)
    else some ([], c)

/-- The address in a tag: its characters, and bytes of UTF-8 behind percent signs. -/
def addressChars : (fuel : Nat) → Cursor → Option (List Char × Cursor)
  | 0, _ => none
  | fuel + 1, c =>
    if c.peek = some '%' then do
      let (bytes, c) ← percentBytes (c.rest.length + 1) c
      let text ← String.fromUTF8? ⟨bytes.toArray⟩
      let (more, c) ← addressChars fuel c
      return (text.toList ++ more, c)
    else if c.at? isAddressChar then do
      let (taken, c) := c.run fun ch => isAddressChar ch && ch ≠ '%'
      let (more, c) ← addressChars fuel c
      return (taken ++ more, c)
    else some ([], c)

/-- The address in a tag, which must not be empty. -/
def readAddress (c : Cursor) : Option (String × Cursor) := do
  let (content, c) ← addressChars (c.rest.length + 1) c
  if content.isEmpty then none else return (String.ofList content, c)

/-- The handle of a tag: an exclamation mark, or a name between two of them. -/
def readHandle (c : Cursor) : Option (String × Cursor) :=
  if c.peek ≠ some '!' then none
  else
    let start := c.next
    if start.peek = some ' ' then some ("!", start)
    else
      let (name, c) := start.run isNameChar
      if c.peek = some '!' then some (String.ofList ('!' :: name ++ ['!']), c.next) else none

/-- The value of a `%YAML` directive. -/
def readVersion (c : Cursor) : Option (Token × Cursor) := do
  let (major, c) ← readNumber (c.skipWhile (· = ' '))
  if c.peek ≠ some '.' then none
  else
    let (minor, c) ← readNumber c.next
    if isSpaceOrEnd c.peek then return (.versionDirective major minor, c) else none

/-- The value of a `%TAG` directive. -/
def readTagDirective (c : Cursor) : Option (Token × Cursor) := do
  let (handle, c) ← readHandle (c.skipWhile (· = ' '))
  if c.peek ≠ some ' ' then none
  else
    let (address, c) ← readAddress (c.skipWhile (· = ' '))
    if isSpaceOrEnd c.peek then return (.tagDirective handle address, c) else none

/-- A directive with the rest of its line. -/
def readDirective (c : Cursor) : Option (Token × Cursor) := do
  let (name, c) := c.next.run isNameChar
  if name.isEmpty || !isSpaceOrEnd c.peek then none
  else
    let name := String.ofList name
    let (token, c) ←
      if name = "YAML" then readVersion c
      else if name = "TAG" then readTagDirective c
      else some (.otherDirective name, c.skipWhile (!isBreak ·))
    return (token, ← skipComment c)

/-- At the start of a line: all blocks end and no key can begin. -/
def betweenDocuments (s : Lexer) : Option Lexer := do
  let s ← (s.unwind (-1)).dropKey
  return { s with keyAllowed := false }

/-! ## Names and tags -/

/-- The name of an anchor or alias. -/
def readName (c : Cursor) : Option (String × Cursor) :=
  let (name, c) := c.next.run isNameChar
  let ends := isBlankOrEnd c.peek || c.at? fun ch => "?:,]\x7d%@\x60".toList.contains ch
  if name.isEmpty || !ends then none else some (String.ofList name, c)

/-- The text of a tag has a second exclamation mark before its first space or line end. -/
def hasHandle : List Char → Bool
  | [] => false
  | c :: rest => c = '!' || (!(c = ' ' || isBreak c) && hasHandle rest)

/-- A tag. -/
def readTag (c : Cursor) : Option (WrittenTag × Cursor) := do
  let (tag, c) ←
    if c.peekAt 1 = some '<' then do
      let (suffix, c) ← readAddress (c.skip 2)
      if c.peek = some '>' then pure (⟨none, suffix⟩, c.next) else none
    else if isBlankOrEnd (c.peekAt 1) then pure (⟨none, "!"⟩, c.next)
    else do
      let (handle, c) ← if hasHandle c.next.rest then readHandle c else pure ("!", c.next)
      let (suffix, c) ← readAddress c
      pure (⟨some handle, suffix⟩, c)
  if isSpaceOrEnd c.peek then return (tag, c) else none

/-! ## One token -/

/-- Brackets or braces open. -/
def openFlow (s : Lexer) (t : Token) : Option Lexer := do
  let s ← s.noteKey
  return { s with flowLevel := s.flowLevel + 1, keyAllowed := true }.emitAt t s.cursor.next

/-- Brackets or braces close.  Where none are open the token stands for itself, and no node can
begin with it. -/
def closeFlow (s : Lexer) (t : Token) : Option Lexer := do
  let s ← s.dropKey
  return { s with flowLevel := s.flowLevel - 1, keyAllowed := false }.emitAt t s.cursor.next

/-- A comma between items. -/
def flowEntry (s : Lexer) : Option Lexer := do
  let s ← { s with keyAllowed := true }.dropKey
  return s.emitAt .flowEntry s.cursor.next

/-- The state inside a block of the given kind, which begins here unless it is open already; nothing
may stand before it on the line. -/
def ensureBlock (s : Lexer) (start : Token) : Option Lexer :=
  if !s.inBlock then some s
  else if !s.keyAllowed then none
  else
    let (begins, s) := s.beginBlock s.column
    some (if begins then s.emit start else s)

/-- A hyphen before an item. -/
def blockEntry (s : Lexer) : Option Lexer := do
  let s ← s.ensureBlock .blockSequenceStart
  let s ← { s with keyAllowed := true }.dropKey
  return s.emitAt .blockEntry s.cursor.next

/-- A question mark before a key. -/
def explicitKey (s : Lexer) : Option Lexer := do
  let s ← s.ensureBlock .blockMappingStart
  let s ← { s with keyAllowed := s.inBlock }.dropKey
  return s.emitAt .key s.cursor.next

/-- A colon.  If a key may have begun at this depth, it did, and its token is put in there. -/
def valueMark (s : Lexer) : Option Lexer := do
  let s ← match s.keys.lookup s.flowLevel with
    | some k =>
      let s := { s with keys := s.keys.filter fun (level, _) => level != s.flowLevel }
      let s := s.emitBehind k.tokensBefore .key
      let (begins, s) := if s.inBlock then s.beginBlock (Int.ofNat k.column) else (false, s)
      let s := if begins then s.emitBehind k.tokensBefore .blockMappingStart else s
      pure { s with keyAllowed := false }
    | none =>
      let s ← s.ensureBlock .blockMappingStart
      { s with keyAllowed := s.inBlock }.dropKey
  return s.emitAt .value s.cursor.next

/-- A token that may begin a key. -/
def keyStart (s : Lexer) (read : Cursor → Except ReadError (Token × Cursor)) :
    Except ReadError Lexer := do
  let s ← orInvalid s.noteKey
  let (t, c) ← read s.cursor
  return { s with keyAllowed := false }.emitAt t c

/-- A block scalar. -/
def blockScalar (s : Lexer) : Option Lexer := do
  let s ← { s with keyAllowed := true }.dropKey
  let (text, c) ← readBlock s.indent s.cursor
  return s.emitAt (.scalar text false) c

/-- A plain scalar. -/
def plainScalar (s : Lexer) : Option Lexer := do
  let s ← s.noteKey
  let (text, lineEnded, c) := readPlain (!s.inBlock) s.indent s.cursor
  return { s with keyAllowed := lineEnded }.emitAt (.scalar text true) c

/-- An alias, an anchor or a tag, which begin with different signs. -/
def readProperty (ch : Char) (c : Cursor) : Option (Token × Cursor) :=
  if ch = '*' then (readName c).map fun (name, c) => (.alias name, c)
  else if ch = '&' then (readName c).map fun (name, c) => (.anchor name, c)
  else (readTag c).map fun (tag, c) => (.tag tag, c)

/-- The token that begins with the character `ch` at the place. -/
def readToken (s : Lexer) (ch : Char) : Except ReadError Lexer :=
  let c := s.cursor
  let lone := isBlankOrEnd (c.peekAt 1)
  if c.column = 0 && ch = '%' then orInvalid do
    let s ← s.betweenDocuments
    let (t, c) ← readDirective c
    return s.emitAt t c
  else if c.column = 0 && c.atBoundary then orInvalid do
    let s ← s.betweenDocuments
    return s.emitAt (if ch = '-' then .documentStart else .documentEnd) (c.skip 3)
  else if ch = '[' then orInvalid (s.openFlow .flowSequenceStart)
  else if ch = '\x7b' then orInvalid (s.openFlow .flowMappingStart)
  else if ch = ']' then orInvalid (s.closeFlow .flowSequenceEnd)
  else if ch = '\x7d' then orInvalid (s.closeFlow .flowMappingEnd)
  else if ch = ',' then orInvalid s.flowEntry
  else if ch = '-' && lone then orInvalid s.blockEntry
  else if ch = '?' && (!s.inBlock || lone) then orInvalid s.explicitKey
  else if ch = ':' && (!s.inBlock || lone) then orInvalid s.valueMark
  else if ch = '*' || ch = '&' || ch = '!' then
    s.keyStart fun c => orInvalid (readProperty ch c)
  else if (ch = '|' || ch = '>') && s.inBlock then orInvalid s.blockScalar
  else if ch = '\x27' || ch = '\x22' then
    s.keyStart fun c => (readQuoted c).map fun (text, c) => (.scalar text false, c)
  else if startsPlain (!s.inBlock) c then orInvalid s.plainScalar
  else .error .invalid

/-- The state at the next token with everything settled that its place decides. -/
def settle (s : Lexer) : Option Lexer := do
  let s ← s.toNextToken.dropStale
  return s.unwind s.column

/-- The place lies among the first `readable` characters. -/
def within (readable : Nat) (s : Lexer) : Except ReadError Unit :=
  if s.cursor.index < readable then .ok () else .error .invalid

/-- The state behind the next token, and whether that is the end. -/
def step (readable : Nat) (s : Lexer) : Except ReadError (Bool × Lexer) := do
  let s ← orInvalid s.settle
  within readable s
  match s.cursor.peek with
  | none =>
    let s ← orInvalid (s.unwind (-1)).dropKey
    return (true, s.emit .streamEnd)
  | some ch =>
    let s ← s.readToken ch
    within readable s
    return (false, ← orInvalid s.dropStale)

/-- The number of tokens that are certain: those before the first one that may begin a key. -/
def certain (s : Lexer) : Nat := s.keys.foldl (fun n (_, k) => min n k.tokensBefore) s.count

/-- The tokens up to a fault. -/
def stop (s : Lexer) (e : ReadError) : List Token :=
  s.reversed.reverse.take s.certain ++ [.fault e]

/-- The tokens from a state on; `fuel` bounds their number. -/
def run (readable : Nat) : (fuel : Nat) → Lexer → List Token
  | 0, s => s.stop .invalid
  | fuel + 1, s =>
    match s.step readable with
    | .error e => s.stop e
    | .ok (true, s) => s.reversed.reverse
    | .ok (false, s) => run readable fuel s

end Lexer

/-- The number of characters in the first piece that is checked. -/
def firstPiece : Nat := 8192

/-- The number of characters in each further piece. -/
def furtherPiece : Nat := 4096

/-- The number of characters that can be read: those before the first piece with a character that is
not allowed, or all and the end behind them.  `fuel` bounds the number of pieces. -/
def readableFrom (piece : Nat) : (fuel : Nat) → List Char → Nat
  | 0, _ => 0
  | fuel + 1, text =>
    if (text.take piece).all isAllowed then
      if text.length ≤ piece then text.length + 1
      else piece + readableFrom furtherPiece fuel (text.drop piece)
    else 0

/-- The tokens of a text. -/
def tokens (text : List Char) : List Token :=
  let readable := readableFrom firstPiece (text.length + 1) text
  Lexer.run readable (text.length + 1) { cursor := ⟨text.take readable, 0, 0, 0⟩ }

end Yaml
end Patchwork
