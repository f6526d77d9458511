import Patchwork.Value.Literal
import Patchwork.Yaml.Implicit
import Patchwork.Yaml.Char

/-!
# Writing YAML

`Yaml.render` writes documents in block form.  A text stands plain only if it is a simple word
that no rule for plain scalars takes for something else, and in double quotes otherwise.
-/

set_option autoImplicit false

namespace Patchwork
namespace Yaml

/-! ## Scalars -/

/-- A character that can stand anywhere in a plain scalar but at its start. -/
def isWordChar (c : Char) : Bool := c.isAlphanum || c = '_' || c = '.' || c = '/' || c = '-'

/-- The text can stand plain: a letter, then word characters, and no other meaning. -/
def canBePlain (s : String) : Bool :=
  match s.toList with
  | [] => false
  | c :: rest =>
    c.isAlpha && rest.all isWordChar && ImplicitRule.apply ImplicitRule.standard s = .str

/-- A character between double quotes. -/
def doubleQuotedChar (c : Char) : List Char :=
  if c = '\x22' || c = '\\' then ['\\', c]
  else if c = '\n' then ['\\', 'n']
  else if c = '\t' then ['\\', 't']
  else if c = '\r' then ['\\', 'r']
  else if isAllowed c && Text.isPrintable c then [c]
  else Text.codeEscape c.toNat

/-- A code point between double quotes; a surrogate can only be written as an escape. -/
def doubleQuotedPoint : CodePoint → List Char
  | .char c => doubleQuotedChar c
  | .surrogate n => Text.codeEscape (CodePoint.surrogate n).toNat

/-- A text between double quotes. -/
def doubleQuoted (t : Text) : String :=
  String.ofList ('\x22' :: t.toList.flatMap doubleQuotedPoint ++ ['\x22'])

/-- A text, plain or in quotes. -/
def renderText (t : Text) : String :=
  match t.toString? with
  | some s => if canBePlain s then s else doubleQuoted s
  | none => doubleQuoted t

/-- A number with a decimal point, which an exponent needs in front of it. -/
def renderFloat : Binary64 → String
  | .nan => ".nan"
  | .infinite s => if s then "-.inf" else ".inf"
  | x =>
    let text := x.text.toList
    if text.contains 'e' && !text.contains '.' then
      String.ofList (text.takeWhile (· ≠ 'e') ++ ['.', '0'] ++ text.dropWhile (· ≠ 'e'))
    else x.text

/-- A value without parts. -/
def renderScalar : Value → String
  | .null | .endless => "null"
  | .bool b => if b then "true" else "false"
  | .int i => toString i
  | .float x => renderFloat x
  | v => renderText v.display

/-! ## Collections -/

/-- The longest text of a key that is written without a question mark. -/
def longestKey : Nat := 1000

/-- A key with its sign, up to where its value goes. -/
def renderKey (indent : String) (k : Value) : String :=
  let text := renderScalar k
  if text.length ≤ longestKey then text ++ ":" else "? " ++ text ++ "\n" ++ indent ++ ":"

mutual

/-- The text of a value behind a colon or hyphen whose line is `indent` deep: on the same line for a
scalar or an empty collection, on the lines below otherwise. -/
def renderBelow (indent : String) : Value → String
  | .list [] | .tuple [] | .set [] => " []\n"
  | .map [] => " \x7b\x7d\n"
  | .list items | .tuple items | .set items => "\n" ++ renderItems (indent ++ "  ") items
  | .map entries => "\n" ++ renderEntries (indent ++ "  ") entries
  | v => " " ++ renderScalar v ++ "\n"

/-- The lines of items. -/
def renderItems (indent : String) : List Value → String
  | [] => ""
  | v :: rest => indent ++ "-" ++ renderBelow indent v ++ renderItems indent rest

/-- The lines of entries. -/
def renderEntries (indent : String) : List (Value × Value) → String
  | [] => ""
  | (k, v) :: rest =>
    indent ++ renderKey indent k ++ renderBelow indent v ++ renderEntries indent rest

end

/-- The lines of one document. -/
def renderDocument : Value → String
  | .map (e :: es) => renderEntries "" (e :: es)
  | .list (v :: vs) => renderItems "" (v :: vs)
  | .list [] => "[]\n"
  | .map [] => "\x7b\x7d\n"
  | v => renderScalar v ++ "\n"

/-- The text of documents, with a mark between them. -/
def render (documents : List Value) : String :=
  "---\n".intercalate (documents.map renderDocument)

end Yaml
end Patchwork
