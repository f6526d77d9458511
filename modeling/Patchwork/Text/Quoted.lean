import Patchwork.Text
import Patchwork.Text.Printable

/-!
# Quoted text

A text or byte string is shown between quotes, on one line, with every character that would not
print replaced by an escape.

* `Text.quoted` writes a text; `Text.quotedBytes` writes bytes, after a `b`.
* Single quotes are used unless the content holds a single quote and no double quote.
* The quote in use and the backslash are escaped by a backslash, line feed, carriage return and
  tab by their letters, and other unprintable characters by their code in hexadecimal.
-/

set_option autoImplicit false

namespace Patchwork
namespace Text

/-- The single quote. -/
def singleQuote : Char := '\x27'

/-- The double quote. -/
def doubleQuote : Char := '\x22'

/-- The quote that surrounds the given content. -/
def quoteFor (content : List CodePoint) : Char :=
  if content.contains (.char singleQuote) && !content.contains (.char doubleQuote) then doubleQuote
  else singleQuote

/-- The number in hexadecimal, lower case, in at least `width` digits. -/
def hex (width n : Nat) : List Char :=
  let digits := Nat.toDigits 16 n
  List.replicate (width - digits.length) '0' ++ digits

/-- The escape of a code point by its number: two, four or eight digits as it needs. -/
def codeEscape (n : Nat) : List Char :=
  if n < 0x100 then '\\' :: 'x' :: hex 2 n
  else if n < 0x10000 then '\\' :: 'u' :: hex 4 n
  else '\\' :: 'U' :: hex 8 n

/-- A character as it stands between quotes `quote`; `shown` says which print as themselves. -/
def escapeChar (quote : Char) (shown : Char → Bool) (c : Char) : List Char :=
  if c = quote || c = '\\' then ['\\', c]
  else if c = '\n' then ['\\', 'n']
  else if c = '\r' then ['\\', 'r']
  else if c = '\t' then ['\\', 't']
  else if shown c then [c]
  else codeEscape c.toNat

/-- A code point as it stands between quotes; a surrogate is always escaped. -/
def escapePoint (quote : Char) (shown : Char → Bool) : CodePoint → List Char
  | .char c => escapeChar quote shown c
  | .surrogate n => codeEscape (CodePoint.surrogate n).toNat

/-- The content between quotes. -/
def quotedPoints (shown : Char → Bool) (content : List CodePoint) : List Char :=
  let quote := quoteFor content
  quote :: content.flatMap (escapePoint quote shown) ++ [quote]

/-- A text between quotes. -/
def quoted (t : Text) : String := String.ofList (quotedPoints isPrintable t.toList)

/-- The character is printable ASCII. -/
def isPrintableAscii (c : Char) : Bool := 0x20 ≤ c.toNat && c.toNat ≤ 0x7E

/-- Bytes between quotes; bytes outside printable ASCII are escaped. -/
def quotedBytes (bytes : List UInt8) : String :=
  String.ofList
    ('b' :: quotedPoints isPrintableAscii (bytes.map fun b => .char (Char.ofNat b.toNat)))

end Text
end Patchwork
