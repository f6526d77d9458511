/-!
# Digits and spaces of all scripts

* `Text.digit?` is the value of a decimal digit of any script, `Text.isSpace` says which characters
  are spaces or separate lines or units.
* `Text.inAscii?` writes a text with the digits and spaces of ASCII.
-/

set_option autoImplicit false

namespace Patchwork
namespace Text

/-- The zeros of the scripts that have decimal digits; the other nine digits follow each of
them. -/
def zeros : List Nat :=
  [0x0030, 0x0660, 0x06F0, 0x07C0, 0x0966, 0x09E6, 0x0A66, 0x0AE6, 0x0B66, 0x0BE6, 0x0C66, 0x0CE6,
    0x0D66, 0x0DE6, 0x0E50, 0x0ED0, 0x0F20, 0x1040, 0x1090, 0x17E0, 0x1810, 0x1946, 0x19D0,
    0x1A80, 0x1A90, 0x1B50, 0x1BB0, 0x1C40, 0x1C50, 0xA620, 0xA8D0, 0xA900, 0xA9D0, 0xA9F0,
    0xAA50, 0xABF0, 0xFF10, 0x104A0, 0x10D30, 0x11066, 0x110F0, 0x11136, 0x111D0, 0x112F0,
    0x11450, 0x114D0, 0x11650, 0x116C0, 0x11730, 0x118E0, 0x11950, 0x11C50, 0x11D50, 0x11DA0,
    0x16A60, 0x16AC0, 0x16B50, 0x1D7CE, 0x1D7D8, 0x1D7E2, 0x1D7EC, 0x1D7F6, 0x1E140, 0x1E2F0,
    0x1E950, 0x1FBF0]

/-- The value of a decimal digit. -/
def digit? (c : Char) : Option Nat :=
  (zeros.find? fun first => first ≤ c.toNat && c.toNat < first + 10).map fun first =>
    c.toNat - first

/-- The character is a space of any width, or separates lines or units. -/
def isSpace (c : Char) : Bool :=
  let code := c.toNat
  (0x09 ≤ code && code ≤ 0x0D) || (0x1C ≤ code && code ≤ 0x20) || (0x2000 ≤ code && code ≤ 0x200A)
    || [0x85, 0xA0, 0x1680, 0x2028, 0x2029, 0x202F, 0x205F, 0x3000].contains code

/-- The character is in ASCII. -/
def isAscii (c : Char) : Bool := c.toNat < 0x80

/-- The character itself if it is in ASCII, and else the digit or the space of ASCII that it
stands for. -/
def charInAscii? (c : Char) : Option Char :=
  if isAscii c then some c
  else if isSpace c then some ' '
  else (digit? c).map fun d => Char.ofNat (48 + d)

/-- The text with the digits and spaces of ASCII, if all else in it is in ASCII. -/
def inAscii? (text : List Char) : Option (List Char) := text.mapM charInAscii?

end Text
end Patchwork
