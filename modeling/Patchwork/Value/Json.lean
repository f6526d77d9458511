import Patchwork.Value.Literal

/-!
# JSON

`Value.isJson` says which values JSON can hold.  `Value.json` writes a document as JSON over several
lines, two spaces deeper for each level, with all characters outside printable ASCII escaped.
-/

set_option autoImplicit false

namespace Patchwork
namespace Value

mutual

/-- JSON can hold the value: it is made of scalars, arrays, and maps whose keys are texts. -/
def isJson : Value → Bool
  | .null | .bool _ | .int _ | .float _ | .str _ => true
  | .list items => allJson items
  | .map entries => entriesJson entries
  | _ => false

/-- JSON can hold all items. -/
def allJson : List Value → Bool
  | [] => true
  | v :: rest => isJson v && allJson rest

/-- JSON can hold all entries. -/
def entriesJson : List (Value × Value) → Bool
  | [] => true
  | (.str _, v) :: rest => isJson v && entriesJson rest
  | _ :: _ => false

end

/-! ## JSON text -/

/-- The escape of a code unit of UTF-16. -/
def jsonUnit (n : Nat) : List Char := '\\' :: 'u' :: Text.hex 4 n

/-- A character as it stands in a JSON text. -/
def jsonChar (c : Char) : List Char :=
  if c = '\x22' then ['\\', '\x22']
  else if c = '\\' then ['\\', '\\']
  else if c = '\n' then ['\\', 'n']
  else if c = '\r' then ['\\', 'r']
  else if c = '\t' then ['\\', 't']
  else if c = '\u0008' then ['\\', 'b']
  else if c = '\u000c' then ['\\', 'f']
  else if Text.isPrintableAscii c then [c]
  else if c.toNat < 0x10000 then jsonUnit c.toNat
  else
    let n := c.toNat - 0x10000
    jsonUnit (0xD800 + n / 0x400) ++ jsonUnit (0xDC00 + n % 0x400)

/-- A code point as it stands in a JSON text. -/
def jsonPoint : CodePoint → List Char
  | .char c => jsonChar c
  | .surrogate n => jsonUnit (CodePoint.surrogate n).toNat

/-- A JSON text. -/
def jsonText (t : Text) : String :=
  String.ofList ('\x22' :: t.toList.flatMap jsonPoint ++ ['\x22'])

/-- The lines between brackets, one level deeper than the brackets. -/
def jsonBlock (opening closing indent : String) (lines : List String) : String :=
  if lines.isEmpty then opening ++ closing
  else
    let inner := indent ++ "  "
    opening ++ "\n" ++ ",\n".intercalate (lines.map (inner ++ ·)) ++ "\n" ++ indent ++ closing

/-- A number that is written as it is in JSON, or by name. -/
def jsonFloat : Binary64 → String
  | .nan => "NaN"
  | .infinite s => if s then "-Infinity" else "Infinity"
  | x => x.text

mutual

/-- The JSON of a value that starts `indent` deep. -/
def jsonAt (indent : String) : Value → String
  | .null | .endless => "null"
  | .bool b => if b then "true" else "false"
  | .int i => toString i
  | .float x => jsonFloat x
  | .str s => jsonText s
  | .list items | .tuple items | .set items =>
    jsonBlock "[" "]" indent (jsonItems (indent ++ "  ") items)
  | .map entries => jsonBlock "\x7b" "\x7d" indent (jsonEntries (indent ++ "  ") entries)
  | .date d => jsonText d.text
  | .datetime t => jsonText (.string (t.date.text ++ "T" ++ t.clock))
  | .bytes bs => jsonText (Text.quotedBytes bs)

/-- The JSON of items. -/
def jsonItems (indent : String) : List Value → List String
  | [] => []
  | v :: rest => jsonAt indent v :: jsonItems indent rest

/-- The JSON of entries. -/
def jsonEntries (indent : String) : List (Value × Value) → List String
  | [] => []
  | (k, v) :: rest => (jsonText k.display ++ ": " ++ jsonAt indent v) :: jsonEntries indent rest

end

/-- The JSON of a document. -/
def json (v : Value) : String := v.jsonAt ""

end Value
end Patchwork
