import Patchwork.Yaml.Node
import Patchwork.Yaml.Number

/-!
# The meaning of plain scalars

A plain scalar without a tag gets the tag of the first rule that fits its text, and is a text if
none does.  So does a scalar of any form whose tag is `!`; its text may end in a line end.

* `ImplicitRule.standard` are the rules of the format.
* `ImplicitRule.manifest` are those that manifests are read with: all but the one for timestamps,
  so a day or a time stays a text.
* `Yaml.tagOf` applies rules to a scalar.
-/

set_option autoImplicit false

namespace Patchwork
namespace Yaml

/-- The tags with a meaning of their own, and all others. -/
inductive Tag where
  | null
  | bool
  | int
  | float
  | binary
  | timestamp
  | str
  | seq
  | map
  | set
  | omap
  | pairs
  | merge
  | value
  | other (address : String)
  deriving DecidableEq, Repr, Inhabited

namespace Tag

/-- The tags with a meaning of their own, by the name behind the address they share. -/
def named : List (String × Tag) :=
  [("null", .null), ("bool", .bool), ("int", .int), ("float", .float), ("binary", .binary),
    ("timestamp", .timestamp), ("str", .str), ("seq", .seq), ("map", .map), ("set", .set),
    ("omap", .omap), ("pairs", .pairs), ("merge", .merge), ("value", .value)]

/-- The tag of an address. -/
def ofAddress (address : String) : Tag :=
  match named.find? fun (name, _) => coreAddress ++ name = address with
  | some (_, tag) => tag
  | none => .other address

end Tag

/-- The tag for the signs of tags, anchors and aliases.  No value has it. -/
def signTag : Tag := .other (coreAddress ++ "yaml")

/-- A rule that gives a tag to the texts of a form. -/
structure ImplicitRule where
  tag : Tag
  fits : List Char → Bool

/-- The spellings of truth values, in lower case and with what they mean. -/
def truthWords : List (String × Bool) :=
  [("yes", true), ("no", false), ("true", true), ("false", false), ("on", true), ("off", false)]

/-- The word with its first letter in upper case. -/
def capitalized (word : String) : String :=
  match word.toList with
  | [] => ""
  | c :: rest => String.ofList (c.toUpper :: rest)

/-- The word in lower case, capitalised, or in upper case. -/
def isSpelling (word text : String) : Bool :=
  text = word || text = capitalized word || text = word.toUpper

/-- The text spells a truth value. -/
def isTruth (text : List Char) : Bool :=
  truthWords.any fun (word, _) => isSpelling word (String.ofList text)

/-- The text spells null, or is empty. -/
def isNull (text : List Char) : Bool :=
  text = [] || text = ['~'] || isSpelling "null" (String.ofList text)

/-- The text is the sign of a tag, an anchor or an alias. -/
def isSign (text : List Char) : Bool := text = ['!'] || text = ['&'] || text = ['*']

/-- The text without a line end behind it, which makes no difference to its form. -/
def withoutLineEnd (text : List Char) : List Char :=
  if text.getLast? = some '\n' && 1 < text.length then text.dropLast else text

namespace ImplicitRule

/-- The rules of the format, in order. -/
def standard : List ImplicitRule :=
  [⟨.bool, isTruth⟩, ⟨.float, isFloat⟩, ⟨.int, isInteger⟩, ⟨.merge, (· = ['<', '<'])⟩,
    ⟨.null, isNull⟩, ⟨.timestamp, isTimestamp⟩, ⟨.value, (· = ['='])⟩, ⟨signTag, isSign⟩]

/-- The rules for manifests: a timestamp is a text. -/
def manifest : List ImplicitRule := standard.filter fun rule => rule.tag ≠ .timestamp

/-- The tag that rules give to a plain text.  No form has room for a surrogate. -/
def apply (rules : List ImplicitRule) : Text → Tag
  | .string text =>
    match rules.find? fun rule => rule.fits (withoutLineEnd text.toList) with
    | some rule => rule.tag
    | none => .str
  | .illFormed _ _ => .str

end ImplicitRule

/-- The tag of a scalar under rules for plain texts. -/
def tagOf (rules : List ImplicitRule) (text : Text) : Mark → Tag
  | .tagged address => .ofAddress address
  | .plain => ImplicitRule.apply rules text
  | .untagged => .str

end Yaml
end Patchwork
