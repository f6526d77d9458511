import Patchwork.Value
import Patchwork.Yaml.Implicit

/-!
# Values of YAML scalars

`Yaml.scalarValue` gives the value that a text has under a tag.

* Truth values and numbers are read from the text as it is declared; it need not have the form in
  which an untagged text would be taken for one.
* Bytes are written in base 64.
* A timestamp is a day, or a moment with or without an offset.
-/

set_option autoImplicit false

namespace Patchwork
namespace Yaml

/-- The value of a base-64 digit. -/
def sextet? (c : Char) : Option Nat :=
  if 'A' ≤ c && c ≤ 'Z' then some (c.toNat - 65)
  else if 'a' ≤ c && c ≤ 'z' then some (c.toNat - 71)
  else if c.isDigit then some (c.toNat + 4)
  else if c = '+' then some 62
  else if c = '/' then some 63
  else none

/-- The bytes of base-64 text.  `digits` counts the digits since the last whole group of four,
`left` holds the bits not yet used, and `pads` counts the padding signs behind the last digit.
Padding that completes a group ends the text, other characters are skipped, and an incomplete
group at the end is refused. -/
def base64 (digits left pads : Nat) : List Char → Option (List UInt8)
  | [] => if digits = 0 then some [] else none
  | c :: rest =>
    if c = '=' then
      if 2 ≤ digits && 4 ≤ digits + pads + 1 then some []
      else base64 digits left (if 2 ≤ digits then pads + 1 else pads) rest
    else match sextet? c with
      | none => base64 digits left pads rest
      | some d =>
        match digits with
        | 0 => base64 1 d 0 rest
        | 1 => (UInt8.ofNat (left * 4 + d / 16) :: ·) <$> base64 2 (d % 16) 0 rest
        | 2 => (UInt8.ofNat (left * 16 + d / 4) :: ·) <$> base64 3 (d % 4) 0 rest
        | _ => (UInt8.ofNat (left * 64 + d) :: ·) <$> base64 0 0 0 rest

/-- The bytes of a scalar in base 64. -/
def binaryOf (text : List Char) : Except ReadError Value :=
  if text.all fun c => c.toNat < 0x80 then
    match base64 0 0 0 text with
    | some bytes => .ok (.bytes bytes)
    | none => .error .invalid
  else .error .invalid

/-- The truth value that a text spells, in any case. -/
def truthOf (text : String) : Except ReadError Value :=
  match truthWords.lookup text.toLower with
  | some b => .ok (.bool b)
  | none => .error (.scalar .notATruthValue)

/-- The day with its parts checked. -/
def dateOf (year month day : Nat) : Except ReadError Date :=
  let date : Date := ⟨year, month, day⟩
  if date.exists? then .ok date else .error (.scalar .outOfCalendar)

/-- The groups of digits in a text. -/
def digitGroups (text : List Char) : List Nat :=
  let parts := splitAt ' ' (text.map fun c => if c.isDigit then c else ' ')
  parts.filterMap (digitsValue? 10)

/-- The microseconds of a fraction of a second. -/
def microseconds (text : List Char) : Nat :=
  let digits := ((text.dropWhile (· ≠ '.')).drop 1).takeWhile Char.isDigit
  (digitsValue? 10 ((digits ++ List.replicate 6 '0').take 6)).getD 0

/-- The offset of the zone at the end of a timestamp, in minutes. -/
def zoneOffset (text : List Char) : Option Int :=
  let zone := (((text.drop 10).dropWhile fun c => c ≠ 'Z' && c ≠ '+' && c ≠ '-'))
  match zone with
  | 'Z' :: _ => some 0
  | sign :: rest =>
    match digitGroups rest with
    | hours :: minutes =>
      let total := Int.ofNat (60 * hours + minutes.headD 0)
      some (if sign = '-' then -total else total)
    | [] => none
  | [] => none

/-- The day or moment that a timestamp names. -/
def timestampOf (text : List Char) : Except ReadError Value :=
  match digitGroups text with
  | year :: month :: day :: time => do
    if (afterDate? 1 text) = some [] then
      return .date (← dateOf year month day)
    else if !isMoment text then throw (.scalar .notATimestamp)
    else
      let date ← dateOf year month day
      match time with
      | hour :: minute :: second :: _ =>
        let offset := zoneOffset text
        if hour < 24 && minute < 60 && second < 60 && (offset.getD 0).natAbs < 24 * 60 then
          return .datetime ⟨date, hour, minute, second, microseconds text, offset⟩
        else throw (.scalar .outOfCalendar)
      | _ => throw (.scalar .notATimestamp)
  | _ => .error (.scalar .notATimestamp)

/-- What is wrong with a text with a surrogate under a tag that wants one of some form. -/
def malformedAs : Tag → ReadError
  | .bool => .scalar .notATruthValue
  | .int | .float => .scalar .notANumber
  | .timestamp => .scalar .notATimestamp
  | _ => .invalid

/-- The value of a scalar with a tag. -/
def scalarValue (tag : Tag) (text : Text) : Except ReadError Value :=
  match tag, text with
  | .null, _ => .ok .null
  | .str, _ => .ok (.str text)
  | .bool, .string s => truthOf s
  | .int, .string s => (integerOf s.toList).map .int |>.mapError .scalar
  | .float, .string s => (floatOf s.toList).map .float |>.mapError .scalar
  | .binary, .string s => binaryOf s.toList
  | .timestamp, .string s => timestampOf (withoutLineEnd s.toList)
  | tag, .illFormed _ _ => .error (malformedAs tag)
  | _, .string _ => .error .invalid

end Yaml
end Patchwork
