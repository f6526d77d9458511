import Patchwork.Value
import Patchwork.Text.Quoted
import Patchwork.Binary64.Decimal

/-!
# Values in messages

* `Value.literal` shows a value so that its kind can be told: texts are quoted, containers have
  their brackets.
* `Value.display` shows a text as it stands, a day as `2024-01-01`, and all else as a literal.
* `Value.abridged` is the display of a value that may be nested without end.
-/

set_option autoImplicit false

namespace Patchwork

/-- The number in at least `width` decimal digits. -/
def Text.padded (width n : Nat) : String :=
  let digits := Nat.toDigits 10 n
  String.ofList (List.replicate (width - digits.length) '0' ++ digits)

namespace Date

/-- The day as `year-month-day`. -/
def text (d : Date) : String :=
  Text.padded 4 d.year ++ "-" ++ Text.padded 2 d.month ++ "-" ++ Text.padded 2 d.day

/-- The parts of the day, separated by commas. -/
def parts (d : Date) : List Nat := [d.year, d.month, d.day]

end Date

namespace DateTime

/-- An offset as signed hours and minutes. -/
def offsetText (minutes : Int) : String :=
  (if minutes < 0 then "-" else "+") ++ Text.padded 2 (minutes.natAbs / 60) ++ ":"
    ++ Text.padded 2 (minutes.natAbs % 60)

/-- The time of day, with a fraction and an offset when it has them. -/
def clock (t : DateTime) : String :=
  Text.padded 2 t.hour ++ ":" ++ Text.padded 2 t.minute ++ ":" ++ Text.padded 2 t.second
    ++ (if t.microsecond = 0 then "" else "." ++ Text.padded 6 t.microsecond)
    ++ (t.offset.map offsetText).getD ""

/-- A zone by its offset; a negative one is counted forward from the day before. -/
def zoneText (minutes : Int) : String :=
  if minutes = 0 then "datetime.timezone.utc"
  else
    let days := if minutes < 0 then "days=-1, " else ""
    let seconds := 60 * (minutes % (24 * 60))
    "datetime.timezone(datetime.timedelta(" ++ days ++ "seconds=" ++ toString seconds ++ "))"

/-- The parts of the moment; seconds and their fraction are left out when they are zero. -/
def parts (t : DateTime) : List String :=
  ((t.date.parts ++ [t.hour, t.minute]
    ++ (if t.microsecond ≠ 0 then [t.second, t.microsecond]
      else if t.second ≠ 0 then [t.second] else [])).map toString)
    ++ (t.offset.map fun minutes => "tzinfo=" ++ zoneText minutes).toList

end DateTime

namespace Value

/-- Texts with a comma and a space between them. -/
def commaSeparated (parts : List String) : String := ", ".intercalate parts

mutual

/-- The value with its kind visible. -/
def literal : Value → String
  | .null => "None"
  | .bool b => if b then "True" else "False"
  | .int i => toString i
  | .float x => x.text
  | .str s => Text.quoted s
  | .list xs => "[" ++ commaSeparated (literals xs) ++ "]"
  | .tuple xs =>
    match literals xs with
    | [one] => "(" ++ one ++ ",)"
    | parts => "(" ++ commaSeparated parts ++ ")"
  | .map es => "\x7b" ++ commaSeparated (entryLiterals es) ++ "\x7d"
  | .date d => "datetime.date(" ++ commaSeparated (d.parts.map toString) ++ ")"
  | .datetime t => "datetime.datetime(" ++ commaSeparated t.parts ++ ")"
  | .bytes bs => Text.quotedBytes bs
  | .set xs =>
    match literals xs with
    | [] => "set()"
    | parts => "\x7b" ++ commaSeparated parts ++ "\x7d"
  | .endless => "..."

/-- The literals of all items. -/
def literals : List Value → List String
  | [] => []
  | x :: xs => literal x :: literals xs

/-- The entries of a map as `key: value`. -/
def entryLiterals : List (Value × Value) → List String
  | [] => []
  | (k, v) :: es => (literal k ++ ": " ++ literal v) :: entryLiterals es

end

/-- The value as plain text. -/
def display : Value → Text
  | .str s => s
  | .date d => d.text
  | .datetime t => .string (t.date.text ++ " " ++ t.clock)
  | v => v.literal

/-- The value as plain text, empty when the value counts as unset. -/
def displayIfSet (v : Value) : Text := if v.truthy then v.display else ""

/-- The value, with dots for what stands between the brackets of a container that is nested without
end. -/
def outline : Value → Value
  | .list items => if anyHolds isEndless items then .list [.endless] else .list items
  | .map entries => if anyEntryHolds isEndless entries then .set [.endless] else .map entries
  | v => v

/-- The value as plain text.  Of a container that is nested without end, one level is shown. -/
def abridged : Value → Text
  | .list items => (Value.list (items.map outline)).display
  | .map entries => (Value.map (entries.map fun entry => (entry.1, entry.2.outline))).display
  | v => v.display

end Value
end Patchwork
