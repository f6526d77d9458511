import Patchwork.Binary64
import Patchwork.Limit
import Patchwork.Text.Digit
import Patchwork.Yaml.Error

/-!
# Numbers in YAML scalars

The forms of numbers and moments that a plain scalar can have, and the values that they write.

* `Yaml.isInteger`, `Yaml.isFloat` and `Yaml.isTimestamp` recognise the forms.
* `Yaml.integerOf` and `Yaml.floatOf` give the value of a text that was declared to be a number; it
  need not have one of the forms, and where it has no value at all the answer is a
  `ScalarError`.
-/

set_option autoImplicit false

namespace Patchwork
namespace Yaml

/-! ## Forms -/

/-- The text without a sign in front. -/
def unsigned : List Char → List Char
  | '+' :: rest => rest
  | '-' :: rest => rest
  | text => text

/-- All characters are in `p`, and there is one. -/
def allOf (p : Char → Bool) (text : List Char) : Bool := !text.isEmpty && text.all p

/-- A decimal digit or an underscore. -/
def isDigitOrBlank (c : Char) : Bool := c.isDigit || c = '_'

/-- A hexadecimal digit. -/
def isHexDigit (c : Char) : Bool := c.isDigit || ('a' ≤ c && c ≤ 'f') || ('A' ≤ c && c ≤ 'F')

/-- The parts of a text between separators. -/
def splitAt (separator : Char) : List Char → List (List Char)
  | [] => [[]]
  | c :: rest =>
    if c = separator then [] :: splitAt separator rest
    else match splitAt separator rest with
      | part :: parts => (c :: part) :: parts
      | [] => [[c]]

/-- A number below sixty: one digit, or two of which the first is at most five. -/
def isSexagesimal : List Char → Bool
  | [d] => d.isDigit
  | [t, d] => '0' ≤ t && t ≤ '5' && d.isDigit
  | _ => false

/-- An integer without its sign: in base two, eight, ten or sixteen, or in base sixty with colons.
A leading zero announces base eight. -/
def isUnsignedInteger : List Char → Bool
  | '0' :: 'b' :: digits => allOf (fun c => c = '0' || c = '1' || c = '_') digits
  | '0' :: 'x' :: digits => allOf (fun c => isHexDigit c || c = '_') digits
  | ['0'] => true
  | '0' :: digits => digits.all fun c => ('0' ≤ c && c ≤ '7') || c = '_'
  | first :: rest =>
    first.isDigit &&
      match splitAt ':' rest with
      | digits :: groups => digits.all isDigitOrBlank && groups.all isSexagesimal
      | [] => false
  | [] => false

/-- The form of an integer. -/
def isInteger (text : List Char) : Bool := isUnsignedInteger (unsigned text)

/-- Nothing, or an exponent: its letter, a sign that must be there, and digits. -/
def isExponent : List Char → Bool
  | [] => true
  | e :: sign :: digits =>
    (e = 'e' || e = 'E') && (sign = '+' || sign = '-') && allOf Char.isDigit digits
  | _ => false

/-- Digits and an exponent behind a decimal point. -/
def isFraction (text : List Char) : Bool := isExponent (text.dropWhile isDigitOrBlank)

/-- The form of a number with a decimal point: with digits before it, or with digits behind it and
no sign, or in base sixty with colons; or infinity, or not a number. -/
def isFloat (text : List Char) : Bool :=
  let body := unsigned text
  let whole := body.takeWhile fun c => isDigitOrBlank c || c = ':'
  let rest := body.dropWhile fun c => isDigitOrBlank c || c = ':'
  match body, rest with
  | first :: _, '.' :: fraction =>
    if first.isDigit then
      match splitAt ':' whole with
      | [_] => isFraction fraction
      | digits :: groups =>
        digits.all isDigitOrBlank && groups.all isSexagesimal && fraction.all isDigitOrBlank
      | [] => false
    else if first = '.' then
      let name := String.ofList fraction
      ["inf", "Inf", "INF"].contains name ||
        (text = body && (["nan", "NaN", "NAN"].contains name ||
          (fraction.head?.any Char.isDigit && isFraction fraction)))
    else false
  | _, _ => false

/-- The text begins with between `least` and `most` digits, taken greedily; what follows them. -/
def afterDigits? (least most : Nat) (text : List Char) : Option (List Char) :=
  let digits := (text.take most).takeWhile Char.isDigit
  if digits.length < least then none else some (text.drop digits.length)

/-- What follows a character that must come next. -/
def after? (c : Char) : List Char → Option (List Char)
  | d :: rest => if d = c then some rest else none
  | [] => none

/-- Nothing, or a time zone: `Z`, or a signed offset in hours and perhaps minutes. -/
def isZone : List Char → Bool
  | [] => true
  | ['Z'] => true
  | sign :: rest =>
    (sign = '+' || sign = '-') &&
      match afterDigits? 1 2 rest with
      | some [] => true
      | some tail => ((after? ':' tail).bind (afterDigits? 2 2)) = some []
      | none => false

/-- A space or a tab. -/
def isGap (c : Char) : Bool := c = ' ' || c = '\t'

/-- What follows the letter or the blanks between a day and a time. -/
def afterDay? : List Char → Option (List Char)
  | 'T' :: rest | 't' :: rest => some rest
  | text => if text.head?.any isGap then some (text.dropWhile isGap) else none

/-- What follows the hour, minute and second of a time. -/
def afterTime? (text : List Char) : Option (List Char) := do
  let rest ← afterDigits? 1 2 text
  let rest ← afterDigits? 2 2 (← after? ':' rest)
  afterDigits? 2 2 (← after? ':' rest)

/-- What follows the fraction of a second, if there is one. -/
def afterFraction : List Char → List Char
  | '.' :: rest => rest.dropWhile Char.isDigit
  | rest => rest

/-- What follows a year, a month and a day, each of the two with at least `least` digits. -/
def afterDate? (least : Nat) (text : List Char) : Option (List Char) := do
  let rest ← afterDigits? 4 4 text
  let rest ← afterDigits? least 2 (← after? '-' rest)
  afterDigits? least 2 (← after? '-' rest)

/-- The form of a day. -/
def isDay (text : List Char) : Bool := afterDate? 2 text = some []

/-- The form of a day and a time. -/
def isMoment (text : List Char) : Bool :=
  match ((afterDate? 1 text).bind afterDay?).bind afterTime? with
  | some rest =>
    let rest := afterFraction rest
    isZone (rest.dropWhile isGap)
      && (rest.isEmpty || !(rest.dropWhile isGap).isEmpty)
  | none => false

/-- The form of a day, or of a day and a time with any fraction and zone. -/
def isTimestamp (text : List Char) : Bool := isDay text || isMoment text

/-! ## Values -/

/-- The number that digits write in a base. -/
def digitsValue? (base : Nat) (digits : List Char) : Option Nat :=
  if digits.isEmpty then none
  else digits.foldlM (fun n c =>
    let d := if c.isDigit then c.toNat - 48
      else if 'a' ≤ c && c ≤ 'z' then c.toNat - 87
      else if 'A' ≤ c && c ≤ 'Z' then c.toNat - 55
      else base
    if d < base then some (base * n + d) else none) 0

/-- The character is a space or moves the place of writing. -/
def isSkipped (c : Char) : Bool :=
  let code := c.toNat
  code = 0x20 || (0x09 ≤ code && code ≤ 0x0D)

/-- The text in ASCII, without spaces around it. -/
def plainDigits? (text : List Char) : Option (List Char) := do
  let text ← Text.inAscii? text
  return ((text.dropWhile isSkipped).reverse.dropWhile isSkipped).reverse

/-- The text without the letter that announces a base. -/
def withoutBaseMark (base : Nat) : List Char → List Char
  | '0' :: mark :: rest =>
    let marks := if base = 2 then ['b', 'B'] else if base = 8 then ['o', 'O']
      else if base = 16 then ['x', 'X'] else []
    if marks.contains mark then rest else '0' :: mark :: rest
  | text => text

/-- The digits of decimal numbers are limited; in bases two, eight and sixteen they are not. -/
def tooLong (base : Nat) (digits : List Char) : Bool :=
  base = 10 && Limit.maxDigits < digits.length

/-- The integer that a text writes in a base, with a sign and spaces around it allowed.  The digits
may be those of any script. -/
def wholeOf (base : Nat) (text : List Char) : Except ScalarError Int :=
  match plainDigits? text with
  | none => .error .notANumber
  | some text =>
    let digits := withoutBaseMark base (unsigned text)
    match digitsValue? base digits with
    | none => .error .notANumber
    | some n =>
      if tooLong base digits then .error .tooManyDigits
      else .ok (if text.head? = some '-' then -Int.ofNat n else Int.ofNat n)

/-- The sum of parts in base sixty, the last part being the units. -/
def sexagesimalInt (parts : List Int) : Int := parts.foldl (fun n p => 60 * n + p) 0

/-- The text without underscores. -/
def withoutUnderscores (text : List Char) : List Char := text.filter (· ≠ '_')

/-- The integer that a scalar writes. -/
def integerOf (text : List Char) : Except ScalarError Int :=
  let text := withoutUnderscores text
  if text.isEmpty then .error .noText
  else
    let sign : Int := if text.head? = some '-' then -1 else 1
    (sign * ·) <$> match unsigned text with
      | [] => .error .noText
      | ['0'] => .ok 0
      | '0' :: 'b' :: digits => wholeOf 2 digits
      | '0' :: 'x' :: digits => wholeOf 16 digits
      | '0' :: digits => wholeOf 8 ('0' :: digits)
      | body =>
        if body.contains ':' then sexagesimalInt <$> (splitAt ':' body).mapM (wholeOf 10)
        else wholeOf 10 body

/-- The number that decimal text in ASCII writes, with a sign allowed. -/
def plainDecimal? (text : List Char) : Option Binary64 :=
  let negative := text.head? = some '-'
  let body := unsigned text
  let name := String.ofList body
  if name = "inf" || name = "infinity" then some (.infinite negative)
  else if name = "nan" then some .nan
  else do
    let whole := body.takeWhile Char.isDigit
    let rest := body.dropWhile Char.isDigit
    let (fraction, rest) := match rest with
      | '.' :: more => (more.takeWhile Char.isDigit, more.dropWhile Char.isDigit)
      | other => ([], other)
    let exponent ← match rest with
      | [] => some (0 : Int)
      | 'e' :: digits =>
        (digitsValue? 10 (unsigned digits)).map fun n =>
          if digits.head? = some '-' then -Int.ofNat n else Int.ofNat n
      | _ => none
    let n ← digitsValue? 10 (whole ++ fraction)
    return .ofDecimal negative n (exponent - Int.ofNat fraction.length)

/-- The number that decimal text writes, with a sign and spaces around it allowed.  The digits may
be those of any script. -/
def decimalOf (text : List Char) : Except ScalarError Binary64 :=
  match (plainDigits? text).bind plainDecimal? with
  | some x => .ok x
  | none => .error .notANumber

/-- The sum of parts in base sixty, the units being the first part, whose weight is `weight`;
rounded at each step.  A weight that is too large for a number with a decimal point ends it. -/
def sexagesimalFloat (sum : Binary64) (weight : Int) :
    List Binary64 → Except ScalarError Binary64
  | [] => .ok sum
  | part :: parts =>
    match Binary64.ofInt weight with
    | .infinite _ => .error .tooLarge
    | factor => sexagesimalFloat (sum.add (part.mul factor)) (60 * weight) parts

/-- The spelling of what is not a number, among the texts of numbers with a decimal point. -/
def spellsNan (text : List Char) : Bool :=
  unsigned ((withoutUnderscores text).map Char.toLower) = ".nan".toList

/-- The number with a decimal point that a scalar writes. -/
def floatOf (text : List Char) : Except ScalarError Binary64 :=
  let text := (withoutUnderscores text).map Char.toLower
  if text.isEmpty then .error .noText
  else
    let body := unsigned text
    let signed (x : Binary64) : Binary64 := if text.head? = some '-' then x.neg else x
    if body = ".inf".toList then .ok (signed (.infinite false))
    else if spellsNan text then .ok .nan
    else if body.contains ':' then do
      let parts ← (splitAt ':' body).mapM decimalOf
      signed <$> sexagesimalFloat (.zero false) 1 parts.reverse
    else signed <$> decimalOf body

end Yaml
end Patchwork
