import Patchwork.Binary64

/-!
# Decimal notation of floating-point numbers

`Binary64.shortest` finds the fewest decimal digits that read back as the number, and
`Binary64.text` writes them.  How they are written is one record, `DecimalStyle.standard`:
positional from `10 ^ -4` up to `10 ^ 16` and scientific outside, a point always present in the
positional form, and at least two digits in an exponent.
-/

set_option autoImplicit false

namespace Patchwork
namespace Binary64

/-- The least `p` with `num / den < 10 ^ p`, for positive arguments. -/
def decimalPoint (num den : Nat) : Int :=
  if den ≤ num then Int.ofNat (digitCount (num / den))
  else
    let below := Int.ofNat (digitCount (den / num)) - 1
    if num * tenPow below.toNat = den then 1 - below else -below

/-- The magnitude of a finite number as a quotient. -/
def ratio (m : Nat) (e : Int) : Nat × Nat :=
  if 0 ≤ e then (m * twoPow e.toNat, 1) else (m, twoPow (-e).toNat)

/-- The whole multiples of `10 ^ exponent` on both sides of `num / den`, the nearer one first and
the even one at equal distance. -/
def decimalNeighbours (num den : Nat) (exponent : Int) : List Nat :=
  let (p, q) :=
    if 0 ≤ exponent then (num, den * tenPow exponent.toNat)
    else (num * tenPow (-exponent).toNat, den)
  let low := p / q
  let nearest := roundHalfEven p q
  if nearest = low then [low, low + 1] else [low + 1, low]

/-- The first decimal among those with `count`, `count + 1`, … digits that reads back as
`m * 2 ^ e`; at most `fuel` counts are tried. -/
def searchShortest (m : Nat) (e : Int) : (fuel count : Nat) → Option (Nat × Int)
  | 0, _ => none
  | fuel + 1, count =>
    let (num, den) := ratio m e
    let exponent := decimalPoint num den - Int.ofNat count
    match (decimalNeighbours num den exponent).find? fun d =>
        decide (ofDecimal false d exponent = .finite false m e) with
    | some d => some (d, exponent)
    | none => searchShortest m e fuel (count + 1)

/-- The decimal `(d, x)`, meaning `d * 10 ^ x`, of fewest digits that reads back as `m * 2 ^ e`.
Seventeen digits always suffice. -/
def shortest (m : Nat) (e : Int) : Nat × Int := (searchShortest m e 17 1).getD (m, e)

/-- The choices that turn decimal digits into text. -/
structure DecimalStyle where
  /-- Positional text is used for numbers of at least ten to this power. -/
  positionalFrom : Int
  /-- Positional text is used for numbers below ten to this power. -/
  positionalBelow : Int
  /-- The text for a number that is not one. -/
  nanText : String
  /-- The text for positive infinity. -/
  infinityText : String

/-- Positional from `0.0001` up to and without `10 ^ 16`; `nan` and `inf` in lower case. -/
def DecimalStyle.standard : DecimalStyle := ⟨-4, 16, "nan", "inf"⟩

/-- The digits without the zeros at their end, and how many zeros were dropped. -/
def dropTrailingZeros (digits : List Char) : List Char × Nat :=
  let zeros := (digits.reverse.takeWhile (· = '0')).length
  (digits.take (digits.length - zeros), zeros)

/-- An exponent of ten with its sign and at least two digits. -/
def exponentText (x : Int) : String :=
  let digits := toString x.natAbs
  (if x < 0 then "e-" else "e+") ++ (if x.natAbs < 10 then "0" ++ digits else digits)

/-- The text of `0.d₁d₂… * 10 ^ point` for the given digits. -/
def digitsText (style : DecimalStyle) (digits : List Char) (point : Int) : String :=
  let zeros (n : Int) : List Char := List.replicate n.toNat '0'
  let count := Int.ofNat digits.length
  if point - 1 < style.positionalFrom || style.positionalBelow ≤ point - 1 then
    let mantissa := match digits with
      | [] => []
      | [d] => [d]
      | d :: rest => d :: '.' :: rest
    String.ofList mantissa ++ exponentText (point - 1)
  else if point ≤ 0 then
    String.ofList ('0' :: '.' :: (zeros (-point) ++ digits))
  else if count ≤ point then
    String.ofList (digits ++ zeros (point - count) ++ ['.', '0'])
  else
    String.ofList (digits.take point.toNat ++ '.' :: digits.drop point.toNat)

/-- The text of a number in the given style. -/
def textIn (style : DecimalStyle) : Binary64 → String
  | .nan => style.nanText
  | .infinite s => if s then "-" ++ style.infinityText else style.infinityText
  | .finite s m e =>
    let magnitude :=
      if m = 0 then "0.0"
      else
        let (d, x) := shortest m e
        let (digits, zeros) := dropTrailingZeros (Nat.toDigits 10 d)
        digitsText style digits (Int.ofNat (digits.length + zeros) + x)
    if s then "-" ++ magnitude else magnitude

/-- The text of a number. -/
def text (x : Binary64) : String := x.textIn .standard

end Binary64
end Patchwork
