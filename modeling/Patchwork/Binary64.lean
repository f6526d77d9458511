/-!
# Binary64: floating-point numbers as exact data

A floating-point number is held by its sign, significand and exponent of two, so every reading
and comparison is arithmetic on natural numbers.

* `Binary64.ofRatio` rounds a quotient of natural numbers to the nearest representable number,
  a tie going to the even significand.
* `Binary64.ofDecimal` rounds `digits * 10 ^ exponent` in the same way.
* `Binary64.add` and `Binary64.mul` round the exact sum and product.
* `Binary64.eqInt`, `Binary64.eqFloat` and `Binary64.exceeds` compare by value.
-/

set_option autoImplicit false

namespace Patchwork

/-- A floating-point number.  `finite s m e` stands for `± m * 2 ^ e`, negative when `s`; numbers
built by this module have `m < 2 ^ 53` and `-1074 ≤ e`, with `2 ^ 52 ≤ m` unless `e = -1074`. -/
inductive Binary64 where
  | nan
  | infinite (negative : Bool)
  | finite (negative : Bool) (significand : Nat) (exponent : Int)
  deriving DecidableEq, Repr, Inhabited

namespace Binary64

/-- The least exponent of a finite number. -/
def minExponent : Int := -1074

/-- The greatest exponent of a finite number. -/
def maxExponent : Int := 971

/-- Zero with a sign. -/
def zero (negative : Bool) : Binary64 := .finite negative 0 minExponent

/-- The power `2 ^ n`. -/
def twoPow (n : Nat) : Nat := Nat.pow 2 n

/-- The power `10 ^ n`. -/
def tenPow (n : Nat) : Nat := Nat.pow 10 n

/-- The pair `(p, q)` with `p / q = num / den / 2 ^ e`. -/
def scaleDown (num den : Nat) (e : Int) : Nat × Nat :=
  if 0 ≤ e then (num, den * twoPow e.toNat) else (num * twoPow (-e).toNat, den)

/-- The natural number nearest to `num / den`; of two equally near ones the even one. -/
def roundHalfEven (num den : Nat) : Nat :=
  let q := num / den
  let r := num % den
  if 2 * r < den then q
  else if den < 2 * r then q + 1
  else if q % 2 = 0 then q else q + 1

/-- The exponent at which `num / den` has a significand below `2 ^ 53` and, above the least
exponent, at least `2 ^ 52`. -/
def exponentOf (num den : Nat) : Int :=
  let low := max (Int.ofNat num.log2 - Int.ofNat den.log2 - 53) minExponent
  let (p, q) := scaleDown num den low
  if q * twoPow 53 ≤ p then low + 1 else low

/-- The number nearest to `± num / den`, for a positive `den`; beyond the greatest finite number
it is infinite. -/
def ofRatio (negative : Bool) (num den : Nat) : Binary64 :=
  if num = 0 then zero negative
  else
    let e := exponentOf num den
    let (p, q) := scaleDown num den e
    let m := roundHalfEven p q
    let (m, e) := if m = twoPow 53 then (twoPow 52, e + 1) else (m, e)
    if maxExponent < e then .infinite negative else .finite negative m e

/-- The number of decimal digits of a natural number, at least one. -/
def digitCount (n : Nat) : Nat := (Nat.toDigits 10 n).length

/-- The number nearest to `± digits * 10 ^ exponent`.  Magnitudes far outside the range are
settled by their digit count, without a power of ten. -/
def ofDecimal (negative : Bool) (digits : Nat) (exponent : Int) : Binary64 :=
  if digits = 0 then zero negative
  else
    let top := Int.ofNat (digitCount digits) + exponent
    if 400 < top then .infinite negative
    else if top < -400 then zero negative
    else if 0 ≤ exponent then ofRatio negative (digits * tenPow exponent.toNat) 1
    else ofRatio negative digits (tenPow (-exponent).toNat)

/-- The number nearest to an integer. -/
def ofInt (i : Int) : Binary64 := ofRatio (i < 0) i.natAbs 1

/-- The number nearest to `± num * 2 ^ e`. -/
def ofScaled (negative : Bool) (num : Nat) (e : Int) : Binary64 :=
  if 0 ≤ e then ofRatio negative (num * twoPow e.toNat) 1
  else ofRatio negative num (twoPow (-e).toNat)

/-- The same magnitude with the other sign. -/
def neg : Binary64 → Binary64
  | .nan => .nan
  | .infinite s => .infinite (!s)
  | .finite s m e => .finite (!s) m e

/-- The significand with its sign. -/
def signed (negative : Bool) (m : Nat) : Int := if negative then -Int.ofNat m else Int.ofNat m

/-- The sum, rounded once. -/
def add : Binary64 → Binary64 → Binary64
  | .nan, _ => .nan
  | _, .nan => .nan
  | .infinite s, .infinite t => if s = t then .infinite s else .nan
  | .infinite s, .finite .. => .infinite s
  | .finite .., .infinite t => .infinite t
  | .finite s m e, .finite t n f =>
    let low := min e f
    let sum := signed s (m * twoPow (e - low).toNat) + signed t (n * twoPow (f - low).toNat)
    if sum = 0 then zero (s && t) else ofScaled (sum < 0) sum.natAbs low

/-- The product, rounded once. -/
def mul : Binary64 → Binary64 → Binary64
  | .nan, _ => .nan
  | _, .nan => .nan
  | .infinite s, .infinite t => .infinite (s != t)
  | .infinite s, .finite t m _ => if m = 0 then .nan else .infinite (s != t)
  | .finite s m _, .infinite t => if m = 0 then .nan else .infinite (s != t)
  | .finite s m e, .finite t n f =>
    if m * n = 0 then zero (s != t) else ofScaled (s != t) (m * n) (e + f)

/-- Zero, of either sign. -/
def isZero : Binary64 → Bool
  | .finite _ 0 _ => true
  | _ => false

/-- Equality of values: zero equals itself whatever its sign, and `nan` equals nothing. -/
def eqFloat : Binary64 → Binary64 → Bool
  | .nan, _ => false
  | _, .nan => false
  | x, y => decide (x = y) || (x.isZero && y.isZero)

/-- Equality with an integer, by value and without rounding it. -/
def eqInt : Binary64 → Int → Bool
  | .finite s m e, i =>
    if 0 ≤ e then decide (signed s (m * twoPow e.toNat) = i)
    else decide (signed s m = i * Int.ofNat (twoPow (-e).toNat))
  | _, _ => false

/-- The number is greater than a natural number, by value and without rounding it. -/
def exceeds (n : Nat) : Binary64 → Bool
  | .nan => false
  | .infinite s => !s
  | .finite s m e =>
    !s && (if 0 ≤ e then decide (n < m * twoPow e.toNat)
      else decide (n * twoPow (-e).toNat < m))

end Binary64
end Patchwork
