/-!
# Doubles

A binary floating-point number of 64 bits, kept as its bits (`Double`) and read as one of three
shapes (`Double.shape`): not a number, an infinity, or a sign with a mantissa and an exponent of
two. `Double.nearest` rounds a quotient of natural numbers to the nearest double and
`Double.ofDecimal` a decimal number; a value half way between two doubles goes to the one with
the even mantissa.
-/

namespace ContextSlice

/-- A floating-point number of 64 bits. -/
structure Double where
  bits : UInt64
  deriving DecidableEq, Repr, Inhabited

namespace Double

/-- What the bits of a double stand for: a finite one is `mantissa · 2 ^ exponent` with its
sign. -/
inductive Shape where
  | nan
  | infinite (negative : Bool)
  | finite (negative : Bool) (mantissa : Nat) (exponent : Int)
  deriving DecidableEq, Repr

/-- The least exponent of a finite double. -/
def minExponent : Int := -1074

/-- The bits of positive infinity; every smaller number is the bits of a finite double. -/
def infinityBits : Nat := 0x7FF0000000000000

/-- The shape of a double. -/
def shape (x : Double) : Shape :=
  let n := x.bits.toNat
  let negative := Nat.pow 2 63 ≤ n
  let power : Nat := n / Nat.pow 2 52 % Nat.pow 2 11
  let fraction := n % Nat.pow 2 52
  if power = 2047 then
    if fraction = 0 then .infinite negative else .nan
  else if power = 0 then .finite negative fraction minExponent
  else .finite negative (fraction + Nat.pow 2 52) ((power : Int) - 1075)

/-- The double of the given sign whose remaining bits are `n`, at most infinity. -/
def ofMagnitude (negative : Bool) (n : Nat) : Double :=
  ⟨.ofNat ((if negative then Nat.pow 2 63 else 0) + min n infinityBits)⟩

/-- Zero with a sign. -/
def zero (negative : Bool) : Double := ofMagnitude negative 0

/-- Infinity with a sign. -/
def infinity (negative : Bool) : Double := ofMagnitude negative infinityBits

/-- The value that is no number. -/
def nan : Double := ⟨0x7FF8000000000000⟩

/-- A quotient rounded to the nearest natural number, the even one of two. -/
def roundDiv (num den : Nat) : Nat :=
  let low := num / den
  let rest := 2 * (num % den)
  if den < rest ∨ (rest = den ∧ low % 2 = 1) then low + 1 else low

/-- The quotient `num / (den · 2 ^ e)` as a numerator and a denominator. -/
def scaled (num den : Nat) (e : Int) : Nat × Nat :=
  if 0 ≤ e then (num, den * Nat.pow 2 e.toNat) else (num * Nat.pow 2 (-e).toNat, den)

/-- The exponent at which the quotient of two positive numbers has a mantissa of 53 bits, or the
least exponent if it is greater. -/
def exponentFor (num den : Nat) : Int :=
  let low : Int := (num.log2 : Int) - (den.log2 : Int) - 53
  let (n, d) := scaled num den low
  max minExponent (if Nat.pow 2 53 ≤ n / d then low + 1 else low)

/-- The double nearest to `num / den`. -/
def nearest (negative : Bool) (num den : Nat) : Double :=
  if num = 0 then zero negative
  else
    let e := exponentFor num den
    let (n, d) := scaled num den e
    ofMagnitude negative ((e - minExponent).toNat * Nat.pow 2 52 + roundDiv n d)

/-- The double nearest to `digits · 10 ^ e`. Beyond the range of doubles the outcome is known
from the place of the first digit. -/
def ofDecimal (negative : Bool) (digits : Nat) (e : Int) : Double :=
  if digits = 0 then zero negative
  else
    let place : Int := (Nat.toDigits 10 digits).length + e
    if 310 < place then infinity negative
    else if place < -330 then zero negative
    else if 0 ≤ e then nearest negative (digits * Nat.pow 10 e.toNat) 1
    else nearest negative digits (Nat.pow 10 (-e).toNat)

/-- Whether a double is zero, of either sign. -/
def isZero (x : Double) : Bool :=
  match x.shape with
  | .finite _ 0 _ => true
  | _ => false

/-- The whole number that a double is equal to, if there is one. -/
def toInt? (x : Double) : Option Int :=
  match x.shape with
  | .finite negative m e =>
    let size := if 0 ≤ e then some (m * Nat.pow 2 e.toNat)
      else if m % Nat.pow 2 (-e).toNat = 0 then some (m / Nat.pow 2 (-e).toNat) else none
    size.map fun (n : Nat) => if negative then -(n : Int) else n
  | _ => none

end Double

end ContextSlice
