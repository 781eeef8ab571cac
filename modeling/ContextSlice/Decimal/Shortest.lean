import ContextSlice.Decimal.Double

/-!
# Shortest decimal texts

The fewest decimal digits that read back as a given double, and of those the nearest to it
(`shortest`). A double stands for every number between the midpoints to its neighbours, the
midpoints included if its mantissa is even (`Span`); on the grid of numbers with a given count of
digits it is enough to try the two next to the double (`candidate?`), and seventeen digits always
suffice. `Double.text` writes the digits: positionally from `0.0001` up to below `10 ^ 16`, with
an exponent of at least two digits otherwise.
-/

namespace ContextSlice

/-- A positive double and the numbers that round to it, over the common denominator `den`. -/
structure Span where
  value : Nat
  low : Nat
  high : Nat
  closed : Bool
  den : Nat

/-- The numbers that round to `m · 2 ^ e`. Below a power of two the neighbour is half as far. -/
def Span.of (m : Nat) (e : Int) : Span :=
  let below := if m = Nat.pow 2 52 ∧ Double.minExponent < e then 1 else 2
  let up := (e - 2).toNat
  { value := 4 * m * Nat.pow 2 up
    low := (4 * m - below) * Nat.pow 2 up
    high := (4 * m + 2) * Nat.pow 2 up
    closed := m % 2 == 0
    den := Nat.pow 2 (2 - e).toNat }

/-- Whether the number `num / den` is within the span, whose denominator it shares. -/
def Span.holds (span : Span) (num : Nat) : Bool :=
  if span.closed then span.low ≤ num && num ≤ span.high
  else span.low < num && num < span.high

/-- The span over a denominator that is `factor` times as great. -/
def Span.scale (span : Span) (factor : Nat) : Span :=
  { span with
    value := span.value * factor
    low := span.low * factor
    high := span.high * factor
    den := span.den * factor }

/-- The number of digits before the point of `num / den`, counted negatively from the point to
the first digit of a number below one. -/
def leadingPlace (num den : Nat) : Int :=
  if den ≤ num then (Nat.toDigits 10 (num / den)).length
  else
    let zeros := (Nat.toDigits 10 (den / num)).length - 1
    if den ≤ num * Nat.pow 10 zeros then 1 - (zeros : Int) else -(zeros : Int)

/-- The nearest multiple of `10 ^ e` within the span, divided by that power. -/
def candidate? (span : Span) (e : Int) : Option Nat :=
  let fine := span.scale (Nat.pow 10 (-e).toNat)
  let unit := Nat.pow 10 e.toNat * span.den
  let low := fine.value / unit
  let above := (low + 1) * unit
  match fine.holds (low * unit), fine.holds above with
  | false, false => none
  | true, false => some low
  | false, true => some (low + 1)
  | true, true =>
    let gap := fine.value - low * unit
    let other := above - fine.value
    if gap < other ∨ (gap = other ∧ low % 2 = 0) then some low else some (low + 1)

/-- The first count of digits, among `count` counts from `n` on, at which a candidate exists. -/
def firstCandidate (span : Span) (place : Int) : (count n : Nat) → Nat × Int
  | 0, n => (0, place - n)
  | count + 1, n =>
    match candidate? span (place - n) with
    | some digits => (digits, place - n)
    | none => firstCandidate span place count (n + 1)

/-- The shortest decimal number `digits · 10 ^ e` that rounds to `m · 2 ^ e₂`, for `m > 0`. -/
def shortest (m : Nat) (e₂ : Int) : Nat × Int :=
  let span := Span.of m e₂
  firstCandidate span (leadingPlace span.value span.den) 17 1

/-- The digits without the zeros at their end. -/
def dropZeros (digits : List Char) : List Char :=
  (digits.reverse.dropWhile (· = '0')).reverse

/-- A decimal exponent with its sign and at least two digits. -/
def exponentChars (e : Int) : List Char :=
  let digits := Nat.toDigits 10 e.natAbs
  (if e < 0 then '-' else '+') :: (if digits.length < 2 then '0' :: digits else digits)

/-- The text of the number `0.digits · 10 ^ place`: its first digit is at the power
`place - 1`. -/
def decimalChars (digits : List Char) (place : Int) : List Char :=
  if place ≤ -4 ∨ 16 < place then
    let tail := digits.drop 1
    digits.take 1 ++ (if tail.isEmpty then [] else '.' :: tail) ++ 'e' :: exponentChars (place - 1)
  else if place ≤ 0 then
    '0' :: '.' :: List.replicate (-place).toNat '0' ++ digits
  else
    let whole := digits.take place.toNat
    let part := digits.drop place.toNat
    whole ++ List.replicate (place.toNat - digits.length) '0' ++
      '.' :: (if part.isEmpty then ['0'] else part)

/-- The text of a double. -/
def Double.chars (x : Double) : List Char :=
  match x.shape with
  | .nan => ['n', 'a', 'n']
  | .infinite negative => (if negative then ['-'] else []) ++ ['i', 'n', 'f']
  | .finite negative m e =>
    (if negative then ['-'] else []) ++
      if m = 0 then ['0', '.', '0']
      else
        let (digits, power) := shortest m e
        let all := Nat.toDigits 10 digits
        decimalChars (dropZeros all) (all.length + power)

/-- The text of a double. -/
def Double.text (x : Double) : String := String.ofList x.chars

end ContextSlice
