/-!
# Instants

A reading of the clock in universal time (`Instant`) and the stamp that names a snapshot after it
(`Instant.stamp`). All parts of a stamp but the year have a fixed width, so the stamps of years
with four digits sort as their instants do.
-/

namespace ContextSlice

/-- A date and a time of day in universal time, to the microsecond. -/
structure Instant where
  year : Nat
  month : Nat
  day : Nat
  hour : Nat
  minute : Nat
  second : Nat
  microsecond : Nat
  date_inRange : year < 10000 ∧ month ≤ 12 ∧ day ≤ 31
  time_inRange : hour < 24 ∧ minute < 60 ∧ second < 60 ∧ microsecond < 1000000
  deriving DecidableEq, Repr

namespace Instant

/-- The instant with the given parts, if they are parts of a date and of a time of day. -/
def ofParts? (year month day hour minute second microsecond : Nat) : Option Instant :=
  if hd : year < 10000 ∧ month ≤ 12 ∧ day ≤ 31 then
    if ht : hour < 24 ∧ minute < 60 ∧ second < 60 ∧ microsecond < 1000000 then
      some ⟨year, month, day, hour, minute, second, microsecond, hd, ht⟩
    else none
  else none

instance : Inhabited Instant := ⟨⟨1970, 1, 1, 0, 0, 0, 0, by decide, by decide⟩⟩

/-- The last `width` decimal digits of a number. -/
def digits : (width : Nat) → Nat → List Char
  | 0, _ => []
  | width + 1, n => digits width (n / 10) ++ [Nat.digitChar (n % 10)]

/-- The year without leading zeros. -/
def yearDigits (year : Nat) : List Char := (digits 4 year).dropWhile (· = '0')

/-- The characters that name an instant. -/
def stampChars (instant : Instant) : List Char :=
  yearDigits instant.year ++ '-' :: digits 2 instant.month ++ '-' :: digits 2 instant.day ++
    'T' :: digits 2 instant.hour ++ '-' :: digits 2 instant.minute ++
    '-' :: digits 2 instant.second ++ '-' :: digits 6 instant.microsecond ++ ['Z']

/-- The text that names an instant. -/
def stamp (instant : Instant) : String := String.ofList instant.stampChars

/-- The parts of an instant, the greatest first. -/
def parts (instant : Instant) : List Nat :=
  [instant.year, instant.month, instant.day, instant.hour, instant.minute, instant.second,
    instant.microsecond]

/-- Whether an instant is earlier than another one. -/
def before (a b : Instant) : Bool := a.parts < b.parts

end Instant

end ContextSlice
