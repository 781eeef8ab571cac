import ContextSlice.Datum
import ContextSlice.Decimal.Integer
import ContextSlice.Shell.Toml.Fault

/-!
# Dates and times in TOML

A text is a date or an instant by the places of its parts (`date?`), and what stands between them does not
matter; a fraction of a second and the distance from universal time may follow an instant. Two
digits each for hour, minute and second, with colons between them, begin a time of day (`time?`),
whatever follows. They are written in the usual form (`Moment.chars`).
-/

namespace ContextSlice

/-- Whether a moment is a time of day alone. -/
def Moment.isTime : Moment → Bool
  | .time .. => true
  | _ => false

namespace Shell.Toml

/-- The whole number that the characters at some places stand for. -/
def part? (start stop : Nat) (cs : List Char) : Option Int :=
  (readInteger (String.ofList ((cs.drop start).take (stop - start)))).toOption

/-- The last day of a month. -/
def lastDay (year month : Nat) : Nat :=
  if month = 2 then (if year % 4 = 0 ∧ (year % 100 ≠ 0 ∨ year % 400 = 0) then 29 else 28)
  else if [4, 6, 9, 11].contains month then 30
  else 31

/-- The distance from universal time in minutes: a sign, two digits, a sign between, two digits. -/
def offset? (cs : List Char) : Option Int :=
  if cs = ['Z'] then some 0
  else do
    let hours ← part? 1 3 cs
    let minutes ← part? 4 6 cs
    let size := hours * 60 + minutes
    pure (if cs.head? = some '-' then -size else size)

/-- The digits of a fraction of a second and what follows them, which is the distance from universal
time. -/
def cutFraction (cs : List Char) : List Char × Option (List Char) :=
  if cs.getLast?.any fun c => c = 'Z' || c = 'z' then (cs.dropLast, some ['Z'])
  else
    let sign := if cs.contains '+' then '+' else '-'
    if cs.contains sign then (cs.takeWhile (· ≠ sign), some (cs.dropWhile (· ≠ sign)))
    else (cs, none)

/-- The microseconds that the digits of a fraction of a second stand for. -/
def microseconds? (digits : List Char) : Option Int := do
  let n ← part? 0 digits.length digits
  pure (if digits.length ≤ 6 then n * Int.pow 10 (6 - digits.length) else n / Int.pow 10 (digits.length - 6))

/-- What follows the seconds of an instant: microseconds, and the distance from universal time.
If either cannot be read, then neither counts. -/
def zone (cs : List Char) : Int × Option Int :=
  match cs with
  | [] => (0, none)
  | '.' :: rest =>
    let (digits, offset) := cutFraction rest
    match offset.map offset?, microseconds? digits with
    | some (some offset), some micros => (micros, some offset)
    | none, some micros => (micros, none)
    | _, _ => (0, none)
  | _ => (0, offset? cs)

/-- The date or the instant that a text is. -/
def date? (cs : List Char) : Option Moment := do
  guard ((cs.drop 1).contains '-')
  let year ← (← part? 0 4 cs).toNat?
  let month ← (← part? 5 7 cs).toNat?
  let day ← (← part? 8 10 cs).toNat?
  guard (1 ≤ year ∧ 1 ≤ month ∧ 1 ≤ day ∧ day ≤ lastDay year month)
  if cs.length = 10 then
    guard (year < 10000 ∧ month ≤ 12)
    pure (.date year month day)
  else
    let hour ← (← part? 11 13 cs).toNat?
    let minute ← (← part? 14 16 cs).toNat?
    let second ← (← part? 17 19 cs).toNat?
    let (micros, offset) := zone (cs.drop 19)
    let clock ← Instant.ofParts? year month day hour minute second (← micros.toNat?)
    pure (.instant clock offset)

/-- The number that two digits stand for. -/
def twoDigits? (a b : Char) : Option Nat :=
  if a.isDigit ∧ b.isDigit then some ((a.toNat - 48) * 10 + (b.toNat - 48)) else none

/-- The time of day that a text begins with. Three to six digits after a point are taken for
microseconds. -/
def time? : List Char → Option Moment
  | a :: b :: ':' :: c :: d :: ':' :: e :: f :: rest => do
    let hour ← twoDigits? a b
    let minute ← twoDigits? c d
    let second ← twoDigits? e f
    let digits := if rest.head? = some '.' then ((rest.drop 1).takeWhile Char.isDigit).take 6 else []
    let micros := if digits.length < 3 then 0
      else digits.foldl (fun n c => n * 10 + (c.toNat - 48)) 0
    pure (.time hour minute second micros)
  | _ => none

/-- A time of day, if there is such a time. -/
def checkTime : Moment → Except Fault Moment
  | .time hour minute second micros =>
    if hour < 24 ∧ minute < 60 ∧ second < 60 then .ok (.time hour minute second micros)
    else .error .malformed
  | other => .ok other

/-- A date in its usual form. -/
def dateChars (year month day : Nat) : List Char :=
  Instant.digits 4 year ++ '-' :: Instant.digits 2 month ++ '-' :: Instant.digits 2 day

/-- A time of day in its usual form; microseconds are left out if there are none. -/
def timeChars (hour minute second micros : Nat) : List Char :=
  Instant.digits 2 hour ++ ':' :: Instant.digits 2 minute ++ ':' :: Instant.digits 2 second ++
    if micros = 0 then [] else '.' :: Instant.digits 6 micros

/-- The distance from universal time in its usual form. -/
def offsetChars (offset : Int) : List Char :=
  if offset = 0 then ['Z']
  else
    (if offset < 0 then '-' else '+') :: Instant.digits 2 (offset.natAbs / 60) ++
      ':' :: Instant.digits 2 (offset.natAbs % 60)

end Shell.Toml

open Shell.Toml

/-- A date, a time or an instant as it is written. -/
def Moment.chars : Moment → Except PrintFault (List Char)
  | .date year month day => .ok (dateChars year month day)
  | .time hour minute second micros => .ok (timeChars hour minute second micros)
  | .instant clock offset =>
    if offset.any (1440 ≤ ·.natAbs) then .error .offset
    else .ok (dateChars clock.year clock.month clock.day ++
      'T' :: timeChars clock.hour clock.minute clock.second clock.microsecond ++
      (offset.map offsetChars).getD [])

end ContextSlice
