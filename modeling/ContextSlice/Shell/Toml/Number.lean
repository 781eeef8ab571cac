import ContextSlice.Decimal.Double
import ContextSlice.Decimal.Integer
import ContextSlice.Datum
import ContextSlice.Text.Hex
import ContextSlice.Shell.Toml.Fault

/-!
# Numbers in TOML

Reading a number (`readNumber`): a whole number in decimal or, after `0x`, `0o` or `0b`, to another
base, or a number with a point or an exponent. `isStrict` says where zeros and underscores may
stand, and `isDecimal` whether a text is a number in decimal at all.
-/

namespace ContextSlice.Shell.Toml

/-- Whether zeros and underscores stand where a number may have them. -/
def isStrict (cs : List Char) : Bool :=
  let cs := Text.trimBy Text.isBlank cs
  let signed := cs.head?.any fun c => c = '+' || c = '-'
  let body := if signed then cs.drop 1 else cs
  if cs.isEmpty || cs.head? = some '_' || cs.getLast? = some '_' then false
  else if Text.hasBlock ['_', '.'] cs || Text.hasBlock ['.', '_'] cs then false
  else if cs.length = 1 then true
  else if cs.head? = some '0' && !(cs[1]?.any ['.', 'o', 'b', 'x'].contains) then false
  else if signed && 1 < body.length && body.head? = some '0' && body[1]? ≠ some '.' then false
  else !Text.hasBlock ['_', '_'] body

/-- A list in which the decimal digits of every script are those of ASCII. -/
def plainDigits (cs : List Char) : List Char :=
  cs.map fun c => (Text.digitValue? c).elim c fun d => Char.ofNat (48 + d)

/-- A list without the digits that it begins with, and these. -/
def takeDigits (cs : List Char) : List Char × List Char :=
  (cs.takeWhile Char.isDigit, cs.dropWhile Char.isDigit)

/-- The digits and the exponent of ten of a number in decimal without a sign: digits, a point and
digits, an exponent. There must be a digit before or after the point. -/
def decimalParts? (cs : List Char) : Option (List Char × Int) :=
  let (whole, rest) := takeDigits cs
  let (part, rest) := if rest.head? = some '.' then takeDigits (rest.drop 1) else ([], rest)
  let digits := whole ++ part
  if digits.isEmpty then none
  else
    match rest with
    | [] => some (digits, -part.length)
    | mark :: rest =>
      let (negative, rest) := splitSign rest
      let (power, rest) := takeDigits rest
      if (mark = 'e' ∨ mark = 'E') ∧ !power.isEmpty ∧ rest.isEmpty then
        some (digits, signedNumber negative (power.filterMap plainDigit?) - part.length)
      else none

/-- Whether every underscore stands between two digits. -/
def isSpaced : (previous : Option Char) → List Char → Bool
  | _, [] => true
  | previous, c :: cs =>
    (c ≠ '_' || (previous.any Char.isDigit && cs.head?.any Char.isDigit)) && isSpaced (some c) cs

/-- Names of numbers that have no digits. -/
def namedNumbers : List String := ["inf", "infinity", "nan"]

/-- Whether a text is a number in decimal, with a sign or without one. -/
def isDecimal (cs : List Char) : Bool :=
  let cs := plainDigits (Text.trimBy Text.isMargin cs)
  let (_, body) := splitSign cs
  namedNumbers.contains (String.ofList (body.map Char.toLower)) ||
    (isSpaced none cs && (decimalParts? (body.filter (· ≠ '_'))).isSome)

/-- The value of some digits to a base; all of them must be smaller than it. -/
def basedNumber (base : Nat) (cs : List Char) : Except Fault Nat :=
  match cs.mapM fun c => (Text.hexValue? c).filter (· < base) with
  | none | some [] => .error .malformed
  | some values => .ok (values.foldl (fun n d => n * base + d) 0)

/-- The value of digits in decimal; no zero may stand before another digit but a zero. -/
def decimalNumber (cs : List Char) : Except Fault Nat :=
  if digitLimit < cs.length ∨ (cs.head? = some '0' ∧ cs.any (· ≠ '0')) then .error .malformed
  else basedNumber 10 cs

/-- Reads a whole number, which may have a sign. -/
def readWhole (cs : List Char) : Except Fault Int :=
  let (negative, body) := splitSign (plainDigits (Text.trimBy Text.isMargin cs))
  let size := match body with
    | '0' :: mark :: rest =>
      if mark = 'x' ∨ mark = 'X' then basedNumber 16 rest
      else if mark = 'o' ∨ mark = 'O' then basedNumber 8 rest
      else if mark = 'b' ∨ mark = 'B' then basedNumber 2 rest
      else decimalNumber body
    | _ => decimalNumber body
  size.map fun (n : Nat) => if negative then -(n : Int) else n

/-- A double, negated; there is no negative zero. -/
def minus (negative : Bool) (x : Double) : Double :=
  match x.shape with
  | .nan => x
  | .infinite _ => .infinity negative
  | .finite _ 0 _ => .zero false
  | .finite .. => if negative then ⟨x.bits ||| 0x8000000000000000⟩ else x

/-- Reads a number that begins with a digit and has a point or an exponent. -/
def readReal (cs : List Char) : Except Fault Double :=
  let part := (cs.dropWhile (· ≠ '.')).drop 1
  if (cs.contains '.' && part.isEmpty) || !(cs.head?.any Char.isDigit) then .error .malformed
  else
    match decimalParts? (plainDigits (Text.trimBy Text.isMargin cs)) with
    | none => .error .malformed
    | some (digits, power) =>
      .ok (.ofDecimal false ((digits.filterMap plainDigit?).foldl (fun n d => n * 10 + d) 0) power)

/-- Whether a number without its sign has a point or an exponent. -/
def isReal (cs : List Char) : Bool :=
  cs.contains '.' || (!cs.contains 'x' && (cs.contains 'e' || cs.contains 'E'))

/-- Reads a number; `strict` tells whether its zeros and underscores stand where they may. -/
def readNumber (strict : Bool) (cs : List Char) : Except Fault Datum :=
  if !strict then .error .malformed
  else
    let (negative, body) := splitSign cs
    let body := body.filter (· ≠ '_')
    let name := String.ofList (body.map Char.toLower)
    if isReal body then (readReal body).map fun x => .scalar (.real (minus negative x))
    else if name = "inf" then .ok (.scalar (.real (.infinity negative)))
    else if name = "nan" then .ok (.scalar (.real .nan))
    else (readWhole body).map fun n => .scalar (.int (if negative then -n else n))

end ContextSlice.Shell.Toml
