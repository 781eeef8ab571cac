import ContextSlice.Text.Blank
import ContextSlice.Text.DecimalDigit
import ContextSlice.Text.Search

/-!
# Whole numbers typed by hand

Two readings of a text as a whole number. `readInteger` takes a sign and digits of any script, with
single underscores between them. `readPlainInteger` takes ASCII digits only, but is lenient about
what has no meaning: a point with nothing but zeros after it, and zeros before the first digit that
counts, which may have underscores among them. White space around the number is of no account to
either, and a number of more than `digitLimit` digits is refused (`IntegerFault`).
-/

namespace ContextSlice

/-- The most digits that a whole number may have. -/
def digitLimit : Nat := 4300

/-- What a message says about a number of too many digits. -/
def tooLongMessage (digits : Nat) : String :=
  s!"Exceeds the limit ({digitLimit} digits) for integer string conversion: value has {digits} " ++
    "digits; use sys.set_int_max_str_digits() to increase the limit"

/-- Why a text stands for no whole number. -/
inductive IntegerFault where
  | notNumber
  | tooLong (digits : Nat)
  deriving DecidableEq, Repr

/-- The number with a sign and the values of its digits. -/
def signedNumber (negative : Bool) (digits : List Nat) : Int :=
  let size : Nat := digits.foldl (fun n d => n * 10 + d) 0
  if negative then -(size : Int) else size

/-- A text without its sign, and whether the sign is a minus. -/
def splitSign : List Char → Bool × List Char
  | '-' :: cs => (true, cs)
  | '+' :: cs => (false, cs)
  | cs => (false, cs)

/-- The values of the digits that follow a digit, a single underscore before one of them left
out, and what follows them. -/
def moreDigits (digit? : Char → Option Nat) : List Char → List Nat × List Char
  | [] => ([], [])
  | '_' :: c :: cs =>
    match digit? c with
    | some d => (moreDigits digit? cs).map (d :: ·) id
    | none => ([], '_' :: c :: cs)
  | c :: cs =>
    match digit? c with
    | some d => (moreDigits digit? cs).map (d :: ·) id
    | none => ([], c :: cs)

/-- The values of the digits that a text begins with, and what follows them. -/
def leadingDigits (digit? : Char → Option Nat) : List Char → List Nat × List Char
  | [] => ([], [])
  | c :: cs =>
    match digit? c with
    | some d => (moreDigits digit? cs).map (d :: ·) id
    | none => ([], c :: cs)

/-- The whole number in digits of any script that a text is. A row of too many digits is found
before what follows it, unless that is an underscore. -/
def readInteger (s : String) : Except IntegerFault Int :=
  let (negative, cs) := splitSign (Text.trimBy Text.isMargin s.toList)
  match leadingDigits Text.digitValue? cs with
  | ([], _) => .error .notNumber
  | (_, '_' :: _) => .error .notNumber
  | (digits, rest) =>
    if digitLimit < digits.length then .error (.tooLong digits.length)
    else if rest.isEmpty then .ok (signedNumber negative digits)
    else .error .notNumber

/-- The value of an ASCII digit. -/
def plainDigit? (c : Char) : Option Nat := if c.isDigit then some (c.toNat - 48) else none

/-- A text without its point and the zeros after it, if that is all that follows the point and there
are any. -/
def dropZeroPart (cs : List Char) : List Char :=
  let part := (cs.dropWhile (· ≠ '.')).drop 1
  if !part.isEmpty && part.all (· = '0') then cs.takeWhile (· ≠ '.') else cs

/-- Whether a number may begin with a character once the zeros before it are dropped. -/
def startsNumber (c : Char) : Bool := c = '-' || ('1' ≤ c && c ≤ '9')

/-- A text without the zeros at its start and the underscores among them. If there is nothing
else, its last character remains. -/
def dropZeros? : List Char → Option (List Char)
  | [] => none
  | '0' :: cs =>
    match cs.dropWhile fun c => c = '0' || c = '_' with
    | [] => some ('0' :: cs).getLast?.toList
    | c :: rest => if startsNumber c then some (c :: rest) else none
  | c :: cs => if startsNumber c then some (c :: cs) else none

/-- A text without the underscores in it, unless one stands at an end or beside another. -/
def dropUnderscores (cs : List Char) : List Char :=
  if cs.head? = some '_' ∨ cs.getLast? = some '_' ∨ Text.hasBlock ['_', '_'] cs then cs
  else cs.filter (· ≠ '_')

/-- The whole number that a minus or nothing and ASCII digits stand for. No zero may stand before
another digit. -/
def bareInteger (cs : List Char) : Except IntegerFault Int :=
  let negative := cs.head? = some '-'
  let body := if negative then cs.drop 1 else cs
  let digits := (body.takeWhile Char.isDigit).filterMap plainDigit?
  if digits = [] ∨ (digits.head? = some 0 ∧ digits.length ≠ 1) then .error .notNumber
  else if digitLimit < digits.length then .error (.tooLong digits.length)
  else if (body.dropWhile Char.isDigit).isEmpty then .ok (signedNumber negative digits)
  else .error .notNumber

/-- A number without its sign and without what has no meaning in it. -/
def dropMeaningless? (cs : List Char) : Option (List Char) :=
  (dropZeros? (dropZeroPart cs)).map dropUnderscores

/-- A text without the white space around it, with a minus or nothing as its sign, and without what
has no meaning in it. -/
def plainForm? (cs : List Char) : Option (List Char) :=
  match Text.trimBy Text.isMargin cs with
  | '+' :: '-' :: _ => none
  | '+' :: cs => dropMeaningless? cs
  | '-' :: cs => (dropMeaningless? cs).map ('-' :: ·)
  | cs => dropMeaningless? cs

/-- The whole number in ASCII digits that a text is. That there are too many digits is told only if
they stand at the start. -/
def readPlainInteger (s : String) : Except IntegerFault Int :=
  match bareInteger s.toList with
  | .error .notNumber =>
    match (plainForm? s.toList).map bareInteger with
    | some (.ok n) => .ok n
    | _ => .error .notNumber
  | found => found

end ContextSlice
