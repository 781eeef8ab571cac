import ContextSlice.Decimal.Integer
import ContextSlice.Json.Basic
import ContextSlice.Text.Hex
import ContextSlice.Text.Lines

/-!
# Reading JSON

Reading one value from a text (`Json.read`). The readers take the characters that are left and
give back those that they leave; a failure carries the characters at which it stands, and its
position is counted from them at the end (`Fault`). Besides the JSON numbers the names `NaN`,
`Infinity` and `-Infinity` are read as doubles, and a whole number may have `digitLimit` digits
at most. `readValue` takes a fuel that bounds the calls within calls; two for each character are
enough, and `read` supplies them.

A text is made of characters, and half of a pair of surrogates, which an escape may name, is none:
it is read as U+FFFD (`unitChar`). Texts that differ in such halves alone are one text then, so what
is proved of documents that were read says nothing about those in which halves are to be told apart.
-/

namespace ContextSlice.Json

/-- What can be wrong at a place of a JSON text. -/
inductive Problem where
  | byteOrderMark
  | noValue
  | noKey
  | noColon
  | noComma
  | openString
  | controlCharacter
  | badEscape
  | badUnicodeEscape
  | extraData
  deriving DecidableEq, Repr

/-- What a message says about a problem. -/
def Problem.message : Problem → String
  | .byteOrderMark => "Unexpected UTF-8 BOM (decode using utf-8-sig)"
  | .noValue => "Expecting value"
  | .noKey => "Expecting property name enclosed in double quotes"
  | .noColon => "Expecting ':' delimiter"
  | .noComma => "Expecting ',' delimiter"
  | .openString => "Unterminated string starting at"
  | .controlCharacter => "Invalid control character at"
  | .badEscape => "Invalid \\escape"
  | .badUnicodeEscape => "Invalid \\uXXXX escape"
  | .extraData => "Extra data"

/-- Why a text cannot be read: a problem at a position, with its line and column, or a whole
number of too many digits. -/
inductive Fault where
  | at (problem : Problem) (position line column : Nat)
  | tooLong (digits : Nat)
  deriving DecidableEq, Repr

/-- What a message says about a text that cannot be read. -/
def Fault.message : Fault → String
  | .at problem position line column =>
    s!"{problem.message}: line {line} column {column} (char {position})"
  | .tooLong digits => tooLongMessage digits

/-- A failure of a reader: a problem at the characters that are left, or a number of too many
digits. -/
inductive Stop where
  | at (problem : Problem) (left : List Char)
  | tooLong (digits : Nat)

/-- What a reader has found and the characters that are left. -/
abbrev Found (α : Type) := α × List Char

/-- Whether a character separates tokens. -/
def isSpace (c : Char) : Bool := c = ' ' || c = '\t' || c = '\n' || c = '\r'

/-- The characters from the next token on. -/
def skipSpace (cs : List Char) : List Char := cs.dropWhile isSpace

/-- The character that follows a backslash, if it is not the escape of a code point. -/
def simpleEscape? : Char → Option Char
  | '"' => some '"'
  | '\\' => some '\\'
  | '/' => some '/'
  | 'b' => some '\x08'
  | 'f' => some '\x0c'
  | 'n' => some '\n'
  | 'r' => some '\r'
  | 't' => some '\t'
  | _ => none

/-- Whether a code unit opens a pair of surrogates. -/
def isHighSurrogate (n : Nat) : Bool := 0xD800 ≤ n && n ≤ 0xDBFF

/-- Whether a code unit closes a pair of surrogates. -/
def isLowSurrogate (n : Nat) : Bool := 0xDC00 ≤ n && n ≤ 0xDFFF

/-- The character of a code unit. Half of a pair of surrogates stands for no character: either half
becomes U+FFFD, so the halves are not told apart. -/
def unitChar (n : Nat) : Char :=
  if isHighSurrogate n || isLowSurrogate n then '\uFFFD' else Char.ofNat n

/-- The character of a pair of surrogates. -/
def pairChar (high low : Nat) : Char :=
  Char.ofNat (0x10000 + (high - 0xD800) * 0x400 + (low - 0xDC00))

/-- The reading of the escape of a code point whose first digits follow: the character, and how
many of the characters it takes. Four digits and one more character must follow, and a second
escape is looked at only if one more character follows it. -/
def unicodeEscape (cs : List Char) : Except Stop (Char × Nat) :=
  let bad (left : List Char) : Except Stop (Char × Nat) := .error (.at .badUnicodeEscape left)
  match cs with
  | a :: b :: c :: d :: next :: rest =>
    match Text.hexValue4? a b c d with
    | none => bad ('u' :: cs)
    | some high =>
      match next, rest with
      | '\\', 'u' :: e :: f :: g :: h :: _ :: _ =>
        if isHighSurrogate high then
          match Text.hexValue4? e f g h with
          | none => bad rest
          | some low =>
            if isLowSurrogate low then .ok (pairChar high low, 10) else .ok (unitChar high, 4)
        else .ok (unitChar high, 4)
      | _, _ => .ok (unitChar high, 4)
  | _ => bad ('u' :: cs)

/-- Reads a string after its opening quote, at which `start` stands. `skip` characters are passed
over, those of an escape that has been read. -/
def readStringFrom (start : List Char) :
    (skip : Nat) → List Char → Except Stop (Found (List Char))
  | _, [] => .error (.at .openString start)
  | skip + 1, _ :: cs => readStringFrom start skip cs
  | 0, '"' :: cs => .ok ([], cs)
  | 0, '\\' :: cs =>
    match cs with
    | [] => .error (.at .openString start)
    | 'u' :: digits => do
      let (c, taken) ← unicodeEscape digits
      let (rest, left) ← readStringFrom start (taken + 1) cs
      pure (c :: rest, left)
    | e :: _ =>
      match simpleEscape? e with
      | none => .error (.at .badEscape ('\\' :: cs))
      | some c => do
        let (rest, left) ← readStringFrom start 1 cs
        pure (c :: rest, left)
  | 0, c :: cs =>
    if c.toNat < 0x20 then .error (.at .controlCharacter (c :: cs))
    else do
      let (rest, left) ← readStringFrom start 0 cs
      pure (c :: rest, left)

/-- Reads a string whose opening quote has been passed. -/
def readString (cs : List Char) : Except Stop (Found String) := do
  let (found, left) ← readStringFrom ('"' :: cs) 0 cs
  pure (String.ofList found, left)

/-- The number that decimal digits stand for. -/
def digitsValue (digits : List Char) : Nat :=
  digits.foldl (fun n c => n * 10 + (c.toNat - 48)) 0

/-- Splits the leading digits off. -/
def spanDigits (cs : List Char) : List Char × List Char :=
  (cs.takeWhile Char.isDigit, cs.dropWhile Char.isDigit)

/-- The whole part of a number: a zero alone, or digits that begin with another one. -/
def spanWhole : List Char → List Char × List Char
  | '0' :: cs => (['0'], cs)
  | cs => spanDigits cs

/-- The digits after a point, if a point and a digit follow. -/
def spanFraction : List Char → List Char × List Char
  | '.' :: cs => if (spanDigits cs).1.isEmpty then ([], '.' :: cs) else spanDigits cs
  | cs => ([], cs)

/-- The exponent, if one with a digit follows. -/
def spanExponent : List Char → Option Int × List Char
  | c :: cs =>
    if c = 'e' ∨ c = 'E' then
      let (negative, rest) :=
        match cs with
        | '-' :: rest => (true, rest)
        | '+' :: rest => (false, rest)
        | rest => (false, rest)
      let (digits, left) := spanDigits rest
      if digits.isEmpty then (none, c :: cs)
      else
        let n : Int := digitsValue digits
        (some (if negative then -n else n), left)
    else (none, c :: cs)
  | [] => (none, [])

/-- Reads the longest number at the start of the characters. -/
def readNumber (cs : List Char) : Except Stop (Found Json) :=
  let (negative, unsigned) :=
    match cs with
    | '-' :: rest => (true, rest)
    | rest => (false, rest)
  let (whole, afterWhole) := spanWhole unsigned
  if whole.isEmpty then .error (.at .noValue cs)
  else
    let (fraction, afterFraction) := spanFraction afterWhole
    let (exponent, left) := spanExponent afterFraction
    if fraction.isEmpty && exponent.isNone then
      if digitLimit < whole.length then .error (.tooLong whole.length)
      else
        let n : Int := digitsValue whole
        .ok (.int (if negative then -n else n), left)
    else
      let e := exponent.getD 0 - fraction.length
      .ok (.real (Double.ofDecimal negative (digitsValue (whole ++ fraction)) e), left)

/-- The constants and their names. -/
def constants : List (List Char × Json) :=
  [("null".toList, .null), ("true".toList, .bool true), ("false".toList, .bool false),
    ("NaN".toList, .real Double.nan), ("Infinity".toList, .real (Double.infinity false)),
    ("-Infinity".toList, .real (Double.infinity true))]

/-- Reads a constant or a number. -/
def readScalar (cs : List Char) : Except Stop (Found Json) :=
  match constants.find? fun constant => constant.1.isPrefixOf cs with
  | some (name, value) => .ok (value, cs.drop name.length)
  | none => readNumber cs

/-- The key of a member and what follows its colon. -/
def readKey (cs : List Char) : Except Stop (Found String) :=
  match skipSpace cs with
  | '"' :: rest => do
    let (key, left) ← readString rest
    match skipSpace left with
    | ':' :: after => pure (key, after)
    | other => .error (.at .noColon other)
  | other => .error (.at .noKey other)

mutual

/-- Reads a value at the start of the characters. -/
def readValue : (fuel : Nat) → List Char → Except Stop (Found Json)
  | 0, cs => .error (.at .noValue cs)
  | fuel + 1, cs =>
    match cs with
    | '"' :: rest => do
      let (s, left) ← readString rest
      pure (.text s, left)
    | '[' :: rest =>
      match skipSpace rest with
      | ']' :: left => .ok (.list [], left)
      | items => do
        let (found, left) ← readItems fuel items
        pure (.list found, left)
    | '\x7b' :: rest =>
      match skipSpace rest with
      | '\x7d' :: left => .ok (.object [], left)
      | members => do
        let (found, left) ← readMembers fuel members
        pure (ofMembers found, left)
    | _ => readScalar cs

/-- Reads the items of a list, of which there is one at least, and its end. -/
def readItems : (fuel : Nat) → List Char → Except Stop (Found (List Json))
  | 0, cs => .error (.at .noValue cs)
  | fuel + 1, cs => do
    let (item, left) ← readValue fuel (skipSpace cs)
    match skipSpace left with
    | ']' :: after => pure ([item], after)
    | ',' :: after =>
      let (items, left) ← readItems fuel after
      pure (item :: items, left)
    | other => .error (.at .noComma other)

/-- Reads the members of an object, of which there is one at least, and its end. -/
def readMembers : (fuel : Nat) → List Char → Except Stop (Found (List (String × Json)))
  | 0, cs => .error (.at .noKey cs)
  | fuel + 1, cs => do
    let (key, afterKey) ← readKey cs
    let (value, left) ← readValue fuel (skipSpace afterKey)
    match skipSpace left with
    | '\x7d' :: after => pure ([(key, value)], after)
    | ',' :: after =>
      let (members, left) ← readMembers fuel after
      pure ((key, value) :: members, left)
    | other => .error (.at .noComma other)

end

/-- A failure at the characters that are left of a text, as a fault of the text. -/
def Stop.fault (cs : List Char) : Stop → Fault
  | .tooLong digits => .tooLong digits
  | .at problem left =>
    let position := cs.length - left.length
    let (line, column) := Text.linePosition (cs.take position)
    .at problem position line column

/-- Reads the characters of a text that holds one value. -/
def readChars (cs : List Char) : Except Stop Json :=
  match cs with
  | '\uFEFF' :: _ => .error (.at .byteOrderMark cs)
  | _ => do
    let (value, left) ← readValue (2 * cs.length + 1) (skipSpace cs)
    match skipSpace left with
    | [] => pure value
    | rest => .error (.at .extraData rest)

/-- Reads a text that holds one value. -/
def read (s : String) : Except Fault Json :=
  match readChars s.toList with
  | .ok value => .ok value
  | .error stop => .error (stop.fault s.toList)

end ContextSlice.Json
