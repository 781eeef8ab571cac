import ContextSlice.Decimal.Shortest
import ContextSlice.Json.Basic
import ContextSlice.Text.Hex

/-!
# Writing JSON

The text of a value on indented lines (`Json.print`): two blanks a level, one item or member a
line, an empty list or object on the line of its key. Every character outside printable ASCII is
escaped (`escapeChar`), those beyond the first plane as a pair of surrogates.
-/

namespace ContextSlice.Json

/-- The escape of a code unit of sixteen bits. -/
def escapeUnit (n : Nat) : List Char := '\\' :: 'u' :: Text.hexPadded 4 n

/-- A character as it stands in a JSON string. -/
def escapeChar (c : Char) : List Char :=
  if c = '"' then ['\\', '"']
  else if c = '\\' then ['\\', '\\']
  else if c = '\n' then ['\\', 'n']
  else if c = '\r' then ['\\', 'r']
  else if c = '\t' then ['\\', 't']
  else if c = '\x08' then ['\\', 'b']
  else if c = '\x0c' then ['\\', 'f']
  else if ' ' ≤ c ∧ c ≤ '~' then [c]
  else if c.toNat < 0x10000 then escapeUnit c.toNat
  else
    let n := c.toNat - 0x10000
    escapeUnit (0xD800 + n / 0x400) ++ escapeUnit (0xDC00 + n % 0x400)

/-- A text as a JSON string. -/
def stringChars (s : String) : List Char := '"' :: s.toList.flatMap escapeChar ++ ['"']

/-- A whole number in decimal. -/
def intChars : Int → List Char
  | .ofNat n => Nat.toDigits 10 n
  | .negSucc n => '-' :: Nat.toDigits 10 (n + 1)

/-- A double in decimal; the values that are no finite number have names. -/
def realChars (x : Double) : List Char :=
  match x.shape with
  | .nan => ['N', 'a', 'N']
  | .infinite negative => (if negative then ['-'] else []) ++ "Infinity".toList
  | .finite .. => x.chars

/-- The start of a line at a level. -/
def lineStart (level : Nat) : List Char := '\n' :: List.replicate (2 * level) ' '

mutual

/-- The text of a value whose first line is at `level`. -/
def chars (level : Nat) : Json → List Char
  | .null => ['n', 'u', 'l', 'l']
  | .bool true => ['t', 'r', 'u', 'e']
  | .bool false => ['f', 'a', 'l', 's', 'e']
  | .int n => intChars n
  | .real x => realChars x
  | .text s => stringChars s
  | .list [] => ['[', ']']
  | .list (item :: items) =>
    '[' :: lineStart (level + 1) ++ chars (level + 1) item ++ itemsChars level items
  | .object [] => ['\x7b', '\x7d']
  | .object ((key, value) :: members) =>
    '\x7b' :: lineStart (level + 1) ++ stringChars key ++ [':', ' '] ++ chars (level + 1) value ++
      membersChars level members

/-- The items after the first of a list at `level`, and its end. -/
def itemsChars (level : Nat) : List Json → List Char
  | [] => lineStart level ++ [']']
  | item :: items =>
    ',' :: lineStart (level + 1) ++ chars (level + 1) item ++ itemsChars level items

/-- The members after the first of an object at `level`, and its end. -/
def membersChars (level : Nat) : List (String × Json) → List Char
  | [] => lineStart level ++ ['\x7d']
  | (key, value) :: members =>
    ',' :: lineStart (level + 1) ++ stringChars key ++ [':', ' '] ++ chars (level + 1) value ++
      membersChars level members

end

/-- The text of a value on indented lines. -/
def print (value : Json) : String := String.ofList (chars 0 value)

end ContextSlice.Json
