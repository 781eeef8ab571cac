import ContextSlice.Decimal.Shortest
import ContextSlice.Json.Basic
import ContextSlice.Text.Quoted

/-!
# Values in messages

How messages and tables show a value (`Json.display`): on one line, texts quoted, the constants
as `None`, `True` and `False`. A text that stands alone is shown as it is (`Json.label`), and
several values in one message in parentheses (`Json.labelAll`). Messages about a value of the wrong
kind name its kind (`Json.kindName`).
-/

namespace ContextSlice.Json

/-- Texts put one after another with `between` between them. -/
def commaChars : List (List Char) → List Char
  | [] => []
  | [piece] => piece
  | piece :: pieces => piece ++ ',' :: ' ' :: commaChars pieces

mutual

/-- The characters that show a value. -/
def displayChars : Json → List Char
  | .null => "None".toList
  | .bool true => "True".toList
  | .bool false => "False".toList
  | .int n => (toString n).toList
  | .real x => x.chars
  | .text s => Text.quotedChars s.toList
  | .list items => '[' :: commaChars (displayItems items) ++ [']']
  | .object members => '\x7b' :: commaChars (displayMembers members) ++ ['\x7d']

/-- The characters that show each item. -/
def displayItems : List Json → List (List Char)
  | [] => []
  | item :: items => displayChars item :: displayItems items

/-- The characters that show each member. -/
def displayMembers : List (String × Json) → List (List Char)
  | [] => []
  | (key, value) :: members =>
    (Text.quotedChars key.toList ++ ':' :: ' ' :: displayChars value) :: displayMembers members

end

/-- A value as a message shows it. -/
def display (value : Json) : String := String.ofList value.displayChars

/-- A value as a label: a text stands for itself, and every other value is shown. -/
def label : Json → String
  | .text s => s
  | value => value.display

/-- Several values as one text: nothing for none, the label of a single one, and otherwise all of
them shown in parentheses. -/
def labelAll : List Json → String
  | [] => ""
  | [value] => value.label
  | values => "(" ++ ", ".intercalate (values.map display) ++ ")"

/-- The name of a value's kind. -/
def kindName : Json → String
  | .null => "NoneType"
  | .bool _ => "bool"
  | .int _ => "int"
  | .real _ => "float"
  | .text _ => "str"
  | .list _ => "list"
  | .object _ => "dict"

end ContextSlice.Json
