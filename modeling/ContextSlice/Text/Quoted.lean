import ContextSlice.Text.Hex
import ContextSlice.Text.Printable

/-!
# Quoted texts

How messages show a text (`quoted`): between single quotes, or between double quotes if the text
holds a single quote and no double one. The quote and the backslash are escaped by a backslash,
and every character that is not printable is written by its code point. Where a message shows a
text without quotes, only its control characters are written so (`escapeControls`).
-/

namespace ContextSlice.Text

/-- The quote that a text is shown in. -/
def quoteFor (cs : List Char) : Char :=
  if cs.contains '\'' && !cs.contains '"' then '"' else '\''

/-- A character as it stands between two of the given quotes. -/
def escapeBetween (quote c : Char) : List Char :=
  if c = quote ∨ c = '\\' then ['\\', c]
  else if c = '\n' then ['\\', 'n']
  else if c = '\r' then ['\\', 'r']
  else if c = '\t' then ['\\', 't']
  else if isPrintable c then [c]
  else if c.toNat < 0x100 then '\\' :: 'x' :: hexPadded 2 c.toNat
  else if c.toNat < 0x10000 then '\\' :: 'u' :: hexPadded 4 c.toNat
  else '\\' :: 'U' :: hexPadded 8 c.toNat

/-- The characters of a text as a message shows them. -/
def quotedChars (cs : List Char) : List Char :=
  let quote := quoteFor cs
  quote :: cs.flatMap (escapeBetween quote) ++ [quote]

/-- A text as a message shows it. -/
def quoted (s : String) : String := String.ofList (quotedChars s.toList)

/-- Whether a character is a control character. -/
def isControl (c : Char) : Bool := c.toNat < 0x20 || (0x7F ≤ c.toNat && c.toNat < 0xA0)

/-- A text with its control characters written by their code points. -/
def escapeControls (s : String) : String :=
  String.ofList (s.toList.flatMap fun c =>
    if isControl c then '\\' :: 'x' :: hexPadded 2 c.toNat else [c])

end ContextSlice.Text
