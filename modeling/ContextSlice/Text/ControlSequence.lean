/-!
# Control sequences of terminals

A control sequence is an escape character and an opening bracket, any number of digits, semicolons
and question marks, and a letter. A text that does not go to a terminal is written without them
(`withoutControls`).
-/

namespace ContextSlice.Text

/-- The character that a control sequence begins with. -/
def escapeCharacter : Char := '\x1b'

/-- Whether a character may stand between the bracket and the letter of a control sequence. -/
def isParameter (c : Char) : Bool := c = ';' || c = '?' || c.isDigit

/-- A list without its control sequences, given in reverse what may be the start of one. -/
def dropControls : (start : List Char) → List Char → List Char
  | start, [] => start.reverse
  | [], c :: cs => if c = escapeCharacter then dropControls [c] cs else c :: dropControls [] cs
  | last :: start, c :: cs =>
    if start.isEmpty && c = '[' then dropControls [c, last] cs
    else if !start.isEmpty && isParameter c then dropControls (c :: last :: start) cs
    else if !start.isEmpty && c.isAlpha then dropControls [] cs
    else
      (last :: start).reverse ++
        if c = escapeCharacter then dropControls [c] cs else c :: dropControls [] cs

/-- The text without its control sequences. -/
def withoutControls (s : String) : String := String.ofList (dropControls [] s.toList)

end ContextSlice.Text
