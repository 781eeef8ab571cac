import ContextSlice.Text.CodeRange

/-!
# Blank characters

White space in the sense of Unicode (`isMargin`), also together with the four information
separators (`isBlank`), and the removal of blanks from both ends of a text (`trim`).
-/

namespace ContextSlice.Text

/-- The ranges of blank characters. -/
def blanks : CodeRanges := [
    (0x9, 0xD), (0x1C, 0x20), (0x85, 0x85), (0xA0, 0xA0), (0x1680, 0x1680), (0x2000, 0x200A),
    (0x2028, 0x2029), (0x202F, 0x202F), (0x205F, 0x205F), (0x3000, 0x3000)]

/-- Whether a character is white space. -/
def isBlank (c : Char) : Bool := blanks.contains c

/-- Whether a character is white space other than an information separator. -/
def isMargin (c : Char) : Bool := isBlank c && !('\x1c' ≤ c && c ≤ '\x1f')

/-- The characters without those at the two ends for which `p` holds. -/
def trimBy (p : Char → Bool) (cs : List Char) : List Char :=
  ((cs.dropWhile p).reverse.dropWhile p).reverse

/-- The text without the blanks at its two ends. -/
def trim (s : String) : String := String.ofList (trimBy isBlank s.toList)

end ContextSlice.Text
