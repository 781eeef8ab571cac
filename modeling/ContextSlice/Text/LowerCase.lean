import ContextSlice.Text.LowerCase.Table

/-!
# Lower case

The full lower-case form of a text (`lower`, on characters `lowerChars`). All capitals but two
have one small letter whatever stands around them (`lowerChar`): the dotted capital `İ` becomes
two characters, and a capital sigma becomes `ς` at the end of a word and `σ` elsewhere
(`lowerSigma`).
-/

namespace ContextSlice.Text

/-- The lower-case form of one character, taken by itself. -/
def lowerChar (c : Char) : List Char :=
  if c.toNat < 128 then [c.toLower]
  else if c = 'İ' then ['i', '\u0307']
  else
    match caseRuns.find? (·.holds c.toNat) with
    | some run => [Char.ofNat (c.toNat + run.shift).toNat]
    | none => [c]

/-- Whether the nearest character that is not ignorable is a letter with a case. -/
def meetsCased : List Char → Bool
  | [] => false
  | c :: cs => if caseIgnorable.contains c then meetsCased cs else casedLetters.contains c

/-- The small form of a capital sigma with `before` (read backwards) and `after` around it:
final after a cased letter and before none. -/
def lowerSigma (before after : List Char) : Char :=
  if meetsCased before && !meetsCased after then 'ς' else 'σ'

/-- The lower-case form of the text that follows `before`, which is read backwards. -/
def lowerAfter (before : List Char) : List Char → List Char
  | [] => []
  | c :: cs =>
    (if c = 'Σ' then [lowerSigma before cs] else lowerChar c) ++ lowerAfter (c :: before) cs

/-- The lower-case form of a text given as its characters. -/
def lowerChars (cs : List Char) : List Char := lowerAfter [] cs

/-- The lower-case form of a text. -/
def lower (s : String) : String := String.ofList (lowerChars s.toList)

end ContextSlice.Text
