/-!
# Searching and cutting texts

Occurrence of one text in another (`contains`), at its start (`startsWith`) and at its end
(`endsWith`), replacement of single characters (`replaceChar`), and the pieces of a text between
separators of one character (`splitAt`) or of several (`splitBlock`). All of them read a text as
its characters.
-/

namespace ContextSlice.Text

/-- Whether `needle` occurs in the second list as a block. -/
def hasBlock (needle : List Char) : List Char → Bool
  | [] => needle.isEmpty
  | c :: cs => needle.isPrefixOf (c :: cs) || hasBlock needle cs

/-- Whether `needle` occurs in `hay`. -/
def contains (hay needle : String) : Bool := hasBlock needle.toList hay.toList

/-- Whether a text begins with `start`. -/
def startsWith (s start : String) : Bool := start.toList.isPrefixOf s.toList

/-- Whether a text ends with `ending`. -/
def endsWith (s ending : String) : Bool := ending.toList.isSuffixOf s.toList

/-- The text with every character `old` replaced by the text `new`. -/
def replaceChar (old : Char) (new : String) (s : String) : String :=
  String.ofList (s.toList.flatMap fun c => if c = old then new.toList else [c])

/-- The pieces of a list between the characters `separator`; there is always one piece. -/
def splitChars (separator : Char) : List Char → List (List Char)
  | [] => [[]]
  | c :: cs =>
    if c = separator then [] :: splitChars separator cs
    else
      match splitChars separator cs with
      | [] => [[c]]
      | piece :: pieces => (c :: piece) :: pieces

/-- The pieces of a text between the characters `separator`. -/
def splitAt (separator : Char) (s : String) : List String :=
  (splitChars separator s.toList).map String.ofList

/-- The pieces of a list between the blocks `separator`, which is not empty; the first `skip`
characters are passed over. There is always one piece. -/
def splitBlock (separator : List Char) : (skip : Nat) → List Char → List (List Char)
  | _, [] => [[]]
  | skip + 1, _ :: cs => splitBlock separator skip cs
  | 0, c :: cs =>
    if separator.isPrefixOf (c :: cs) then [] :: splitBlock separator (separator.length - 1) cs
    else
      match splitBlock separator 0 cs with
      | [] => [[c]]
      | piece :: pieces => (c :: piece) :: pieces

/-- The number of characters `c` that a list ends with. -/
def countAtEnd (c : Char) (cs : List Char) : Nat := (cs.reverse.takeWhile (· = c)).length

/-- Searching finds exactly the blocks of a list. -/
theorem hasBlock_eq_true_iff {needle cs : List Char} :
    hasBlock needle cs = true ↔ needle <:+: cs := by
  induction cs with
  | nil => simp [hasBlock]
  | cons c cs ih => simp [hasBlock, ih, List.infix_cons_iff]

end ContextSlice.Text
