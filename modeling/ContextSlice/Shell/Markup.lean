import ContextSlice.Libraries
import ContextSlice.Text.Blank
import ContextSlice.Text.Search

/-!
# Markup

What the console makes of a text (`Shell.Markup.render`). A tag is a bracket before a small letter or one
of some signs, as far as the next closing bracket; it is left out of what is shown, unless a
backslash stands before it. A tag with a slash closes another one, which must have been opened
(`close`). How the styles look that the tags name is of no account here, nor are the names of
pictures between colons.
-/

namespace ContextSlice.Shell.Markup

/-- A piece of a text: characters as they are, or the name of a tag. -/
inductive Piece where
  | plain (cs : List Char)
  | tag (name : List Char)
  deriving DecidableEq, Repr

/-- The inside of a tag that begins after its bracket, and the rest. -/
def tagInside? (cs : List Char) : Option (List Char × List Char) :=
  match cs with
  | [] => none
  | c :: rest =>
    let inside := rest.takeWhile fun d => d ≠ '[' && d ≠ ']'
    let after := rest.dropWhile fun d => d ≠ '[' && d ≠ ']'
    if (c.isLower || ['#', '/', '@'].contains c) && after.head? = some ']' then
      some (c :: inside, after.drop 1)
    else none

/-- The name of a tag, without what is said after an equals sign. -/
def tagName (inside : List Char) : List Char := inside.takeWhile (· ≠ '=')

/-- The pieces of a text. Of the backslashes before a tag every two stand for one, and a single one
that is left makes the tag characters as they are; before another bracket one backslash is left out. -/
def pieces (slashes : Nat) : (fuel : Nat) → List Char → List Piece
  | 0, cs => [.plain (List.replicate slashes '\\' ++ cs)]
  | _ + 1, [] => [.plain (List.replicate slashes '\\')]
  | fuel + 1, '\\' :: cs => pieces (slashes + 1) fuel cs
  | fuel + 1, '[' :: cs =>
    match tagInside? cs with
    | none => .plain (List.replicate (slashes - 1) '\\' ++ ['[']) :: pieces 0 fuel cs
    | some (inside, rest) =>
      let shown := if slashes % 2 = 1 then Piece.plain ('[' :: inside ++ [']'])
        else .tag (tagName inside)
      .plain (List.replicate (slashes / 2) '\\') :: shown :: pieces 0 fuel rest
  | fuel + 1, c :: cs => .plain (List.replicate slashes '\\' ++ [c]) :: pieces 0 fuel cs

/-- Short names of styles. -/
def shortNames : List (String × String) :=
  [("b", "bold"), ("d", "dim"), ("i", "italic"), ("u", "underline"), ("uu", "underline2"),
    ("r", "reverse"), ("c", "conceal"), ("s", "strike"), ("o", "overline")]

/-- The name of a style without blanks at its ends, in small letters and in full. -/
def styleName (cs : List Char) : String :=
  let name := String.ofList ((Text.trimBy Text.isBlank cs).map Char.toLower)
  (shortNames.lookup name).getD name

/-- An error about a closing tag. -/
def closingError (reason : String) : LibraryError := ⟨"MarkupError", reason, false⟩

/-- Closes a tag: the one with a name that was opened last, or if no name is given the one that was
opened last of all. -/
def close (name : List Char) (opened : List String) : Except LibraryError (List String) :=
  let style := styleName name
  if style = "" then
    match opened with
    | [] => .error (closingError "closing tag '[/]' has nothing to close")
    | _ :: opened => .ok opened
  else if opened.contains style then .ok (opened.erase style)
  else .error (closingError s!"closing tag '[/{String.ofList name}]' doesn't match any open tag")

/-- The characters that are shown of some pieces, given the styles that are open. -/
def shownChars (opened : List String) : List Piece → Except LibraryError (List Char)
  | [] => .ok []
  | .plain cs :: pieces => (shownChars opened pieces).map (cs ++ ·)
  | .tag ('/' :: name) :: pieces => do
    let opened ← close name opened
    shownChars opened pieces
  | .tag name :: pieces => shownChars (styleName name :: opened) pieces

/-- Whether a character is one that a console would act on. -/
def isControl (c : Char) : Bool := [7, 8, 11, 12, 13].contains c.toNat

/-- What is shown of a text. -/
def render (s : String) : Except LibraryError String :=
  (shownChars [] (pieces 0 s.length s.toList)).map fun cs => String.ofList (cs.filter (!isControl ·))

end ContextSlice.Shell.Markup
