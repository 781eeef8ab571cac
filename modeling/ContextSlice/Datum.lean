import ContextSlice.Json.Basic
import ContextSlice.Snapshot.Instant

/-!
# Data of a configuration

A table of the configuration, or of settings, holds data (`Datum`): the values that JSON has
(`Datum.ofJson`), and dates and times besides (`Moment`). A datum without parts is a `Scalar`.
-/

namespace ContextSlice

/-- A date, a time of day, or an instant, the latter perhaps with the distance of its clock from
universal time in minutes. -/
inductive Moment where
  | date (year month day : Nat)
  | time (hour minute second microsecond : Nat)
  | instant (clock : Instant) (offset : Option Int)
  deriving DecidableEq, Repr

/-- A datum without parts. -/
inductive Scalar where
  | null
  | bool (b : Bool)
  | int (n : Int)
  | real (x : Double)
  | text (s : String)
  | moment (m : Moment)
  deriving DecidableEq, Repr, Inhabited

/-- A datum of a configuration; the members of an object keep their order. -/
inductive Datum where
  | scalar (value : Scalar)
  | list (items : List Datum)
  | object (members : List (String × Datum))
  deriving Repr, Inhabited

/-- Names with data. -/
abbrev Members := List (String × Datum)

namespace Datum

mutual

/-- Equality of data is decidable. -/
def decEq : (a b : Datum) → Decidable (a = b)
  | .scalar a, .scalar b => decidable_of_iff (a = b) (by simp)
  | .list a, .list b =>
    match decEqList a b with
    | isTrue h => isTrue (by rw [h])
    | isFalse h => isFalse (by simpa using h)
  | .object a, .object b =>
    match decEqMembers a b with
    | isTrue h => isTrue (by rw [h])
    | isFalse h => isFalse (by simpa using h)
  | .scalar _, .list _ | .scalar _, .object _ => isFalse nofun
  | .list _, .scalar _ | .list _, .object _ => isFalse nofun
  | .object _, .scalar _ | .object _, .list _ => isFalse nofun

/-- Equality of lists of data is decidable. -/
def decEqList : (a b : List Datum) → Decidable (a = b)
  | [], [] => isTrue rfl
  | [], _ :: _ | _ :: _, [] => isFalse nofun
  | x :: xs, y :: ys =>
    match decEq x y, decEqList xs ys with
    | isTrue h, isTrue hs => isTrue (by rw [h, hs])
    | isFalse h, _ => isFalse fun e => h (List.cons.inj e).1
    | _, isFalse hs => isFalse fun e => hs (List.cons.inj e).2

/-- Equality of lists of members is decidable. -/
def decEqMembers : (a b : Members) → Decidable (a = b)
  | [], [] => isTrue rfl
  | [], _ :: _ | _ :: _, [] => isFalse nofun
  | (k, x) :: xs, (l, y) :: ys =>
    match decEq x y, decEqMembers xs ys, inferInstanceAs (Decidable (k = l)) with
    | isTrue h, isTrue hs, isTrue hk => isTrue (by rw [h, hs, hk])
    | isFalse h, _, _ => isFalse fun e => h (Prod.mk.inj (List.cons.inj e).1).2
    | _, isFalse hs, _ => isFalse fun e => hs (List.cons.inj e).2
    | _, _, isFalse hk => isFalse fun e => hk (Prod.mk.inj (List.cons.inj e).1).1

end

instance : DecidableEq Datum := decEq

/-- A text as a datum. -/
def text (s : String) : Datum := .scalar (.text s)

/-- A list of texts. -/
def texts (items : List String) : Datum := .list (items.map text)

/-- The members of an object. -/
def members? : Datum → Option Members
  | .object members => some members
  | _ => none

mutual

/-- A value of JSON as a datum. -/
def ofJson : Json → Datum
  | .null => .scalar .null
  | .bool b => .scalar (.bool b)
  | .int n => .scalar (.int n)
  | .real x => .scalar (.real x)
  | .text s => text s
  | .list items => .list (ofJsonItems items)
  | .object members => .object (ofJsonMembers members)

/-- Values of JSON as data. -/
def ofJsonItems : List Json → List Datum
  | [] => []
  | item :: items => ofJson item :: ofJsonItems items

/-- Members of an object of JSON as members with data. -/
def ofJsonMembers : List (String × Json) → Members
  | [] => []
  | (name, value) :: members => (name, ofJson value) :: ofJsonMembers members

end

/-- Texts are the same data whether they come from JSON or not. -/
@[simp]
theorem ofJson_texts (items : List String) : ofJson (.texts items) = texts items := by
  have hitems : ofJsonItems (items.map .text) = items.map text := by
    induction items with
    | nil => rfl
    | cons item items ih => rw [List.map_cons, ofJsonItems, ih, ofJson, List.map_cons]
  rw [Json.texts, ofJson, hitems, texts]

end Datum

end ContextSlice
