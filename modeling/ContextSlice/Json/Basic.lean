import ContextSlice.Assoc
import ContextSlice.Decimal.Double

/-!
# JSON values

The values of a JSON text (`Json`). Whole numbers are unbounded and kept apart from numbers with
a fraction or an exponent; the members of an object keep their order. Besides equality
(`Json.decEq`) there is the looser `Json.same`, which compares numbers of all kinds by value and
counts the truth values as one and zero; it is what membership in a set of values goes by, and a
list or an object cannot be asked for there (`Json.hashable`).
-/

namespace ContextSlice

/-- A JSON value. -/
inductive Json where
  | null
  | bool (b : Bool)
  | int (n : Int)
  | real (x : Double)
  | text (s : String)
  | list (items : List Json)
  | object (members : List (String × Json))
  deriving Repr, Inhabited

namespace Json

mutual

/-- Equality of values is decidable. -/
def decEq : (a b : Json) → Decidable (a = b)
  | .null, .null => isTrue rfl
  | .bool a, .bool b => decidable_of_iff (a = b) (by simp)
  | .int a, .int b => decidable_of_iff (a = b) (by simp)
  | .real a, .real b => decidable_of_iff (a = b) (by simp)
  | .text a, .text b => decidable_of_iff (a = b) (by simp)
  | .list a, .list b =>
    match decEqList a b with
    | isTrue h => isTrue (by rw [h])
    | isFalse h => isFalse (by simpa using h)
  | .object a, .object b =>
    match decEqMembers a b with
    | isTrue h => isTrue (by rw [h])
    | isFalse h => isFalse (by simpa using h)
  | .null, .bool _ | .null, .int _ | .null, .real _ | .null, .text _ | .null, .list _
  | .null, .object _ => isFalse nofun
  | .bool _, .null | .bool _, .int _ | .bool _, .real _ | .bool _, .text _ | .bool _, .list _
  | .bool _, .object _ => isFalse nofun
  | .int _, .null | .int _, .bool _ | .int _, .real _ | .int _, .text _ | .int _, .list _
  | .int _, .object _ => isFalse nofun
  | .real _, .null | .real _, .bool _ | .real _, .int _ | .real _, .text _ | .real _, .list _
  | .real _, .object _ => isFalse nofun
  | .text _, .null | .text _, .bool _ | .text _, .int _ | .text _, .real _ | .text _, .list _
  | .text _, .object _ => isFalse nofun
  | .list _, .null | .list _, .bool _ | .list _, .int _ | .list _, .real _ | .list _, .text _
  | .list _, .object _ => isFalse nofun
  | .object _, .null | .object _, .bool _ | .object _, .int _ | .object _, .real _
  | .object _, .text _ | .object _, .list _ => isFalse nofun

/-- Equality of lists of values is decidable. -/
def decEqList : (a b : List Json) → Decidable (a = b)
  | [], [] => isTrue rfl
  | [], _ :: _ | _ :: _, [] => isFalse nofun
  | x :: xs, y :: ys =>
    match decEq x y, decEqList xs ys with
    | isTrue h, isTrue hs => isTrue (by rw [h, hs])
    | isFalse h, _ => isFalse fun e => h (List.cons.inj e).1
    | _, isFalse hs => isFalse fun e => hs (List.cons.inj e).2

/-- Equality of lists of members is decidable. -/
def decEqMembers : (a b : List (String × Json)) → Decidable (a = b)
  | [], [] => isTrue rfl
  | [], _ :: _ | _ :: _, [] => isFalse nofun
  | (k, x) :: xs, (l, y) :: ys =>
    match decEq x y, decEqMembers xs ys, inferInstanceAs (Decidable (k = l)) with
    | isTrue h, isTrue hs, isTrue hk => isTrue (by rw [h, hs, hk])
    | isFalse h, _, _ => isFalse fun e => h (Prod.mk.inj (List.cons.inj e).1).2
    | _, isFalse hs, _ => isFalse fun e => hs (List.cons.inj e).2
    | _, _, isFalse hk => isFalse fun e => hk (Prod.mk.inj (List.cons.inj e).1).1

end

instance : DecidableEq Json := decEq

/-- The object with these members, the last of equal keys at the place of the first. -/
def ofMembers (members : List (String × Json)) : Json := .object (Assoc.ofPairs members)

/-- A list of texts. -/
def texts (items : List String) : Json := .list (items.map .text)

/-- The text that a value is. -/
def text? : Json → Option String
  | .text s => some s
  | _ => none

/-- The members of an object. -/
def members? : Json → Option (List (String × Json))
  | .object members => some members
  | _ => none

/-- The value of an object's member. -/
def member? (value : Json) (key : String) : Option Json := value.members?.bind (·.lookup key)

/-- Whether a value says something: null, false, zeros and empty values do not. -/
def truthy : Json → Bool
  | .null => false
  | .bool b => b
  | .int n => n ≠ 0
  | .real x => !x.isZero
  | .text s => s ≠ ""
  | .list items => !items.isEmpty
  | .object members => !members.isEmpty

/-- The items of a list, the characters of a text or the keys of an object, as a list. -/
def elements? : Json → Option (List Json)
  | .list items => some items
  | .text s => some (s.toList.map fun c => .text (String.singleton c))
  | .object members => some (members.map fun member => .text member.1)
  | _ => none

mutual

/-- How many lists and objects there are at most around each other in a value. -/
def nesting : Json → Nat
  | .list items => nestingOfItems items + 1
  | .object members => nestingOfMembers members + 1
  | _ => 0

/-- The greatest nesting of some values. -/
def nestingOfItems : List Json → Nat
  | [] => 0
  | item :: items => max (nesting item) (nestingOfItems items)

/-- The greatest nesting of the values of some members. -/
def nestingOfMembers : List (String × Json) → Nat
  | [] => 0
  | (_, value) :: members => max (nesting value) (nestingOfMembers members)

end

mutual

/-- The parts of a value that have no parts themselves, in their order. -/
def leaves : Json → List Json
  | .list items => leavesOfItems items
  | .object members => leavesOfMembers members
  | leaf => [leaf]

/-- The leaves of some values. -/
def leavesOfItems : List Json → List Json
  | [] => []
  | item :: items => leaves item ++ leavesOfItems items

/-- The leaves of the values of some members. -/
def leavesOfMembers : List (String × Json) → List Json
  | [] => []
  | (_, value) :: members => leaves value ++ leavesOfMembers members

end

/-- Whether a value can be looked up in a set. -/
def hashable : Json → Bool
  | .list _ | .object _ => false
  | _ => true

/-- The number that a value counts as: a whole number, or a double that is none. -/
def number? : Json → Option (Int ⊕ Double)
  | .bool b => some (.inl (if b then 1 else 0))
  | .int n => some (.inl n)
  | .real x => some (match x.toInt? with | some n => .inl n | none => .inr x)
  | _ => none

/-- Whether two values that can be looked up are the same to a set: numbers go by their value,
whatever their kind, and what is no number is the same as itself. -/
def same (a b : Json) : Bool :=
  match a.number?, b.number? with
  | some m, some n => m = n
  | none, none => a = b
  | _, _ => false

end Json

end ContextSlice
