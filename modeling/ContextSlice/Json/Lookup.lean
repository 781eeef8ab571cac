import ContextSlice.Json.Basic

/-!
# Looking values up

A list of values serves as a set in which a value is looked up (`Json.isIn`). Members are compared
by `Json.same`. A list or an object can be neither a member of a set nor looked up in one
(`NotHashable`), so both making a set (`Json.asSet`) and looking up may fail.
-/

namespace ContextSlice

/-- A list or an object stands where a set needs a member. -/
structure NotHashable where
  value : Json
  deriving DecidableEq, Repr

namespace Json

/-- A value as a member of a set. -/
def asMember (value : Json) : Except NotHashable Json :=
  if value.hashable then .ok value else .error ⟨value⟩

/-- Some values as a set. -/
def asSet (values : List Json) : Except NotHashable (List Json) := values.mapM asMember

/-- Whether a value that can be looked up is among the members of a set. -/
def among (set : List Json) (value : Json) : Bool := set.any value.same

/-- Looks a value up in a set. -/
def isIn (set : List Json) (value : Json) : Except NotHashable Bool :=
  (among set) <$> asMember value

/-- The values that are not in a set, in their order. -/
def notIn (set : List Json) : List Json → Except NotHashable (List Json)
  | [] => .ok []
  | value :: values => do
    let found ← isIn set value
    let rest ← notIn set values
    pure (if found then rest else value :: rest)

/-- Whether all values are in a set. Values after the first that is not are not looked at. -/
def allIn (set : List Json) : List Json → Except NotHashable Bool
  | [] => .ok true
  | value :: values => do
    let found ← isIn set value
    if found then allIn set values else pure false

end Json

end ContextSlice
