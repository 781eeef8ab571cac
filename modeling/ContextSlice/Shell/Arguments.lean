import ContextSlice.Json.Display
import ContextSlice.Libraries

/-!
# Reading the arguments of the tool

The reader of arguments that the program runs with (`Shell.argumentReader`). It tells all faults of the
arguments at once (`ArgumentFault`), and describes them by a schema.
-/

namespace ContextSlice.Shell

/-- What is wrong with the arguments for a model: they are no object, a member is missing or is no
list, or the item at a position of it is no text. -/
inductive ArgumentFault where
  | notObject (model : String) (given : Json)
  | missing (name : String) (given : Json)
  | notList (name : String) (given : Json)
  | notText (name : String) (position : Nat) (given : Json)

namespace ArgumentFault

/-- The short name of a fault. -/
def code : ArgumentFault → String
  | .notObject .. => "model_type"
  | .missing .. => "missing"
  | .notList .. => "list_type"
  | .notText .. => "string_type"

/-- Where in the arguments a fault is. -/
def place : ArgumentFault → String
  | .notObject .. => "()"
  | .missing name _ | .notList name _ => s!"('{name}',)"
  | .notText name position _ => s!"('{name}', {position})"

/-- What a message says about a fault. -/
def message : ArgumentFault → String
  | .notObject model _ => s!"Input should be a valid dictionary or instance of {model}"
  | .missing .. => "Field required"
  | .notList .. => "Input should be a valid list"
  | .notText .. => "Input should be a valid string"

/-- The value at fault. -/
def given : ArgumentFault → Json
  | .notObject _ given | .missing _ given | .notList _ given | .notText _ _ given => given

/-- What a report adds about a fault. -/
def addition : ArgumentFault → String
  | .notObject model _ => ", 'ctx': " ++ (Json.object [("class_name", .text model)]).display
  | _ => ""

/-- All about one fault. -/
def report (fault : ArgumentFault) : String :=
  "\x7b'type': '" ++ fault.code ++ "', 'loc': " ++ fault.place ++ ", 'msg': '" ++ fault.message ++
    "', 'input': " ++ fault.given.display ++ fault.addition ++ "\x7d"

end ArgumentFault

/-- The faults of the items of a list, counted from `position`. -/
def argumentFaults (name : String) (position : Nat) : List Json → List ArgumentFault
  | [] => []
  | .text _ :: items => argumentFaults name (position + 1) items
  | item :: items => .notText name position item :: argumentFaults name (position + 1) items

/-- The texts in some arguments, or all that is wrong with these. -/
def readArguments (model name : String) (arguments : Json) :
    Except (List ArgumentFault) (List String) :=
  match arguments with
  | .object members =>
    match members.lookup name with
    | none => .error [.missing name arguments]
    | some (.list items) =>
      match argumentFaults name 0 items with
      | [] => .ok (items.filterMap Json.text?)
      | faults => .error faults
    | some other => .error [.notList name other]
  | _ => .error [.notObject model arguments]

/-- A name with a capital letter at its start. -/
def titleOf (name : String) : String :=
  match name.toList with
  | [] => ""
  | c :: cs => String.ofList (c.toUpper :: cs)

/-- The schema of an object with one member that lists texts. -/
def schema (model name purpose : String) : Json :=
  let texts : Json := .object
    [("description", .text purpose), ("items", .object [("type", .text "string")]),
      ("title", .text (titleOf name)), ("type", .text "array")]
  .object
    [("properties", .object [(name, texts)]), ("required", .texts [name]), ("title", .text model),
      ("type", .text "object")]

/-- The reader of arguments. -/
def argumentReader : ArgumentReader where
  read model name arguments :=
    (readArguments model name arguments).mapError fun faults =>
      "[" ++ ", ".intercalate (faults.map ArgumentFault.report) ++ "]"
  schema := schema

end ContextSlice.Shell
