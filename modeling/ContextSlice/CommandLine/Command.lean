import ContextSlice.Json.Basic

/-!
# Commands

What a user can ask for on the command line (`Command`). The settings that a command gives are put
aside as they are typed (`overrides`); whether they are valid is found out when the command runs.
-/

namespace ContextSlice.CommandLine

/-- What a command line asks for. -/
inductive Command where
  | version
  | context (symbols : List String) (overrides : List (String × Json)) (asJson : Bool)
  | resolve (symbols : List String) (overrides : List (String × Json))
  | stats (overrides : List (String × Json))
  | exportGraph (symbols : List String) (overrides : List (String × Json))
    (output : Option String)
  | listSnapshots (overrides : List (String × Json)) (limit : Nat)
  | showSnapshot (name : Option String) (overrides : List (String × Json))
  | showConfig
  | setConfig (name raw : String)
  | resetConfig
  deriving Repr

end ContextSlice.CommandLine
