import ContextSlice.Libraries
import ContextSlice.Notice

/-!
# What the tool offers

A caller of the tool hands its arguments over as one JSON value: an object whose member `symbols`
lists texts. `Tool.description` tells a caller what the tool does and what it takes, and
`Tool.badArguments` what is said about arguments that are not as they should be.
-/

namespace ContextSlice.Tool

/-- The name of the arguments as a model of data. -/
def argumentsName : String := "ASTContextInput"

/-- The name of the member that lists the symbols. -/
def symbolsField : String := "symbols"

/-- What the tool does. -/
def purpose : String :=
  "Fetches a complete contextual slice of the AST for given symbols, including their " ++
    "definitions, dependencies, reverse dependencies, related endpoints, entities, and metadata."

/-- What the symbols are. -/
def symbolsPurpose : String :=
  "An array of symbols (functions, types, variables, resources, etc.) OR file names to fetch " ++
    "from the AST."

/-- The tool as it is offered to callers: its name, what it does, and the schema of its
arguments. -/
def description (reader : ArgumentReader) : Json :=
  .object
    [("name", .text Notice.toolName), ("description", .text purpose),
      ("input_schema", reader.schema argumentsName symbolsField symbolsPurpose)]

/-- What a caller is told about bad arguments. -/
def badArguments (faults : String) : String :=
  s!"Invalid arguments for {Notice.toolName}: {faults}"

end ContextSlice.Tool
