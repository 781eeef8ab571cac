import ContextSlice.Proofs.Dot.Quotes
import ContextSlice.Proofs.Session.Indexed

/-!
# Graphs that are read back

A graph is a list of statements (`Dot.Statement`), each written on a line of its own: the objects of a
context and its edges (`Session.statements`). A line is read back just if all texts in it are paired
(`Dot.readStatement_line_iff`), and so is a graph (`Session.readGraph_dotText_iff`). Not every document has
paired texts only: a name may end in a backslash (`Session.not_forall_readStatement`).
-/

namespace ContextSlice

namespace Dot

/-! ## Statements -/

/-- What a line of a graph states: an object with its label, in bold or not, or an edge. -/
inductive Statement where
  | node (id label : String) (bold : Bool)
  | edge (edge : Edge)
  deriving DecidableEq, Repr

/-- The line of a statement. -/
def Statement.line : Statement → String
  | .node id label bold => nodeLine id label bold
  | .edge drawn => edgeLine drawn

/-- The texts that stand between double quotes in the line of a statement. -/
def Statement.texts : Statement → List String
  | .node id label _ => [id, label]
  | .edge ⟨source, target, label⟩ => [source, target, label]

/-- The text that a statement begins with. -/
def Statement.start : Statement → String
  | .node id _ _ => id
  | .edge drawn => drawn.source

/-- What follows some characters that are expected. -/
def skip (expected : String) (cs : List Char) : Option (List Char) := cs.dropPrefix? expected.toList

/-- What is expected at the start of a line is skipped. -/
theorem skip_append (expected : String) (rest : List Char) :
    skip expected (expected.toList ++ rest) = some rest :=
  List.dropPrefix?_eq_some_iff.mpr ⟨expected.toList, rfl, BEq.rfl⟩

/-- What an edge is after its first end, and what follows it. -/
def readEdge (source : String) (cs : List Char) : Option (Statement × List Char) := do
  let cs ← skip " -> " cs
  let (target, cs) ← readQuoted cs
  let cs ← skip " [label=" cs
  let (label, cs) ← readQuoted cs
  let cs ← skip "];" cs
  return (.edge ⟨source, target, label⟩, cs)

/-- What an object is after its id, and what follows it. -/
def readNode (id : String) (cs : List Char) : Option (Statement × List Char) := do
  let cs ← skip " [label=" cs
  let (label, cs) ← readQuoted cs
  match skip ", style=bold];" cs with
  | some cs => return (.node id label true, cs)
  | none => return (.node id label false, ← skip "];" cs)

/-- The statement that some characters begin with, and what follows it. -/
def readStatement (cs : List Char) : Option (Statement × List Char) := do
  let cs ← skip "  " cs
  let (id, cs) ← readQuoted cs
  (readEdge id cs).or (readNode id cs)

/-- The statements of some lines before the end of a graph. -/
def readStatements (cs : List Char) : Option (List Statement) :=
  if cs = ['\x7d'] then some []
  else match readStatement cs with
    | some (statement, '\n' :: rest) =>
      if rest.length < cs.length then (readStatements rest).map (statement :: ·) else none
    | _ => none
termination_by cs.length

/-- The statements of a graph. -/
def readGraph (text : String) : Option (List Statement) :=
  (skip "digraph ASTContext \x7b\n  rankdir=LR;\n" text.toList).bind readStatements

section
variable {statement : Statement} {rest rest' : List Char}

/-- The statement of an edge begins with the text that was read before it. -/
theorem start_of_readEdge {source : String} {cs : List Char}
    (h : readEdge source cs = some (statement, rest)) : statement.start = source := by
  simp only [readEdge, Option.bind_eq_bind, Option.bind_eq_some_iff] at h
  obtain ⟨_, _, _, _, _, _, _, _, _, _, heq⟩ := h
  cases heq
  rfl

/-- The statement of a node begins with its id. -/
theorem start_of_readNode {id : String} {cs : List Char}
    (h : readNode id cs = some (statement, rest)) : statement.start = id := by
  simp only [readNode, Option.bind_eq_bind, Option.bind_eq_some_iff] at h
  obtain ⟨_, _, _, _, h⟩ := h
  split at h
  · cases h
    rfl
  · obtain ⟨_, _, heq⟩ := Option.bind_eq_some_iff.mp h
    cases heq
    rfl

/-- A statement that is read after a text begins with that text. -/
theorem start_of_read {start : String} {cs : List Char}
    (h : (readEdge start cs).or (readNode start cs) = some (statement, rest)) :
    statement.start = start := by
  rcases Option.or_eq_some_iff.mp h with h | ⟨-, h⟩
  · exact start_of_readEdge h
  · exact start_of_readNode h

/-- If the text that is read in quotes is one that the result names, then the result is had just if the
text is paired. -/
theorem bind_readQuoted_iff {s : String} {f : String × List Char → Option (Statement × List Char)}
    {result : Statement × List Char} (hf : ∀ text cs, f (text, cs) = some result → text = s) :
    (readQuoted ((quote s).toList ++ rest)).bind f = some result ↔
      Paired s.toList ∧ f (s, rest) = some result := by
  rw [Option.bind_eq_some_iff]
  constructor
  · rintro ⟨⟨text, cs⟩, hread, hresult⟩
    cases hf text cs hresult
    obtain ⟨hpaired, rfl⟩ := readQuoted_quote_iff.mp hread
    exact ⟨hpaired, hresult⟩
  · exact fun ⟨hpaired, hresult⟩ => ⟨_, readQuoted_quote_iff.mpr ⟨hpaired, rfl⟩, hresult⟩

/-- The end of the line of an object. -/
def nodeEnd (bold : Bool) : String := if bold then ", style=bold];" else "];"

/-- The line of a node is read back as this node if, and only if, the backslashes of its label are in pairs. -/
theorem readNode_iff {id label : String} {bold : Bool} :
    readNode id (" [label=".toList ++ ((quote label).toList ++ ((nodeEnd bold).toList ++ rest))) =
        some (.node id label bold, rest') ↔ Paired label.toList ∧ rest' = rest := by
  simp only [readNode, Option.bind_eq_bind, skip_append, Option.bind_some]
  rw [bind_readQuoted_iff]
  · refine and_congr_right fun _ => ?_
    cases bold with
    | true =>
      have hbold : skip ", style=bold];" ((nodeEnd true).toList ++ rest) = some rest := skip_append _ rest
      simp [hbold, eq_comm]
    | false =>
      have hbold : skip ", style=bold];" ((nodeEnd false).toList ++ rest) = none := rfl
      have hend : skip "];" ((nodeEnd false).toList ++ rest) = some rest := skip_append _ rest
      simp [hbold, hend, eq_comm]
  · intro text cs h
    split at h
    · cases h
      rfl
    · obtain ⟨_, _, heq⟩ := Option.bind_eq_some_iff.mp h
      cases heq
      rfl

/-- The line of an edge is read back as this edge if, and only if, the backslashes of its target and its label
are in pairs. -/
theorem readEdge_iff {source target label : String} :
    readEdge source (" -> ".toList ++ ((quote target).toList ++ (" [label=".toList ++
        ((quote label).toList ++ ("];".toList ++ rest))))) = some (.edge ⟨source, target, label⟩, rest') ↔
      Paired target.toList ∧ Paired label.toList ∧ rest' = rest := by
  simp only [readEdge, Option.bind_eq_bind, skip_append, Option.bind_some]
  rw [bind_readQuoted_iff]
  · refine and_congr_right fun _ => ?_
    simp only [skip_append, Option.bind_some]
    rw [bind_readQuoted_iff]
    · refine and_congr_right fun _ => ?_
      simp only [skip_append, Option.bind_some]
      simp [eq_comm]
    · intro text cs h
      obtain ⟨_, _, heq⟩ := Option.bind_eq_some_iff.mp h
      cases heq
      rfl
  · intro text cs h
    simp only [Option.bind_eq_some_iff] at h
    obtain ⟨_, _, _, _, _, _, heq⟩ := h
    cases heq
    rfl

/-- The line of a node as its pieces, which the reader takes one after another. -/
theorem toList_nodeLine (id label : String) (bold : Bool) :
    (nodeLine id label bold).toList = "  ".toList ++ ((quote id).toList ++ (" [label=".toList ++
      ((quote label).toList ++ (nodeEnd bold).toList))) := by
  cases bold <;> simp [nodeLine, nodeEnd]

theorem toList_edgeLine (edge : Edge) :
    (edgeLine edge).toList = "  ".toList ++ ((quote edge.source).toList ++ (" -> ".toList ++
      ((quote edge.target).toList ++ (" [label=".toList ++ ((quote edge.label).toList ++
        "];".toList))))) := by
  simp [edgeLine]

/-- A line is read as the statement that it was written for just if all its texts are paired, and then it
is read to its end. -/
theorem readStatement_line_iff :
    readStatement (statement.line.toList ++ rest) = some (statement, rest') ↔
      (∀ text ∈ statement.texts, Paired text.toList) ∧ rest' = rest := by
  cases statement with
  | node id label bold =>
    simp only [readStatement, Option.bind_eq_bind, Statement.line, toList_nodeLine, List.append_assoc,
      skip_append, Option.bind_some]
    rw [bind_readQuoted_iff]
    · have hedge : readEdge id (" [label=".toList ++ ((quote label).toList ++
          ((nodeEnd bold).toList ++ rest))) = none := rfl
      dsimp only
      rw [hedge, Option.none_or, readNode_iff]
      simp [Statement.texts, and_assoc]
    · exact fun _ _ h => (start_of_read h).symm
  | edge drawn =>
    simp only [readStatement, Option.bind_eq_bind, Statement.line, toList_edgeLine, List.append_assoc,
      skip_append, Option.bind_some]
    rw [bind_readQuoted_iff]
    · have hnode : readNode drawn.source (" -> ".toList ++ ((quote drawn.target).toList ++
          (" [label=".toList ++ ((quote drawn.label).toList ++ ("];".toList ++ rest))))) = none := rfl
      dsimp only
      rw [hnode, Option.or_none, readEdge_iff]
      simp [Statement.texts, and_assoc]
    · exact fun _ _ h => (start_of_read h).symm

/-- A graph ends every line but the last. -/
theorem toList_graph (lines : List String) :
    (graph lines).toList = "digraph ASTContext \x7b\n  rankdir=LR;\n".toList ++
      (lines.flatMap (fun line => line.toList ++ ['\n']) ++ ['\x7d']) := by
  have hlines : ∀ first, ("\n".intercalate (first :: (lines ++ ["\x7d"]))).toList =
      first.toList ++ '\n' :: (lines.flatMap (fun line => line.toList ++ ['\n']) ++ ['\x7d']) := by
    induction lines with
    | nil => simp [String.intercalate_cons_cons]
    | cons line lines ih => intro first; simp [String.intercalate_cons_cons, ih]
  rw [graph]
  simp [String.intercalate_cons_cons, hlines]

/-- A line before others is read if it is a line of its statement, and the others are read. -/
theorem readStatements_line_iff {statements : List Statement} :
    readStatements (statement.line.toList ++ '\n' :: rest) = some (statement :: statements) ↔
      (∀ text ∈ statement.texts, Paired text.toList) ∧ readStatements rest = some statements := by
  have hend : statement.line.toList ++ '\n' :: rest ≠ ['\x7d'] := by
    cases statement <;> simp [Statement.line, toList_nodeLine, toList_edgeLine]
  rw [readStatements, if_neg hend]
  constructor
  · intro h
    split at h
    next first others hread =>
      split at h
      next =>
        obtain ⟨_, hothers, heq⟩ := Option.map_eq_some_iff.mp h
        cases heq
        obtain ⟨hpaired, heq⟩ := readStatement_line_iff.mp hread
        cases heq
        exact ⟨hpaired, hothers⟩
      next => cases h
    next => cases h
  · rintro ⟨hpaired, hrest⟩
    have hshorter : rest.length < (statement.line.toList ++ '\n' :: rest).length := by
      rw [List.length_append, List.length_cons]
      omega
    rw [readStatement_line_iff.mpr ⟨hpaired, rfl⟩]
    change (if _ then (readStatements rest).map _ else none) = _
    rw [if_pos hshorter, hrest, Option.map_some]

/-- A graph is read as the statements that it was written for just if all their texts are paired. -/
theorem readGraph_graph_iff {statements : List Statement} :
    readGraph (graph (statements.map Statement.line)) = some statements ↔
      ∀ statement ∈ statements, ∀ text ∈ statement.texts, Paired text.toList := by
  rw [readGraph, toList_graph, skip_append, Option.bind_some]
  induction statements with
  | nil => simp [readStatements]
  | cons statement statements ih =>
    rw [List.map_cons, List.flatMap_cons, List.append_assoc, List.append_assoc, List.singleton_append,
      readStatements_line_iff, ih, List.forall_mem_cons]

end

end Dot

/-! ## The graph of a context -/

namespace Session

open Dot

/-- The statements of the graph of a request's context. -/
def statements (session : Session) (symbols : List Json) : List Statement :=
  let context := session.contextIds symbols
  ((session.index.sortIds context).filterMap fun id => (session.index.node? id).map fun node =>
    .node id (session.dotLabel id node) ((session.seeds symbols).contains id)) ++
  (session.edges context).map .edge

/-- The graph of a request is written line by line from its statements. -/
theorem dotText_eq (session : Session) (symbols : List Json) :
    session.dotText symbols = graph ((session.statements symbols).map Statement.line) := by
  rw [dotText, statements, nodeLines, List.map_append, List.map_map, List.map_filterMap]
  simp only [Option.map_map]
  rfl

/-- Every text in a graph is scanned up to its closing quote just if it is paired, and then it is read
back; a line is read as its statement just if all its texts are paired, whatever follows it, and the whole
graph just if all texts in it are. -/
theorem readGraph_dotText_iff (document : Document) (settings : Settings) (symbols : List Json) :
    let session := ofDocument document settings
    session.dotText symbols = graph ((session.statements symbols).map Statement.line) ∧
      (∀ statement ∈ session.statements symbols,
        (∀ text ∈ statement.texts, ∀ rest : List Char,
          ((∃ read, readQuoted ((quote text).toList ++ rest) = some (read, rest)) ↔
            Paired text.toList) ∧
          (Paired text.toList → readQuoted ((quote text).toList ++ rest) = some (text, rest))) ∧
        ∀ rest : List Char,
          readStatement (statement.line.toList ++ rest) = some (statement, rest) ↔
            ∀ text ∈ statement.texts, Paired text.toList) ∧
      (readGraph (session.dotText symbols) = some (session.statements symbols) ↔
        ∀ statement ∈ session.statements symbols, ∀ text ∈ statement.texts, Paired text.toList) := by
  intro session
  refine ⟨dotText_eq session symbols, fun statement _ => ⟨fun text _ rest =>
    ⟨exists_readQuoted_quote_iff, fun hpaired => readQuoted_quote_iff.mpr ⟨hpaired, rfl⟩⟩,
    fun rest => ?_⟩, ?_⟩
  · rw [readStatement_line_iff, and_iff_left rfl]
  · rw [dotText_eq, readGraph_graph_iff]

/-- A document with one object, of the given name. -/
def named (name : String) : Document := .ofJson <| .object
  [("modules", .list [.object [("id", .text "a"), ("name", .text name)]])]

theorem nodes_named (name : String) :
    (named name).nodes = [⟨0, none, [.member "modules", .position 0]⟩] := by
  cbv

/-- The object of such a document is stated with its name. -/
theorem exists_node_mem_statements : ∃ bold,
    .node "a" "node\\nx\\" bold ∈ (ofDocument (named "x\\") {}).statements [.text "a"] := by
  have hnode : (ofDocument (named "x\\") {}).index.node? "a" = some 0 := by
    simp only [ofDocument, Index.ofDocument, nodes_named]
    decide
  have hlabel : (ofDocument (named "x\\") {}).dotLabel "a" 0 = "node\\nx\\" := by decide
  have hhas := Index.node?_isSome_iff.mp (Option.isSome_of_eq_some hnode)
  have hsorted := Index.mem_sortIds.mpr ⟨mem_contextIds_self hhas, hhas⟩
  exact ⟨_, List.mem_append_left _ (List.mem_filterMap.mpr
    ⟨"a", hsorted, by rw [hnode, Option.map_some, hlabel]⟩)⟩

/-- Not every line is read back: if a name ends in a backslash, then this makes a pair with the closing quote. -/
theorem not_forall_readStatement :
    ¬ ∀ (document : Document) (settings : Settings) (symbols : List Json),
      ∀ statement ∈ (ofDocument document settings).statements symbols,
        readStatement statement.line.toList = some (statement, []) := by
  intro h
  obtain ⟨bold, hm⟩ := exists_node_mem_statements
  have hread := h _ _ _ _ hm
  rw [← List.append_nil (Statement.line _).toList, readStatement_line_iff] at hread
  have hpaired : Paired "node\\nx\\".toList := hread.1 _ (List.mem_pair.mpr (.inr rfl))
  revert hpaired
  decide

end Session

end ContextSlice
