import ContextSlice.Proofs.Document.Holders
import ContextSlice.Proofs.Document.Tree
import ContextSlice.Proofs.Index.Anchors
import Mathlib

/-!
# Ids and files along paths

While a document is indexed, an object's id and file are made of those of the object around it. In the end
they are what the path to the object says (`Index.along_of_mem_nodes`): its id is the one that the nearest
object on the path states, followed by the rest of the path (`Document.idAlong`), and its file is the one
that the nearest object names (`Document.fileAlong`). In the document of a JSON value there is one such
path to every object (`Index.along_ofJson`).
-/

namespace ContextSlice

namespace Document

section
variable (doc : Document)

/-- The id that the nearest object on a path states, followed by the rest of the path; without such an
object, the whole path after the id that stands for where the document begins. -/
def idAlong (path : List PathPart) : String :=
  ((doc.holders doc.root path).findSome? fun holder =>
    (doc.statedId? holder.1).map (renderPath · holder.2)).getD (renderPath rootId path)

/-- The file that the nearest object on a path names. -/
def fileAlong (settings : Settings) (path : List PathPart) : Option String :=
  (doc.holders doc.root path).findSome? fun holder => doc.textMember? holder.1 settings.fileFields

end

section
variable {doc : Document} {node : Nat} {path more : List PathPart}

/-- There is no file along a path if no object on it names one. -/
theorem fileAlong_eq_none_iff (settings : Settings) :
    doc.fileAlong settings path = none ↔
      ∀ holder ∈ doc.holders doc.root path, doc.textMember? holder.1 settings.fileFields = none :=
  List.findSome?_eq_none_iff

/-- Where a path leads to the only object on it, that one states the id, or nothing does. -/
theorem idAlong_of_singleton (h : doc.holders doc.root path = [(node, [])]) :
    doc.idAlong path = (doc.statedId? node).getD (renderPath rootId path) := by
  rw [idAlong, h, List.findSome?_singleton]
  cases doc.statedId? node with
  | none => rfl
  | some id => simp [renderPath]

/-- Where one object alone is on the path, the file is what it names. -/
theorem fileAlong_of_singleton (h : doc.holders doc.root path = [(node, [])]) (settings : Settings) :
    doc.fileAlong settings path = doc.textMember? node settings.fileFields := by
  rw [fileAlong, h, List.findSome?_singleton]

/-- Where a path goes on to one more object, that one states the id, or the rest of the path follows the
id along the path before. -/
theorem idAlong_append (h : doc.holders doc.root (path ++ more) =
      (node, []) :: (doc.holders doc.root path).map fun holder => (holder.1, holder.2 ++ more)) :
    doc.idAlong (path ++ more) = (doc.statedId? node).getD (renderPath (doc.idAlong path) more) := by
  have hrest : ∀ holders : List (Nat × List PathPart),
      ((holders.map fun holder => (holder.1, holder.2 ++ more)).findSome? fun holder =>
          (doc.statedId? holder.1).map (renderPath · holder.2)) =
        (holders.findSome? fun holder =>
          (doc.statedId? holder.1).map (renderPath · holder.2)).map (renderPath · more) := by
    intro holders
    rw [List.findSome?_map, List.map_findSome?]
    congr 1
    funext holder
    rw [Function.comp_apply, Function.comp_apply, Option.map_map]
    exact congrArg (Option.map · _) (funext fun id => (renderPath_renderPath id holder.2 more).symm)
  rw [idAlong, h, List.findSome?_cons]
  cases doc.statedId? node with
  | some id => simp [renderPath]
  | none =>
    rw [Option.map_none, hrest, Option.getD_none, idAlong, ← renderPath_renderPath]
    exact Option.getD_map (renderPath · more) _ _

/-- A further object on the path counts before those around it. -/
theorem fileAlong_append (h : doc.holders doc.root (path ++ more) =
      (node, []) :: (doc.holders doc.root path).map fun holder => (holder.1, holder.2 ++ more))
    (settings : Settings) :
    doc.fileAlong settings (path ++ more) =
      (doc.textMember? node settings.fileFields).or (doc.fileAlong settings path) := by
  rw [fileAlong, h, List.findSome?_cons, List.findSome?_map]
  cases doc.textMember? node settings.fileFields <;> rfl

end

end Document

namespace Index

section
variable {doc : Document} {settings : Settings} {visit : Visit}

/-- The file of an object is not the empty text. -/
theorem sourceOf?_ne_empty (hv : visit ∈ doc.nodes) {file : String}
    (h : (ofDocument doc settings).sourceOf? visit.node = some file) : file ≠ "" := by
  rw [sourceOf?_ofDocument hv] at h
  simpa using (Option.filter_eq_some_iff.mp h).2

/-- The file of an object is the one that it names, or else the file of the object around it. -/
theorem sourceOf?_visit (hv : visit ∈ doc.nodes) :
    (ofDocument doc settings).sourceOf? visit.node =
      (doc.textMember? visit.node settings.fileFields).or
        (visit.parent.bind (ofDocument doc settings).sourceOf?) := by
  have hfile : (registration doc settings (ofDocument doc settings) visit).file =
      (doc.textMember? visit.node settings.fileFields).or
        (visit.parent.bind (ofDocument doc settings).sourceOf?) := Option.orElse_eq_or
  rw [sourceOf?_ofDocument hv, hfile]
  cases hown : doc.textMember? visit.node settings.fileFields with
  | some file =>
    rw [Option.some_or, Option.filter_some_pos]
    exact decide_eq_true (Document.textMember?_ne_empty hown)
  | none =>
    rw [Option.none_or]
    cases hsource : visit.parent.bind (ofDocument doc settings).sourceOf? with
    | none => rfl
    | some file =>
      obtain ⟨outer, ho, hs⟩ := Option.bind_eq_some_iff.mp hsource
      obtain ⟨holder, hh, rfl⟩ := Document.exists_mem_nodes_of_parent hv ho
      rw [Option.filter_some_pos]
      exact decide_eq_true (sourceOf?_ne_empty hh hs)

/-- A path leads to every object to be indexed, and the object's id and file are those that the nearest
objects on the path give. -/
theorem along_of_mem_nodes (hd : doc.DistinctNames) (ha : doc.RootApart) (settings : Settings)
    (hv : visit ∈ doc.nodes) :
    ∃ path, doc.follow? doc.root path = some (.ref visit.node) ∧
      (ofDocument doc settings).idOf? visit.node = some (doc.idAlong path) ∧
      (ofDocument doc settings).sourceOf? visit.node = doc.fileAlong settings path := by
  refine Document.nodes_induction (motive := fun node => ∃ path,
    doc.follow? doc.root path = some (.ref node) ∧
      (ofDocument doc settings).idOf? node = some (doc.idAlong path) ∧
      (ofDocument doc settings).sourceOf? node = doc.fileAlong settings path)
    (fun visit hv ho => ?_) (fun visit hv outer ho ih => ?_) hv
  · obtain ⟨hleads, hholders⟩ := Document.holders_of_top hd ha hv ho
    refine ⟨visit.path, hleads, ?_, ?_⟩
    · rw [idOf?_visit hv, pathId, ho, Document.idAlong_of_singleton hholders]
      rfl
    · rw [sourceOf?_visit hv, ho, Document.fileAlong_of_singleton hholders]
      exact Option.or_none
  · obtain ⟨path, hf, hid, hsource⟩ := ih
    obtain ⟨hleads, hholders⟩ := Document.holders_of_inner hd hv ho hf
    refine ⟨path ++ visit.path, hleads, ?_, ?_⟩
    · rw [idOf?_visit hv, pathId, ho, Option.bind_some, hid, Document.idAlong_append hholders]
      rfl
    · rw [sourceOf?_visit hv, ho, Option.bind_some, hsource, Document.fileAlong_append hholders]

/-- In the document of a JSON value one path leads to every object to be indexed. Its id is the one that
the nearest object on the path states, followed by the rest of the path, and its file is the one that the
nearest object names; it has none if no object on the path names one. -/
theorem along_ofJson {value : Json} (hd : value.DistinctNames) (settings : Settings) {visit : Visit}
    (hv : visit ∈ (Document.ofJson value).nodes) :
    ∃ path,
      (∀ other, (Document.ofJson value).follow? (Document.ofJson value).root other =
          some (.ref visit.node) ↔ other = path) ∧
        (ofDocument (Document.ofJson value) settings).idOf? visit.node =
          some ((Document.ofJson value).idAlong path) ∧
        (ofDocument (Document.ofJson value) settings).sourceOf? visit.node =
          (Document.ofJson value).fileAlong settings path ∧
        ((ofDocument (Document.ofJson value) settings).sourceOf? visit.node = none ↔
          ∀ holder ∈ (Document.ofJson value).holders (Document.ofJson value).root path,
            (Document.ofJson value).textMember? holder.1 settings.fileFields = none) := by
  obtain ⟨path, hf, hid, hsource⟩ := along_of_mem_nodes (Document.distinctNames_ofJson hd)
    (Document.rootApart_of_stacked (Document.stacked_ofJson value)) settings hv
  refine ⟨path, fun other => ⟨fun ho => ?_, fun ho => ho ▸ hf⟩, hid, hsource, ?_⟩
  · exact (Document.isTree_ofJson value).path_unique ho hf
  · rw [hsource, Document.fileAlong_eq_none_iff]

end

/-- A module in a list of lists, with an object in a file of its own and one without id or file in that. -/
def nestedModules : Json :=
  .object [("modules", .list [.list [.object [("id", .text "m"), ("file", .text "a.py"),
    ("body", .list [.object [("file", .text "b.py"), ("parts", .list [.object []])]])]]])]

theorem distinctNames_nestedModules : nestedModules.DistinctNames := by
  have htext (s : String) : (Json.text s).DistinctNames := .leaf rfl
  have hlist {value : Json} (h : value.DistinctNames) : (Json.list [value]).DistinctNames :=
    .list (List.forall_mem_singleton.mpr h)
  refine .object (by decide) (List.forall_mem_singleton.mpr (hlist (hlist (.object (by decide) ?_))))
  refine List.forall_mem_cons.mpr ⟨htext "m", List.forall_mem_cons.mpr ⟨htext "a.py",
    List.forall_mem_singleton.mpr (hlist (.object (by decide) ?_))⟩⟩
  refine List.forall_mem_cons.mpr ⟨htext "b.py", List.forall_mem_singleton.mpr (hlist ?_)⟩
  exact .object List.nodup_nil fun _ h => absurd h List.not_mem_nil

theorem nodes_nestedModules : (Document.ofJson nestedModules).nodes =
    [⟨4, none, [.member "modules", .position 0, .position 0]⟩,
      ⟨2, some 4, [.member "body", .position 0]⟩, ⟨0, some 2, [.member "parts", .position 0]⟩] := by
  cbv

/-- The innermost object has its id from the module and its file from the object between. -/
theorem along_nestedModules : nestedModules.DistinctNames ∧
    (ofDocument (Document.ofJson nestedModules) {}).idOf? 0 = some "m.body[0].parts[0]" ∧
    (ofDocument (Document.ofJson nestedModules) {}).sourceOf? 0 = some "b.py" := by
  have hv : ⟨0, some 2, [.member "parts", .position 0]⟩ ∈ (Document.ofJson nestedModules).nodes := by
    rw [nodes_nestedModules]
    decide
  obtain ⟨path, hpath, hid, hsource, -⟩ := along_ofJson distinctNames_nestedModules {} hv
  obtain rfl := (hpath [.member "modules", .position 0, .position 0, .member "body", .position 0,
    .member "parts", .position 0]).mp (by decide)
  have hholders : (Document.ofJson nestedModules).holders (Document.ofJson nestedModules).root
      [.member "modules", .position 0, .position 0, .member "body", .position 0, .member "parts",
        .position 0] =
      [(0, []), (2, [.member "parts", .position 0]),
        (4, [.member "body", .position 0, .member "parts", .position 0])] := by
    simp only [Document.holders, Document.indexed?, nodes_nestedModules]
    decide
  refine ⟨distinctNames_nestedModules, hid.trans ?_, hsource.trans ?_⟩
  · rw [Document.idAlong, hholders]
    decide
  · rw [Document.fileAlong, hholders]
    decide

end Index

end ContextSlice
