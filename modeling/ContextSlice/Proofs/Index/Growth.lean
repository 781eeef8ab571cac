import ContextSlice.Proofs.Document.Lengthened
import ContextSlice.Proofs.Index.Entries

/-!
# Indexes of documents that grow

If a document grows to another one (`Document.GrowsTo`), then its entries are the first ones of the other
one's (`Index.prefix_entries`). So its objects keep their ids and files (`Index.agrees_of_growsTo`), and
its ids come before those that are new, as a whole, under each name and in each file. The object that is
found under an id may be another one, since the last one registered is found.
-/

namespace ContextSlice

namespace Document

variable {left right : Document} {node : Nat}

/-- Of an object that is unchanged the same is read. -/
theorem member?_of_unchanged (h : right.containers[node]? = left.containers[node]?) :
    right.member? node = left.member? node := by
  funext name
  rw [member?, member?, members, members, h]

/-- An object that has not changed has the same texts. -/
theorem textMember?_of_unchanged (h : right.containers[node]? = left.containers[node]?)
    (names : List String) : right.textMember? node names = left.textMember? node names := by
  simp only [textMember?, member?_of_unchanged h]

end Document

namespace Index

section
variable {left right : Document} (h : left.GrowsTo right) {settings : Settings} {visit : Visit}
include h

/-- The entry of an object that is unchanged is made in the same way. -/
theorem registration_of_growsTo (hv : visit ∈ left.nodes) (index : Index) :
    registration right settings index visit = registration left settings index visit := by
  have hsame := h.unchanged visit hv
  simp only [registration, Document.statedId?, Document.textMember?_of_unchanged hsame,
    Document.member?_of_unchanged hsame]

/-- When its first objects have been registered, the index is that of the document before. -/
theorem extend_of_growsTo : extend right settings {} left.nodes = ofDocument left settings :=
  List.foldl_ext _ _ _ fun index _ hv => congrArg index.register (registration_of_growsTo h hv index)

/-- The objects that were there before have the ids and the files that they had. -/
theorem agrees_of_growsTo (hv : visit ∈ left.nodes) :
    (ofDocument left settings).idOf? visit.node = (ofDocument right settings).idOf? visit.node ∧
      (ofDocument left settings).sourceOf? visit.node = (ofDocument right settings).sourceOf? visit.node := by
  obtain ⟨rest, hrest⟩ := h.nodes
  rw [← extend_of_growsTo h]
  exact extend_agrees right settings hrest.symm (List.mem_map_of_mem hv)

/-- The first entries are those of the document before. -/
theorem prefix_entries : entries left settings <+: entries right settings := by
  obtain ⟨rest, hrest⟩ := h.nodes
  have hentries : entries left settings =
      left.nodes.map (registration right settings (ofDocument right settings)) := by
    rw [entries_eq_map]
    refine List.map_congr_left fun visit hv => ?_
    rw [registration_of_growsTo h hv]
    refine registration_congr left settings fun outer ho => ?_
    obtain ⟨before, after, hn⟩ := List.append_of_mem hv
    obtain ⟨holder, hb, rfl⟩ := List.mem_map.mp (Document.mem_before_of_parent hn ho)
    exact agrees_of_growsTo h (hn ▸ List.mem_append_left _ hb)
  rw [hentries, entries_eq_map, ← hrest, List.map_append]
  exact List.prefix_append _ _

/-- The ids come before those that are new. -/
theorem prefix_keys : (ofDocument left settings).keys <+: (ofDocument right settings).keys := by
  rw [keys_eq_distinct, keys_eq_distinct]
  exact prefix_distinct ((prefix_entries h).map _)

/-- The ids with a name come before those that are new. -/
theorem prefix_idsNamed (name : String) :
    (ofDocument left settings).idsNamed name <+: (ofDocument right settings).idsNamed name := by
  rw [idsNamed_ofDocument, idsNamed_ofDocument]
  exact prefix_distinct (((prefix_entries h).filter _).map _)

/-- The ids in a file come before those that are new. -/
theorem prefix_idsInFile (file : String) :
    (ofDocument left settings).idsInFile file <+: (ofDocument right settings).idsInFile file := by
  rw [idsInFile_ofDocument, idsInFile_ofDocument]
  exact prefix_distinct (((prefix_entries h).filter _).map _)

end

end Index

end ContextSlice
