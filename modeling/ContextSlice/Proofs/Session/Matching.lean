import ContextSlice.Proofs.Index.Entries
import ContextSlice.Proofs.Session.Resolution
import ContextSlice.Proofs.Text.LowerCase

/-!
# Which objects a symbol describes

The strategies look for symbols among the keys of an index, where a name has two spellings and a
file has as many as there are in the document. What they find is told here object by object
(`Session.Describes`): besides its own id a symbol stands for the ids of the objects whose name
overlaps with it in lower case, or whose file it is the name of (`Session.exists_mem_hits_iff`). As lower
case is the same when taken twice (`Text.lower_lower`), the spelling under which an object's name is
found does not matter (`Session.mem_lowercase_hits`, `Session.mem_substring_hits`).
-/

namespace ContextSlice

namespace Index

/-- Ids are found by a name that the index has. -/
theorem mem_keys_of_mem_idsNamed {index : Index} {key id : String} (h : id ∈ index.idsNamed key) :
    key ∈ Assoc.keys index.names := by
  obtain ⟨node, hn, -⟩ := List.mem_filterMap.mp (mem_distinct.mp h)
  exact Assoc.mem_keys_of_mem_collected hn

/-- Ids are found in a file that the index has. -/
theorem mem_keys_of_mem_idsInFile {index : Index} {file id : String}
    (h : id ∈ index.idsInFile file) : file ∈ Assoc.keys index.files := by
  obtain ⟨node, hn, -⟩ := List.mem_filterMap.mp (mem_distinct.mp h)
  exact Assoc.mem_keys_of_mem_collected hn

end Index

/-- Two texts overlap if one of them occurs in the other, and the shorter one is long enough. That
the first is tried before the second makes no difference. -/
theorem overlaps_iff {minimum : Nat} {name symbol : String} :
    overlaps minimum name symbol = true ↔
      (name.toList <:+: symbol.toList ∨ symbol.toList <:+: name.toList) ∧
        minimum ≤ min name.length symbol.length := by
  simp only [overlaps, Text.contains, Text.hasBlock_eq_true_iff]
  split
  · rename_i h
    have hle : name.length ≤ symbol.length := by
      rw [← String.length_toList, ← String.length_toList]
      exact h.length_le
    simp [h, hle]
  · rename_i h
    simp only [Bool.and_eq_true, Text.hasBlock_eq_true_iff, decide_eq_true_eq, h, false_or]
    refine and_congr_right fun h => ?_
    have hle : symbol.length ≤ name.length := by
      rw [← String.length_toList, ← String.length_toList]
      exact h.length_le
    rw [Nat.min_eq_right hle]

namespace Session

/-- A symbol describes a name if in lower case they are the same, or if one of them occurs in the
other there and the shorter one is as long as the settings ask for. -/
def DescribesName (session : Session) (symbol name : String) : Prop :=
  Text.lower name = Text.lower symbol ∨
    ((Text.lower name).toList <:+: (Text.lower symbol).toList ∨
        (Text.lower symbol).toList <:+: (Text.lower name).toList) ∧
      session.settings.minSubstringLength ≤
        min (Text.lower name).length (Text.lower symbol).length

/-- A symbol describes an object by the object's name, or by its file if the symbol is the name of a
file. -/
def Describes (session : Session) (symbol : String) (node : Nat) : Prop :=
  (∃ name, session.document.textMember? node ["name"] = some name ∧
      session.DescribesName symbol name) ∨
    session.isFileSymbol symbol = true ∧ ∃ file, session.index.sourceOf? node = some file ∧
      fileMatches (normalFile symbol) file = true

section
variable {document : Document} {settings : Settings} {symbol id : String}

/-! ## What each strategy finds -/

/-- The ids of some of the objects of a document. -/
def IdOfSome (session : Session) (p : Nat → Prop) (id : String) : Prop :=
  ∃ visit ∈ session.document.nodes, session.index.idOf? visit.node = some id ∧ p visit.node

/-- The id of some object stays one under a weaker condition. -/
theorem IdOfSome.mono {session : Session} {p q : Nat → Prop} (h : session.IdOfSome p id)
    (hpq : ∀ node, p node → q node) : session.IdOfSome q id := by
  obtain ⟨visit, hv, hid, hp⟩ := h
  exact ⟨visit, hv, hid, hpq visit.node hp⟩

/-- The symbol in lower case finds the objects whose name is the same in lower case: a name that is
the symbol in lower case is so too. -/
theorem mem_lowercase_hits :
    id ∈ (ofDocument document settings).hits symbol .lowercase ↔
      (ofDocument document settings).IdOfSome (fun node => ∃ name,
        document.textMember? node ["name"] = some name ∧
          Text.lower name = Text.lower symbol) id := by
  rw [hits, ofDocument, Index.mem_idsNamed_iff]
  refine exists_congr fun visit => and_congr_right fun _ => and_congr_right fun _ =>
    exists_congr fun name => and_congr_right fun _ => ?_
  constructor
  · rintro (h | h)
    · rw [← h, Text.lower_lower]
    · exact h.symm
  · exact fun h => .inr h.symm

/-- What is found by the symbol as it stands is found by the symbol in lower case. -/
theorem exact_hits_subset :
    (ofDocument document settings).hits symbol .exact ⊆
      (ofDocument document settings).hits symbol .lowercase := by
  intro id h
  rw [hits, ofDocument, Index.mem_idsNamed_iff] at h
  obtain ⟨visit, hv, hid, name, hn, hsame⟩ := h
  refine mem_lowercase_hits.mpr ⟨visit, hv, hid, name, hn, ?_⟩
  rcases hsame with rfl | rfl
  · rfl
  · rw [Text.lower_lower]

/-- A symbol that overlaps with a name in lower case finds the objects of this name. They are found
under the name itself, and under no key that is another text in lower case. -/
theorem mem_substring_hits :
    id ∈ (ofDocument document settings).hits symbol .substring ↔
      (ofDocument document settings).IdOfSome (fun node => ∃ name,
        document.textMember? node ["name"] = some name ∧
          overlaps settings.minSubstringLength (Text.lower name) (Text.lower symbol) = true) id := by
  simp only [hits, substringHits, mem_distinct, List.mem_flatMap, List.mem_filter, ofDocument]
  constructor
  · rintro ⟨key, ⟨-, ho⟩, hid⟩
    obtain ⟨visit, hv, hid, name, hn, hkey⟩ := Index.mem_idsNamed_iff.mp hid
    refine ⟨visit, hv, hid, name, hn, ?_⟩
    rcases hkey with rfl | rfl
    · exact ho
    · rwa [Text.lower_lower] at ho
  · rintro ⟨visit, hv, hid, name, hn, ho⟩
    have hmem := Index.mem_idsNamed_iff.mpr ⟨visit, hv, hid, name, hn, .inl rfl⟩
    exact ⟨name, ⟨Index.mem_keys_of_mem_idsNamed hmem, ho⟩, hmem⟩

/-- The name of a file finds the objects whose file it matches. -/
theorem mem_file_hits :
    id ∈ (ofDocument document settings).hits symbol .file ↔
      (ofDocument document settings).isFileSymbol symbol = true ∧
        (ofDocument document settings).IdOfSome (fun node => ∃ file,
          (ofDocument document settings).index.sourceOf? node = some file ∧
            fileMatches (normalFile symbol) file = true) id := by
  rw [hits]
  split
  · rename_i hfile
    simp only [hfile, true_and, fileHits, mem_distinct, List.mem_flatMap, List.mem_filter]
    constructor
    · rintro ⟨file, ⟨-, hm⟩, hid⟩
      obtain ⟨visit, hv, hid, hs⟩ := Index.mem_idsInFile_iff.mp hid
      exact ⟨visit, hv, hid, file, hs, hm⟩
    · rintro ⟨visit, hv, hid, file, hs, hm⟩
      have hmem := Index.mem_idsInFile_iff.mpr ⟨visit, hv, hid, hs⟩
      exact ⟨file, ⟨Index.mem_keys_of_mem_idsInFile hmem, hm⟩, hmem⟩
  · rename_i hfile
    simp [hfile]

/-- A symbol finds by its id the object with this id. -/
theorem mem_id_hits :
    id ∈ (ofDocument document settings).hits symbol .id ↔
      id = symbol ∧ (ofDocument document settings).index.has id = true := by
  rw [hits]
  split
  · rename_i h
    rw [List.mem_singleton]
    exact ⟨fun hid => ⟨hid, hid ▸ h⟩, And.left⟩
  · rename_i h
    constructor
    · exact fun hid => absurd hid List.not_mem_nil
    · rintro ⟨rfl, hid⟩
      exact absurd hid h

/-! ## What all strategies find -/

/-- By name and by file a symbol finds the objects that it describes. -/
theorem exists_mem_hits_iff :
    (∃ strategy, strategy ≠ .id ∧ id ∈ (ofDocument document settings).hits symbol strategy) ↔
      (ofDocument document settings).IdOfSome
        ((ofDocument document settings).Describes symbol) id := by
  constructor
  · rintro ⟨strategy, hs, hid⟩
    have hlower : id ∈ (ofDocument document settings).hits symbol .lowercase →
        (ofDocument document settings).IdOfSome
          ((ofDocument document settings).Describes symbol) id := fun hid =>
      (mem_lowercase_hits.mp hid).mono fun node ⟨name, hn, h⟩ => .inl ⟨name, hn, .inl h⟩
    cases strategy with
    | file =>
      obtain ⟨hfile, hid⟩ := mem_file_hits.mp hid
      exact hid.mono fun node h => .inr ⟨hfile, h⟩
    | exact => exact hlower (exact_hits_subset hid)
    | lowercase => exact hlower hid
    | substring =>
      exact (mem_substring_hits.mp hid).mono
        fun node ⟨name, hn, h⟩ => .inl ⟨name, hn, .inr (overlaps_iff.mp h)⟩
    | id => exact absurd rfl hs
  · rintro ⟨visit, hv, hid, ⟨name, hn, h | h⟩ | ⟨hfile, h⟩⟩
    · exact ⟨.lowercase, by decide, mem_lowercase_hits.mpr ⟨visit, hv, hid, name, hn, h⟩⟩
    · exact ⟨.substring, by decide,
        mem_substring_hits.mpr ⟨visit, hv, hid, name, hn, overlaps_iff.mpr h⟩⟩
    · exact ⟨.file, by decide, mem_file_hits.mpr ⟨hfile, visit, hv, hid, h⟩⟩

/-- Whether a symbol is the name of a file does not depend on capital letters. -/
theorem isFileSymbol_congr {session : Session} {symbol other : String}
    (h : Text.lower symbol = Text.lower other) :
    session.isFileSymbol symbol = session.isFileSymbol other := by
  rw [isFileSymbol, isFileSymbol, h]

/-- Whether a symbol describes an object depends on the symbol in lower case only. -/
theorem Describes.congr {session : Session} {symbol other : String} {node : Nat}
    (h : Text.lower symbol = Text.lower other) (hd : session.Describes symbol node) :
    session.Describes other node := by
  rcases hd with ⟨name, hn, hd⟩ | ⟨hfile, file, hs, hm⟩
  · rw [DescribesName, h] at hd
    exact .inl ⟨name, hn, hd⟩
  · rw [isFileSymbol_congr h] at hfile
    rw [normalFile_congr h] at hm
    exact .inr ⟨hfile, file, hs, hm⟩

end

/-- A symbol that is not empty stands for its own id, if it is one, and for the ids of the objects
that it describes, each once. So what is found by the symbol as it stands is found by it in lower case,
and by name and by file two symbols find the same if they are the same in lower case. -/
theorem mem_resolve_iff (document : Document) (settings : Settings) :
    let session := ofDocument document settings
    (∀ symbol, (session.resolve symbol).Nodup) ∧
      (∀ symbol id, id ∈ session.resolve symbol ↔ symbol ≠ "" ∧
        (id = symbol ∧ session.index.has id = true ∨ ∃ visit ∈ document.nodes,
          session.index.idOf? visit.node = some id ∧ session.Describes symbol visit.node)) ∧
      (∀ symbol, session.hits symbol .exact ⊆ session.hits symbol .lowercase) ∧
      ∀ symbol other, Text.lower symbol = Text.lower other → ∀ id,
        (∃ strategy, strategy ≠ .id ∧ id ∈ session.hits symbol strategy) ↔
          ∃ strategy, strategy ≠ .id ∧ id ∈ session.hits other strategy := by
  intro session
  refine ⟨fun symbol => nodup_distinct _, fun symbol id => ?_, fun symbol => exact_hits_subset,
    fun symbol other h id => ?_⟩
  · rw [mem_resolve]
    refine and_congr_right fun _ => ?_
    have hsome : (∃ strategy, strategy ≠ .id ∧ id ∈ session.hits symbol strategy) ↔
        session.IdOfSome (session.Describes symbol) id := exists_mem_hits_iff
    constructor
    · rintro ⟨strategy, hid⟩
      by_cases hs : strategy = .id
      · subst hs
        exact .inl (mem_id_hits.mp hid)
      · exact .inr (hsome.mp ⟨strategy, hs, hid⟩)
    · rintro (hid | hid)
      · exact ⟨.id, mem_id_hits.mpr hid⟩
      · obtain ⟨strategy, -, hid⟩ := hsome.mpr hid
        exact ⟨strategy, hid⟩
  · rw [exists_mem_hits_iff, exists_mem_hits_iff]
    exact ⟨fun hid => hid.mono fun _ hd => Describes.congr h hd,
      fun hid => hid.mono fun _ hd => Describes.congr h.symm hd⟩

end Session

end ContextSlice
