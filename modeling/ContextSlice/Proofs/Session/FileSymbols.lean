import ContextSlice.Proofs.Index.Holders
import ContextSlice.Proofs.Session.Matching
import ContextSlice.Proofs.Settings.Accepted
import ContextSlice.Proofs.Text.Pieces
import ContextSlice.Shell.Settings

/-!
# Symbols that name files

An object lies in the file that it names itself, or else in the one of the object around it
(`Document.LiesIn`). A symbol that is a file name by its ending finds the objects of those files whose path
ends, component by component, with the components of the symbol (`fileMatches_iff_components`,
`Session.explain_file`).
-/

namespace ContextSlice

/-! ## The file of an object -/

/-- An object to be indexed lies in the file that it names, or else in the file of the object around it. -/
inductive Document.LiesIn (doc : Document) (settings : Settings) : Nat → String → Prop
  | own {visit : Visit} {file : String} (hv : visit ∈ doc.nodes)
      (hfile : doc.textMember? visit.node settings.fileFields = some file) :
      LiesIn doc settings visit.node file
  | inherited {visit : Visit} {outer : Nat} {file : String} (hv : visit ∈ doc.nodes)
      (hnone : doc.textMember? visit.node settings.fileFields = none) (ho : visit.parent = some outer)
      (hfile : LiesIn doc settings outer file) : LiesIn doc settings visit.node file

section
variable {doc : Document} {settings : Settings} {file : String}

/-- The file that the index has of an object is the one in which it lies. -/
theorem Index.sourceOf?_eq_some_iff_liesIn {visit : Visit} (hv : visit ∈ doc.nodes) :
    (ofDocument doc settings).sourceOf? visit.node = some file ↔
      doc.LiesIn settings visit.node file := by
  constructor
  · refine Document.nodes_induction (motive := fun node => (ofDocument doc settings).sourceOf? node =
      some file → doc.LiesIn settings node file) (fun visit hv ho hs => ?_)
      (fun visit hv outer ho ih hs => ?_) hv
    · rw [sourceOf?_visit hv, ho, Option.bind_none, Option.or_none] at hs
      exact .own hv hs
    · rw [sourceOf?_visit hv, ho, Option.bind_some] at hs
      rcases Option.or_eq_some_iff.mp hs with hown | ⟨hnone, hs⟩
      · exact .own hv hown
      · exact .inherited hv hnone ho (ih hs)
  · intro h
    generalize visit.node = node at h
    induction h with
    | own hv hfile => rw [sourceOf?_visit hv, hfile, Option.some_or]
    | inherited hv hnone ho _ ih => rw [sourceOf?_visit hv, hnone, Option.none_or, ho, Option.bind_some, ih]

end

/-! ## Components -/

/-- The names in a path, in lower case, which slashes or backslashes separate. -/
def components (path : String) : List String := Text.splitAt '/' (normalFile path)

/-- A file matches a symbol if its components end with those of the symbol. -/
theorem fileMatches_iff_components {symbol file : String} :
    fileMatches (normalFile symbol) file = true ↔ components symbol <:+ components file := by
  have hcomponents (path : String) :
      components path = (Text.splitChars '/' (normalFile path).toList).map String.ofList := rfl
  rw [hcomponents, hcomponents, List.suffix_map_iff_of_injective fun _ _ => String.ofList_injective,
    Text.splitChars_suffix_iff, fileMatches, Bool.or_eq_true, decide_eq_true_eq, Text.endsWith,
    List.isSuffixOf_iff_suffix, String.toList_append, String.toList_inj]
  rfl

namespace Session

section
variable {session : Session} {symbol : String}

/-- What is explained of a strategy is what it finds. -/
theorem getD_lookup_explain (h : symbol ≠ "") (strategy : Strategy) :
    ((session.explain symbol).lookup strategy).getD [] = session.hits symbol strategy := by
  cases hlookup : (session.explain symbol).lookup strategy with
  | some found => exact (mem_explain.mp (Assoc.mem_of_lookup_eq_some hlookup)).2.1
  | none =>
    by_contra hne
    have hmem : (strategy, session.hits symbol strategy) ∈ session.explain symbol :=
      mem_explain.mpr ⟨h, rfl, fun hnil => hne (hnil ▸ rfl)⟩
    have hkey : strategy ∈ Assoc.keys (session.explain symbol) := List.mem_map_of_mem hmem
    rw [← Assoc.lookup_isSome_iff, hlookup] at hkey
    cases hkey

/-- No symbol without characters is the name of a file. -/
theorem ne_empty_of_isFileSymbol (hs : ∀ suffix ∈ session.settings.fileSuffixes, suffix ≠ "")
    (h : session.isFileSymbol symbol = true) : symbol ≠ "" := by
  rintro rfl
  obtain ⟨suffix, hsuffix, hends⟩ := List.any_eq_true.mp h
  have hnil : suffix.toList <:+ [] := List.isSuffixOf_iff_suffix.mp hends
  exact hs suffix hsuffix (String.toList_inj.mp (List.suffix_nil.mp hnil))

end

/-- What a symbol finds that is a file name by its ending: each once, the ids of the objects that lie in a
file whose components end with those of the symbol. This is so under all settings that are accepted, whatever
reads them. -/
theorem explain_file (document : Document) {reader : SettingReader} {values : Members}
    {settings : Settings} (hs : Settings.ofMembers reader values = .ok settings) {symbol : String}
    (h : (ofDocument document settings).isFileSymbol symbol = true) :
    let session := ofDocument document settings
    let found := ((session.explain symbol).lookup .file).getD []
    found.Nodup ∧ ∀ id, id ∈ found ↔ ∃ visit ∈ document.nodes,
      session.index.idOf? visit.node = some id ∧
        ∃ file, document.LiesIn settings visit.node file ∧ components symbol <:+ components file := by
  intro session found
  have hsuffix : ∀ suffix ∈ session.settings.fileSuffixes, suffix ≠ "" := fun suffix hmem =>
    ((Settings.ofMembers_eq_ok_iff.mp hs).normalSuffix suffix hmem).ne_empty
  have hfound : found = session.hits symbol .file :=
    getD_lookup_explain (ne_empty_of_isFileSymbol hsuffix h) .file
  rw [hfound]
  constructor
  · rw [hits, if_pos h]
    exact nodup_distinct _
  · intro id
    rw [mem_file_hits]
    refine (and_iff_right h).trans (exists_congr fun visit => and_congr_right fun hv =>
      and_congr_right fun _ => exists_congr fun file => and_congr ?_ fileMatches_iff_components)
    exact Index.sourceOf?_eq_some_iff_liesIn hv

/-! ## A file in folders -/

/-- A module in a file with backslashes in its name, an object in it that names no file, and one that
does. -/
def foldered : Json :=
  .object [("modules", .list [.object [("id", .text "m"), ("file", .text "src\\App\\Main.py"),
    ("parts", .list [.object [], .object [("file", .text "lib/main.py")]])]])]

theorem nodes_foldered : (Document.ofJson foldered).nodes =
    [⟨3, none, [.member "modules", .position 0]⟩,
      ⟨0, some 3, [.member "parts", .position 0]⟩, ⟨1, some 3, [.member "parts", .position 1]⟩] := by
  cbv

/-- The symbol finds the object that names no file, as it lies in the file of the module. -/
theorem explain_file_foldered : Settings.ofMembers Shell.settingReader [] = .ok {} ∧
    (ofDocument (Document.ofJson foldered) {}).isFileSymbol "app/MAIN.py" = true ∧
    "m.parts[0]" ∈ (((ofDocument (Document.ofJson foldered) {}).explain "app/MAIN.py").lookup .file).getD [] := by
  have hsettings : Settings.ofMembers Shell.settingReader [] = .ok {} := rfl
  have hsymbol : (ofDocument (Document.ofJson foldered) {}).isFileSymbol "app/MAIN.py" = true := by
    decide
  have hmodule : ⟨3, none, [.member "modules", .position 0]⟩ ∈ (Document.ofJson foldered).nodes := by
    rw [nodes_foldered]
    decide
  have hpart : ⟨0, some 3, [.member "parts", .position 0]⟩ ∈ (Document.ofJson foldered).nodes := by
    rw [nodes_foldered]
    decide
  have hlies : (Document.ofJson foldered).LiesIn {} 0 "src\\App\\Main.py" :=
    .inherited hpart (by decide) rfl (.own hmodule (by decide))
  refine ⟨hsettings, hsymbol, ?_⟩
  refine ((explain_file (Document.ofJson foldered) hsettings hsymbol).2 _).mpr
    ⟨_, hpart, ?_, _, hlies, by decide +kernel⟩
  rw [ofDocument, Index.ofDocument, nodes_foldered]
  decide

end Session

end ContextSlice
