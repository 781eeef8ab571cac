import ContextSlice.Proofs.Document.File
import ContextSlice.Proofs.Session.Assembly
import ContextSlice.Proofs.Snapshot.Store
import ContextSlice.Proofs.Tool.Ending
import ContextSlice.Shell.Libraries
import Mathlib

/-!
# How requests end

Every request for texts ends (`Tool.exists_ends`), if the document's path can be followed and the folder
for snapshots has a path without the null character. It ends in one way only, and neither the clock nor the
settings for saving nor what lies elsewhere on the disk has a part in what it is answered
(`Tool.request_ends`). Whether the folder for snapshots is there may matter if the document's path leads
through it (`Tool.not_forall_bare_eq`).
-/

namespace ContextSlice.Tool

section
variable {host : Host} {settings : Settings} {symbols : List String}

/-- A slice is saved in a new file, or the reply tells why it could not be saved. -/
theorem saveSlice_cases {folder : FilePath} (hn : folder.NullFree) (slice : Slice Json) :
    (∃ path : FilePath,
      (saveSlice host folder slice).reply =
          .ok (.slice { slice with savedTo := some path.text } none) ∧
        host.disk.find? path = .ok none ∧
        (saveSlice host folder slice).disk.find? path =
          .ok (some (.file (.text (Snapshot.text slice))))) ∨
      ∃ reason, (saveSlice host folder slice).reply = .ok (.slice slice (some reason)) := by
  unfold saveSlice
  split
  · rename_i path later hwrite
    exact .inl ⟨path, rfl, Snapshot.write_eq_ok hwrite⟩
  · rename_i fault later hwrite
    rw [if_neg (Snapshot.write_fault hn hwrite)]
    exact .inr ⟨_, rfl⟩

/-- However saving a slice ends, whatever was on the disk stays. -/
theorem saveSlice_grows (host : Host) (folder : FilePath) (slice : Slice Json) :
    host.disk.Grows (saveSlice host folder slice).disk := by
  have hgrows := Snapshot.write_grows host.disk folder host.clock slice
  unfold saveSlice
  split
  · rename_i hwrite
    rwa [hwrite] at hgrows
  · rename_i hwrite
    rw [hwrite] at hgrows
    split <;> exact hgrows

/-- After the payload of a slice stands where it was saved, and the reason if it could not be. -/
theorem payload_slice (slice : Slice Json) (reason : Option String) :
    (Reply.slice slice reason).payload = slice.payload ++ ("savedTo", slice.savedTo.elim .null .text) ::
      (reason.map fun reason => ("snapshotError", Json.text reason)).toList := by
  simp [Reply.payload, Slice.fullPayload, Slice.savedMember]

/-- A slice that is found is handed out as it is, or saved first. -/
theorem answer_eq (host : Host) {json : Json} {texts : List Json} {found : Slice Value}
    (h : (Session.ofDocument (.ofJson json) settings).context texts = .ok found) :
    let slice := (Session.ofDocument (.ofJson json) settings).writeOut found
    let saving := saveSlice host settings.outputFolder slice
    (answer host settings texts json).reply =
        (if settings.saveSnapshots then saving.reply else .ok (.slice slice none)) ∧
      (answer host settings texts json).disk =
        if settings.saveSnapshots then saving.disk else host.disk := by
  unfold answer
  dsimp only
  rw [h]
  dsimp only
  split <;> exact ⟨rfl, rfl⟩

/-- A request ends with the slice that is found in its document. -/
theorem answer_ends {json : Json} {found : Slice Value}
    (hl : loadDocument host settings.documentPath = .ok json)
    (hf : (Session.ofDocument (.ofJson json) settings).context (symbols.map .text) = .ok found)
    (hs : found.savedTo = none) (hn : settings.outputFolder.NullFree) :
    let outcome := answer host settings (symbols.map .text) json
    ∃ reply ending, outcome.reply = .ok reply ∧
      Ends host settings symbols reply.payload outcome.disk ending ∧ host.disk.Grows outcome.disk := by
  intro outcome
  obtain ⟨hreply, hdisk⟩ := answer_eq host hf
  have hanswers : Answers host settings symbols _ := ⟨json, found, hl, hf, rfl⟩
  have hunsaved : ((Session.ofDocument (.ofJson json) settings).writeOut found).savedTo = none := hs
  rw [hreply, hdisk]
  generalize (Session.ofDocument (.ofJson json) settings).writeOut found = slice at *
  cases hsave : settings.saveSnapshots with
  | false =>
    refine ⟨_, .unsaved, rfl, ?_, .refl _⟩
    rw [payload_slice, hunsaved]
    exact .unsaved hsave hanswers
  | true =>
    rcases saveSlice_cases hn slice with ⟨path, hsaved, hnone, hfile⟩ | ⟨reason, hfailed⟩
    · refine ⟨_, .saved, hsaved, ?_, saveSlice_grows _ _ _⟩
      rw [payload_slice]
      exact @Ends.saved _ _ _ slice _ _ hsave hanswers hnone hfile
    · refine ⟨_, .saveFailed, hfailed, ?_, saveSlice_grows _ _ _⟩
      rw [payload_slice, hunsaved]
      exact .saveFailed hsave hanswers

/-- Every request for texts ends in some way, if a document that cannot be loaded is a reason to refuse. -/
theorem exists_ends (host : Host) (settings : Settings) (symbols : List String)
    (hr : ∀ fault, loadDocument host settings.documentPath = .error fault → fault.refuses = true)
    (hn : settings.outputFolder.NullFree) :
    let outcome := request host (some settings) (symbols.map .text)
    ∃ reply ending, outcome.reply = .ok reply ∧
      Ends host settings symbols reply.payload outcome.disk ending ∧ host.disk.Grows outcome.disk := by
  intro outcome
  cases hload : loadDocument host settings.documentPath with
  | error fault =>
    have hrefused : outcome = refused host fault.message [.requestFailed fault.message] := by
      simp only [outcome, request, requestWith, hload, hr fault hload, if_true]
    rw [hrefused]
    exact ⟨_, _, rfl, .refused hload, .refl _⟩
  | ok json =>
    have hanswer : outcome = answer host settings (symbols.map .text) json := by
      simp only [outcome, request, requestWith, hload]
    obtain ⟨kind, hfound⟩ : ∃ kind : RequestKind,
        (Session.ofDocument (.ofJson json) settings).context (symbols.map .text) = _ :=
      Session.exists_context_eq_ok Json.hashable_of_mem_texts
    rw [hanswer]
    exact answer_ends hload hfound rfl hn

end

/-- If the document's path can be followed and the path of the folder for snapshots is free of the null
character, then a request for texts ends in exactly one way: it is refused and the disk is as it was, or it
is answered with a slice that is not to be saved and the disk is as it was, or with one that is saved in a
new file or cannot be saved. Whatever was on the disk stays as it was. But for the members about saving the
payload is the same for any other clock, settings for saving, and disk that has the same at the places
which the document's path leads through. -/
theorem request_ends (host : Host) (settings : Settings) (symbols : List String)
    (hr : ∀ path, settings.documentPath = some path → host.Reads path)
    (hn : settings.outputFolder.NullFree) :
    let outcome := request host (some settings) (symbols.map .text)
    ∃ reply, outcome.reply = .ok reply ∧
      (∃! ending, Ends host settings symbols reply.payload outcome.disk ending) ∧
      host.disk.Grows outcome.disk ∧
      ∀ (folder : FilePath) (save : Bool) (clock : Instant) (later : Disk), folder.NullFree →
        (∀ path, settings.documentPath = some path → ∀ file, host.expand path = some file →
          ∀ place ∈ Disk.stations file, later.entry? place = host.disk.entry? place) →
        ∃ again, (request { host with disk := later, clock } (some (settings.saving folder save))
            (symbols.map .text)).reply = .ok again ∧ bare again.payload = bare reply.payload := by
  intro outcome
  have hrefuses : ∀ fault, loadDocument host settings.documentPath = .error fault →
      fault.refuses = true := fun fault => refuses_of_loadDocument hr
  obtain ⟨reply, ending, hreply, hends, hgrows⟩ := exists_ends host settings symbols hrefuses hn
  refine ⟨reply, hreply, ⟨ending, hends, fun other ho => ?_⟩, hgrows, ?_⟩
  · exact ho.eq_ofPayload.trans hends.eq_ofPayload.symm
  · intro folder save clock later hfolder hlater
    have hload : loadDocument { host with disk := later, clock } settings.documentPath =
        loadDocument host settings.documentPath :=
      loadDocument_congr rfl fun path hp file hf => Disk.find?_congr (hlater path hp file hf)
    obtain ⟨again, ending', hagain, hends', -⟩ :=
      exists_ends { host with disk := later, clock } (settings.saving folder save) symbols
        (fun fault hf => hrefuses fault (hload ▸ hf)) hfolder
    exact ⟨again, hagain, hends.bare_unique hload hends'⟩

/-! ## A document beside the folder for snapshots -/

/-- The text of a document with one object, which states its id. -/
def loneText : String := "\x7b\"modules\": [\x7b\"id\": \"a\"\x7d]\x7d"

/-- This document. -/
def loneJson : Json := .object [("modules", .list [.object [("id", .text "a")]])]

/-- A host with nothing on its disk but this document. -/
def lone : Host :=
  { Shell.libraries with
    disk := ⟨[(["doc.json"], .file (.text loneText))]⟩
    workingFolder := ⟨0, []⟩
    home := ⟨0, ["home"]⟩
    accounts := []
    configFolder := ⟨0, ["config"]⟩
    documentVariable := none
    outputVariable := none
    clock := default }

/-- The disk of this host with the folder for snapshots on it. -/
def beside : Disk := ⟨Assoc.put ["out"] .folder lone.disk.entries⟩

/-- The way to the document through this folder. -/
def around : FilePath := ⟨0, ["out", "..", "doc.json"]⟩

/-- The working folder of this host, for snapshots. -/
def workingFolder : Settings :=
  { (default : Settings) with documentPath := some ⟨0, ["doc.json"]⟩, outputFolder := ⟨0, []⟩ }

/-- The session of the document. -/
def loneSession : Session := Session.ofDocument (.ofJson loneJson) workingFolder

theorem find?_lone : lone.disk.find? ⟨0, ["doc.json"]⟩ = .ok (some (.file (.text loneText))) := by
  have hplace : lone.disk.place ⟨0, ["doc.json"]⟩ = .ok ["doc.json"] := by
    rw [Disk.place_of_nullFree (by decide)]
    decide
  rw [Disk.find?_of_place hplace]
  decide

theorem place_around : lone.disk.place around = .error .missing := by
  rw [Disk.place_of_nullFree (by decide)]
  decide

theorem find?_beside : beside.find? around = .ok (some (.file (.text loneText))) := by
  have hplace : beside.place around = .ok ["doc.json"] := by
    rw [Disk.place_of_nullFree (by decide)]
    decide
  rw [Disk.find?_of_place hplace]
  decide

/-- The document is read, whatever the way to it. -/
theorem readJson_loneText {disk : Disk} {path : FilePath}
    (h : disk.find? path = .ok (some (.file (.text loneText)))) : disk.readJson path = .ok loneJson := by
  have hread : (Content.text loneText).read = .ok loneText ∧ Json.read loneText = .ok loneJson := by
    decide +kernel
  exact readJson_eq_ok h hread.1 hread.2

/-- A path to the document can be followed. -/
theorem reads_loneText {host : Host} {path : FilePath} (he : host.expand path = some path)
    (h : host.disk.find? path = .ok (some (.file (.text loneText)))) : host.Reads path := by
  refine ⟨⟨path, he⟩, fun file hf fault => ?_, fun file hf n => ?_⟩
  · cases he.symm.trans hf
    simp [h]
  · cases he.symm.trans hf
    simp [readJson_loneText h]

theorem loadDocument_lone : loadDocument lone workingFolder.documentPath = .ok loneJson :=
  readDocument_eq_ok find?_lone (readJson_loneText find?_lone)

/-- The id of the object is answered by a slice with this object. -/
theorem context_lone : ∃ slice, loneSession.context [.text "a"] = .ok slice ∧ slice.nodeIds = ["a"] ∧
    slice.nodes.length = 1 ∧ slice.metadata.totalNodes = 1 := by
  have hnodes : (Document.ofJson loneJson).nodes = [⟨0, none, [.member "modules", .position 0]⟩] := by cbv
  have hids : distinct ((Document.ofJson loneJson).nodes.filterMap fun visit =>
      loneSession.index.idOf? visit.node) = ["a"] ∧ loneSession.index.has "a" = true := by
    simp only [loneSession, Session.ofDocument, Index.ofDocument, hnodes]
    decide +kernel
  obtain ⟨slice, hslice, -, -, hfilter, -, hlength, htotal, -⟩ :=
    Session.exists_context_texts (.ofJson loneJson) workingFolder ["a"]
  have hself : "a" ∈ loneSession.contextIds [.text "a"] := Session.mem_contextIds_self hids.2
  have hnodeIds : slice.nodeIds = ["a"] := by
    refine (hfilter.trans (congrArg _ hids.1)).trans ?_
    exact List.filter_cons_of_pos (decide_eq_true hself)
  rw [hnodeIds] at hlength htotal
  exact ⟨slice, hslice, hnodeIds, hlength, htotal⟩

/-- A request for the id of the object is answered with a slice that has this object. -/
theorem request_ends_lone :
    (∀ path, workingFolder.documentPath = some path → lone.Reads path) ∧
      workingFolder.outputFolder.NullFree ∧
      ∃ reply, (request lone (some workingFolder) [.text "a"]).reply = .ok reply ∧
        ∃ slice, Answers lone workingFolder ["a"] slice ∧ slice.nodeIds = ["a"] ∧
          slice.nodes.length = 1 ∧ bare reply.payload = slice.payload := by
  have hreads : ∀ path, workingFolder.documentPath = some path → lone.Reads path := by
    rintro path hp
    cases hp
    exact reads_loneText rfl find?_lone
  have hnull : workingFolder.outputFolder.NullFree := by decide
  obtain ⟨reply, hreply, ⟨ending, hends, -⟩, -⟩ := request_ends lone workingFolder ["a"] hreads hnull
  refine ⟨hreads, hnull, reply, hreply, ?_⟩
  rcases hends.bare_eq with ⟨fault, hfault, -⟩ | ⟨slice, hanswers, hbare⟩
  · cases loadDocument_lone.symm.trans hfault
  · obtain ⟨found, hfound, hnodeIds, hlength, -⟩ := context_lone
    have hslice : slice = loneSession.writeOut found :=
      hanswers.unique ⟨loneJson, found, loadDocument_lone, hfound, rfl⟩
    refine ⟨slice, hanswers, ?_, ?_, hbare⟩
    · rw [hslice]
      exact hnodeIds
    · rw [hslice]
      exact (List.length_map _).trans hlength

/-- Without the folder there is no way through it. -/
theorem reads_around : lone.Reads around := by
  have hexpand : lone.expand around = some around := rfl
  refine ⟨⟨around, hexpand⟩, fun file hf fault => ?_, fun file hf n => ?_⟩
  · cases hexpand.symm.trans hf
    simp [Disk.find?, place_around]
  · cases hexpand.symm.trans hf
    simp [Disk.readJson, Disk.readText, Disk.content, place_around]

/-- The folder for snapshots is all by which the two disks differ. -/
theorem same_beside {place : Place} (h : ¬ ["out"] <+: place) :
    beside.entry? place = lone.disk.entry? place := by
  refine Disk.found_put_of_ne ?_ _
  rintro rfl
  exact h List.prefix_rfl

/-- So whether the folder for snapshots is there may matter. -/
theorem not_forall_bare_eq :
    ¬ ∀ (host : Host) (settings : Settings) (symbols : List String) (here : Place) (later : Disk),
      (∀ path, settings.documentPath = some path →
        host.Reads path ∧ { host with disk := later }.Reads path) →
      settings.outputFolder.NullFree → host.disk.place settings.outputFolder = .ok here →
      (∀ place, ¬ here <+: place → later.entry? place = host.disk.entry? place) →
      ∀ reply again, (request host (some settings) (symbols.map .text)).reply = .ok reply →
        (request { host with disk := later } (some settings) (symbols.map .text)).reply = .ok again →
        bare again.payload = bare reply.payload := by
  intro h
  let settings : Settings := { documentPath := some around, outputFolder := ⟨0, ["out"]⟩ }
  have hnull : settings.outputFolder.NullFree := by decide
  have hplace : lone.disk.place settings.outputFolder = .ok ["out"] := by
    rw [Disk.place_of_nullFree hnull]
    decide
  have hbeside : { lone with disk := beside }.Reads around := reads_loneText rfl find?_beside
  have hreads : ∀ path, settings.documentPath = some path →
      lone.Reads path ∧ { lone with disk := beside }.Reads path := by
    intro path hp
    cases hp
    exact ⟨reads_around, hbeside⟩
  obtain ⟨reply, ending, hreply, hends, -⟩ := exists_ends lone settings ["a"]
    (fun fault => refuses_of_loadDocument fun path hp => (hreads path hp).1) hnull
  obtain ⟨again, ending', hagain, hends', -⟩ := exists_ends { lone with disk := beside } settings ["a"]
    (fun fault => refuses_of_loadDocument fun path hp => (hreads path hp).2) hnull
  have hsame := h lone settings ["a"] ["out"] beside hreads hnull hplace (fun _ => same_beside)
    reply again hreply hagain
  have hmissing : loadDocument lone settings.documentPath = .error (.missing around) :=
    readDocument_eq_missing (by rw [Disk.find?, place_around])
  have hload : loadDocument { lone with disk := beside } settings.documentPath = .ok loneJson :=
    readDocument_eq_ok find?_beside (readJson_loneText find?_beside)
  rcases hends.bare_eq with ⟨fault, -, hbare⟩ | ⟨-, ⟨json, -, hjson, -⟩, -⟩
  · rcases hends'.bare_eq with ⟨fault', hfault, -⟩ | ⟨slice, -, hbare'⟩
    · cases hload.symm.trans hfault
    · have herror : ("error", Json.text fault.message) ∈ slice.payload := by
        rw [← hbare', hsame, hbare]
        exact List.mem_cons_self
      have hname : "error" ∈ Slice.payloadNames := Slice.mem_payloadNames herror
      exact absurd hname (by decide)
  · cases hmissing.symm.trans hjson

end ContextSlice.Tool
