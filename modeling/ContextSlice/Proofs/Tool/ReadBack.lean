import ContextSlice.Proofs.Snapshot.ReadBack
import ContextSlice.Proofs.Tool.Request

/-!
# What requests have saved

The slice that a request is answered with comes from a document that was read from a file, and a value that
was read has distinct names and no whole numbers of too many digits. So if the slice has been saved, then
the snapshot is read as the payload that is handed out, but for the member that tells where it was saved
(`Tool.read_saved`).
-/

namespace ContextSlice.Tool

section
variable {host : Host} {settings : Settings} {symbols : List String} {found : Slice Json} {location : String}

/-- A slice whose reply gives no reason why it could not be saved has been written. -/
theorem write_of_saveSlice {folder : FilePath} {slice : Slice Json}
    (h : (saveSlice host folder slice).reply = .ok (.slice found none)) :
    ∃ path : FilePath, found = { slice with savedTo := some path.text } ∧
      Snapshot.write host.disk folder host.clock slice =
        (.ok path, (saveSlice host folder slice).disk) := by
  unfold saveSlice at h ⊢
  rcases hwrite : Snapshot.write host.disk folder host.clock slice with ⟨fault | path, later⟩
  · rw [hwrite] at h
    dsimp only at h
    split at h <;> cases h
  · rw [hwrite] at h
    cases h
    exact ⟨path, rfl, rfl⟩

/-- If a reply tells where its slice was saved, then the slice answers the request and was written there. -/
theorem exists_write_of_requestWith
    (h : (requestWith host settings (symbols.map .text)).reply = .ok (.slice found none))
    (hs : found.savedTo = some location) :
    ∃ (slice : Slice Json) (path : FilePath), Answers host settings symbols slice ∧
      location = path.text ∧ found = { slice with savedTo := some path.text } ∧
      Snapshot.write host.disk settings.outputFolder host.clock slice =
        (.ok path, (requestWith host settings (symbols.map .text)).disk) := by
  cases hload : loadDocument host settings.documentPath with
  | error fault =>
    rw [requestWith, hload] at h
    dsimp only at h
    split at h <;> cases h
  | ok json =>
    have hrequest : requestWith host settings (symbols.map .text) =
        answer host settings (symbols.map .text) json := by rw [requestWith, hload]
    obtain ⟨result, hresult, hnone⟩ : ∃ result,
        (Session.ofDocument (.ofJson json) settings).context (symbols.map .text) = .ok result ∧
          result.savedTo = none := by
      obtain ⟨kind, hresult⟩ : ∃ kind : RequestKind,
          (Session.ofDocument (.ofJson json) settings).context (symbols.map .text) = _ :=
        Session.exists_context_eq_ok Json.hashable_of_mem_texts
      exact ⟨_, hresult, rfl⟩
    obtain ⟨hreply, hdisk⟩ := answer_eq host hresult
    have hanswers : Answers host settings symbols _ := ⟨json, result, hload, hresult, rfl⟩
    have hunsaved : ((Session.ofDocument (.ofJson json) settings).writeOut result).savedTo = none := hnone
    rw [hrequest] at h ⊢
    rw [hreply] at h
    rw [hdisk]
    generalize (Session.ofDocument (.ofJson json) settings).writeOut result = slice at *
    cases hsave : settings.saveSnapshots with
    | false =>
      rw [hsave, if_neg Bool.false_ne_true] at h
      cases h
      cases hunsaved.symm.trans hs
    | true =>
      rw [hsave, if_pos rfl] at h
      obtain ⟨path, rfl, hwrite⟩ := write_of_saveSlice h
      cases hs
      exact ⟨slice, path, hanswers, rfl, rfl, hwrite⟩

/-- A slice that answers a request has distinct names and no whole numbers of too many digits, its own
count of objects apart. -/
theorem Answers.each {slice : Slice Json} (h : Answers host settings symbols slice) :
    slice.Each (Json.MadeOf Json.Brief) := by
  obtain ⟨json, found, hload, hfound, rfl⟩ := h
  have hjson : json.MadeOf Json.Brief := Document.madeOf_of_loadDocument Json.madeOf_brief_of_read hload
  refine Session.each_writeOut (Document.madeOf_link (fun _ hm => absurd hm List.not_mem_nil) hjson)
    (fun n hn => by cases hn) (fun symbol hs => ?_) hfound
  obtain ⟨s, -, rfl⟩ := List.mem_map.mp hs
  exact .leaf rfl fun n hn => by cases hn

end

/-- A slice that answers a request is read as its payload when it has been written. -/
theorem read_of_answers {host : Host} {settings : Settings} {symbols : List String} {slice : Slice Json}
    {path : FilePath} {later : Disk} (ha : Answers host settings symbols slice)
    (hr : (Json.object slice.payload).DoublesReadBack)
    (ht : Snapshot.isTooLong (.int slice.metadata.totalNodes) = false)
    (hw : Snapshot.write host.disk settings.outputFolder host.clock slice = (.ok path, later)) :
    Snapshot.read later settings.outputFolder path.name = .ok (.object slice.payload) := by
  have htotal : (Json.int slice.metadata.totalNodes).Brief := by
    rintro n hn
    cases hn
    simpa [Snapshot.isTooLong] using ht
  have hbrief : (Json.object slice.payload).MadeOf Json.Brief :=
    ha.each.payload (fun _ _ hn => by cases hn) htotal
  refine Snapshot.read_of_write hw (hbrief.distinctNames.madeOf fun leaf hl => ⟨hbrief.of_mem_leaves hl, ?_⟩)
  rintro x rfl
  exact hr x hl

/-- The settings under which a request is answered are the given ones or those of the configuration. -/
theorem exists_settings_of_request (host : Host) (settings? : Option Settings) (symbols : List Json)
    {found : Slice Json} (h : (request host settings? symbols).reply = .ok (.slice found none)) :
    ∃ settings, (settings? = some settings ∨
        settings? = none ∧ Configuration.settings host [] = .ok settings) ∧
      (requestWith host settings symbols).reply = .ok (.slice found none) ∧
      (request host settings? symbols).disk = (requestWith host settings symbols).disk := by
  unfold request at h ⊢
  cases settings? with
  | some settings => exact ⟨settings, .inl rfl, h, rfl⟩
  | none =>
    cases hsettings : Configuration.settings host [] with
    | ok settings =>
      rw [hsettings] at h
      exact ⟨settings, .inr ⟨rfl, rfl⟩, h, rfl⟩
    | error fault =>
      rw [hsettings] at h
      dsimp only [Outcome.after] at h
      split at h <;> cases h

/-- If the objects in a slice have distinct names and the texts of its doubles are read as those doubles,
then its snapshot is read as its payload, in the same order. It has no snapshot if the disk refuses or if a
whole number in it has more digits than can be written. The slice that a request is answered with needs no
distinct names, as it comes from a document, and the only number in it that could be too long is the count
of its objects: where the reply tells that it was saved, the snapshot is read as the payload of the reply
but for the member that tells this. -/
theorem read_saved :
    (∀ (disk : Disk) (folder : FilePath) (clock : Instant) (slice : Slice Json),
      slice.Each Json.DistinctNames → (Json.object slice.payload).DoublesReadBack →
      match Snapshot.save disk folder clock slice with
      | (.ok path, later) => Snapshot.read later folder path.name = .ok (.object slice.payload)
      | (.error .numberTooLong, _) =>
        ∃ leaf ∈ (Json.object slice.payload).leaves, Snapshot.isTooLong leaf = true
      | (.error (.disk fault), later) =>
        Snapshot.write disk folder clock slice = (.error fault, later)) ∧
    ∀ (host : Host) (settings? : Option Settings) (symbols : List String) (found : Slice Json)
      (location : String),
      let outcome := request host settings? (symbols.map .text)
      let payload := (Reply.slice found none).payload
      outcome.reply = .ok (.slice found none) → found.savedTo = some location →
      (Json.object payload).DoublesReadBack →
      Snapshot.isTooLong (.int found.metadata.totalNodes) = false →
      ∃ (settings : Settings) (path : FilePath),
        (settings? = some settings ∨ settings? = none ∧ Configuration.settings host [] = .ok settings) ∧
        location = path.text ∧
        Snapshot.read outcome.disk settings.outputFolder path.name =
          .ok (.object (Assoc.erase "savedTo" payload)) := by
  refine ⟨fun disk folder clock slice hn hr => Snapshot.read_of_save hn hr, ?_⟩
  intro host settings? symbols found location outcome payload hreply hs hr ht
  obtain ⟨settings, hsettings, hreply, hdisk⟩ := exists_settings_of_request host settings? _ hreply
  obtain ⟨slice, path, hanswers, hpath, rfl, hwrite⟩ := exists_write_of_requestWith hreply hs
  refine ⟨settings, path, hsettings, hpath, ?_⟩
  have hslice : payload = slice.payload ++ [("savedTo", .text path.text)] := payload_slice _ none
  have hpayload : Assoc.erase "savedTo" payload = slice.payload := by
    have herase : Assoc.erase "savedTo" slice.payload = slice.payload := slice.erase_payload (by decide)
    rw [Assoc.erase] at herase
    rw [hslice, Assoc.erase, List.filter_append, herase]
    exact List.append_nil _
  have hdoubles : (Json.object slice.payload).DoublesReadBack := by
    intro x hx
    refine hr x ?_
    rw [Json.leaves_object] at hx ⊢
    rw [hslice, List.flatMap_append]
    exact List.mem_append_left _ hx
  rw [hpayload, hdisk]
  exact read_of_answers hanswers hdoubles ht hwrite

/-! ## A slice in the working folder -/

/-- A slice with an object whose members need every kind of escape and of number. -/
def tricky : Slice Json :=
  { symbols := [.text "a"]
    nodes := [[("text", .text "\"\\/\n\t\x00\x7f é \u2028 😀"), ("id", .text "b"), ("size", .int (-10 ^ 30)),
      ("share", .real (.ofDecimal true 5 (-1))), ("parts", .list [.list [], .object [], .bool true, .null])]]
    nodeIds := ["a"]
    endpoints := [("é", .object [("é", .text "")])] }

/-- A slice is written in the working folder. -/
theorem write_lone (slice : Slice Json) : ∃ path later,
    Snapshot.write lone.disk ⟨0, []⟩ lone.clock slice = (.ok path, later) := by
  have hplace : lone.disk.place ⟨0, []⟩ = .ok [] := by
    rw [Disk.place_of_nullFree (by decide)]
    rfl
  have hnull : (FilePath.child ⟨0, []⟩ Snapshot.firstName).NullFree :=
    FilePath.NullFree.child (by decide) (Snapshot.null_notMem_name default 0)
  have hchild : lone.disk.place (FilePath.child ⟨0, []⟩ Snapshot.firstName) =
      .ok [Snapshot.firstName] := by
    rw [Disk.place_of_nullFree hnull]
    rfl
  have hhas : lone.disk.has (FilePath.child ⟨0, []⟩ Snapshot.firstName) = .ok false := by
    rw [Disk.has, Disk.find?_of_place hchild]
    rfl
  exact ⟨_, _, Snapshot.write_of_search (Disk.find?_of_place hplace) (.free hhas) hchild⟩

theorem each_tricky : tricky.Each Json.DistinctNames where
  symbols := List.forall_mem_singleton.mpr (.leaf rfl)
  matchedSymbols _ hs := absurd hs List.not_mem_nil
  nodes := by
    have hparts : ∀ part ∈ [Json.list [], .object [], .bool true, .null], part.DistinctNames := by
      simp only [List.forall_mem_cons]
      exact ⟨.list nofun, .object List.nodup_nil nofun, .leaf rfl, .leaf rfl, nofun⟩
    refine List.forall_mem_singleton.mpr (.object (by decide) ?_)
    simp only [List.forall_mem_cons]
    exact ⟨.leaf rfl, .leaf rfl, .leaf rfl, .leaf rfl, .list hparts, nofun⟩
  endpoints := .object (by decide) (List.forall_mem_singleton.mpr
    (.object (by decide) (List.forall_mem_singleton.mpr (.leaf rfl))))
  relationships := .object List.nodup_nil nofun
  sourceFiles _ hf := absurd hf List.not_mem_nil
  imports _ hi := absurd hi List.not_mem_nil
  dependencies := .object List.nodup_nil nofun

theorem doublesReadBack_tricky : (Json.object tricky.payload).DoublesReadBack := by
  have hall : ∀ leaf ∈ (Json.object tricky.payload).leaves, Json.read (Json.print leaf) = .ok leaf := by
    decide +kernel
  exact fun x hx => hall _ hx

/-- There are no doubles in what is handed out for a document without any. -/
theorem doublesReadBack_lone {slice : Slice Value} {location : Option String}
    (h : loneSession.context [.text "a"] = .ok slice) :
    (Json.object
      (Reply.slice { loneSession.writeOut slice with savedTo := location } none).payload).DoublesReadBack := by
  have hobject : (Json.object [("id", .text "a")]).MadeOf fun leaf => ∀ x, leaf ≠ .real x :=
    .object (by decide) (List.forall_mem_singleton.mpr (.leaf rfl fun _ => Json.noConfusion))
  have hnone : loneJson.MadeOf fun leaf => ∀ x, leaf ≠ .real x :=
    .object (by decide) (List.forall_mem_singleton.mpr (.list (List.forall_mem_singleton.mpr hobject)))
  have heach : (loneSession.writeOut slice).Each (Json.MadeOf fun leaf => ∀ x, leaf ≠ .real x) :=
    Session.each_writeOut (Document.madeOf_link nofun hnone) (fun _ => Json.noConfusion)
      (List.forall_mem_singleton.mpr (.leaf rfl fun _ => Json.noConfusion)) h
  have hpayload := heach.payload (fun _ _ => Json.noConfusion) fun _ => Json.noConfusion
  intro x hx
  rw [payload_slice, Json.leaves_object, List.flatMap_append, List.mem_append, ← Json.leaves_object] at hx
  rcases hx with hx | hx
  · exact absurd rfl (hpayload.of_mem_leaves hx x)
  · cases location <;> simp [Json.leaves] at hx

theorem read_saved_lone :
    (∃ path later, Snapshot.save lone.disk ⟨0, []⟩ lone.clock tricky = (.ok path, later) ∧
      Snapshot.read later ⟨0, []⟩ path.name = .ok (.object tricky.payload)) ∧
    ∃ found location, (request lone (some workingFolder) [.text "a"]).reply = .ok (.slice found none) ∧
      found.nodeIds = ["a"] ∧ found.savedTo = some location ∧
      ∃ path : FilePath, location = path.text ∧
        Snapshot.read (request lone (some workingFolder) [.text "a"]).disk ⟨0, []⟩ path.name =
          .ok (.object (Assoc.erase "savedTo" (Reply.slice found none).payload)) := by
  constructor
  · obtain ⟨path, later, hwrite⟩ := write_lone tricky
    have hsave := Snapshot.save_eq_ok hwrite rfl
    have hread := read_saved.1 lone.disk ⟨0, []⟩ lone.clock tricky each_tricky doublesReadBack_tricky
    rw [hsave] at hread
    exact ⟨path, later, hsave, hread⟩
  · obtain ⟨slice, hslice, hnodeIds, -, htotal⟩ := context_lone
    obtain ⟨path, later, hwrite⟩ := write_lone (loneSession.writeOut slice)
    have hreply : (request lone (some workingFolder) [.text "a"]).reply =
        .ok (.slice { loneSession.writeOut slice with savedTo := some path.text } none) := by
      have hanswer := (answer_eq lone hslice).1
      have hrequest : request lone (some workingFolder) [.text "a"] =
          answer lone workingFolder [.text "a"] loneJson := by
        rw [request, requestWith, loadDocument_lone]
      have hsaved : (saveSlice lone ⟨0, []⟩ (loneSession.writeOut slice)).reply =
          .ok (.slice { loneSession.writeOut slice with savedTo := some path.text } none) := by
        rw [saveSlice, hwrite]
      rw [hrequest, hanswer]
      exact hsaved
    have hshort : Snapshot.isTooLong (.int slice.metadata.totalNodes) = false := by
      rw [htotal]
      decide
    obtain ⟨settings, path', hsettings, hlocation, hread⟩ :=
      read_saved.2 lone (some workingFolder) ["a"] _ _ hreply rfl (doublesReadBack_lone hslice) hshort
    rcases hsettings with hsettings | ⟨hnone, -⟩
    · cases hsettings
      exact ⟨_, _, hreply, hnodeIds, rfl, path', hlocation, hread⟩
    · cases hnone

end ContextSlice.Tool
