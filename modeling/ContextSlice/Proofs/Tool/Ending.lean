import ContextSlice.Proofs.Session.Saving
import ContextSlice.Tool.Request

/-!
# Endings

A request for texts is refused, and then the disk is as it was, or it is answered (`Tool.Ends`): the slice
is not to be saved, it has been saved in a new file, or it could not be saved. The payload tells which of
these it is (`Tool.Ends.eq_ofPayload`). But for the two members that tell it, the payload depends on the
document that is loaded and on nothing else (`Tool.Ends.bare_unique`).
-/

namespace ContextSlice

/-! ## Payloads -/

namespace Slice

/-- The names of the members that the payload of a slice may have. -/
def payloadNames : List String :=
  ["symbols", "matchedSymbols", "nodes", "endpoints", "relationships", "metadata"]

/-- A member that is left out where it is empty has the name that it was given. -/
theorem fst_of_mem_unlessEmpty {name : String} {members : List (String × Json)}
    {member : String × Json} (h : member ∈ unlessEmpty name members) : member.1 = name := by
  unfold unlessEmpty at h
  split at h
  · cases h
  · rw [List.mem_singleton.mp h]

/-- All members of the payload of a slice have one of these names. -/
theorem mem_payloadNames {slice : Slice Json} {member : String × Json} (h : member ∈ slice.payload) :
    member.1 ∈ payloadNames := by
  simp only [payload, List.mem_append, List.mem_cons, List.not_mem_nil, or_false] at h
  rcases h with (((rfl | rfl | rfl) | h) | h) | rfl
  case inl.inr => simp [fst_of_mem_unlessEmpty h, payloadNames]
  case inl.inl.inr => simp [fst_of_mem_unlessEmpty h, payloadNames]
  all_goals simp [payloadNames]

/-- The payload of a slice has no members of other names. -/
theorem lookup_payload (slice : Slice Json) {name : String} (h : name ∉ payloadNames) :
    slice.payload.lookup name = none := by
  rw [List.lookup_eq_none_iff]
  intro member hm
  have hne : name ≠ member.1 := fun heq => h (heq ▸ mem_payloadNames hm)
  simpa using hne

/-- Erasing another name changes nothing. -/
theorem erase_payload (slice : Slice Json) {name : String} (h : name ∉ payloadNames) :
    Assoc.erase name slice.payload = slice.payload := by
  refine List.filter_eq_self.mpr fun member hm => ?_
  have hne : member.1 ≠ name := fun heq => h (heq ▸ mem_payloadNames hm)
  simpa using hne

end Slice

namespace Tool

/-- A payload without the members that tell whether its slice has been saved. -/
def bare (payload : List (String × Json)) : List (String × Json) :=
  Assoc.erase "snapshotError" (Assoc.erase "savedTo" payload)

/-- A slice as it is handed out answers a request for some texts from the document that is loaded for
it. -/
def Answers (host : Host) (settings : Settings) (symbols : List String) (slice : Slice Json) : Prop :=
  ∃ json found, loadDocument host settings.documentPath = .ok json ∧
    (Session.ofDocument (.ofJson json) settings).context (symbols.map .text) = .ok found ∧
    slice = (Session.ofDocument (.ofJson json) settings).writeOut found

/-- How a request ends: it is refused, or it is answered with a slice that is not to be saved, that has been
saved, or that could not be saved. -/
inductive Ending where
  | refused
  | unsaved
  | saved
  | saveFailed
  deriving DecidableEq, Repr

/-- What is handed out and what is on the disk afterwards if a request for some texts ends in some way. -/
inductive Ends (host : Host) (settings : Settings) (symbols : List String) :
    List (String × Json) → Disk → Ending → Prop
  | refused {fault : DocumentFault} : loadDocument host settings.documentPath = .error fault →
      Ends host settings symbols [("error", .text fault.message)] host.disk .refused
  | unsaved {slice : Slice Json} : settings.saveSnapshots = false →
      Answers host settings symbols slice →
      Ends host settings symbols (slice.payload ++ [("savedTo", .null)]) host.disk .unsaved
  | saved {slice : Slice Json} {path : FilePath} {later : Disk} : settings.saveSnapshots = true →
      Answers host settings symbols slice → host.disk.find? path = .ok none →
      later.find? path = .ok (some (.file (.text (Snapshot.text slice)))) →
      Ends host settings symbols (slice.payload ++ [("savedTo", .text path.text)]) later .saved
  | saveFailed {slice : Slice Json} {reason : String} {later : Disk} :
      settings.saveSnapshots = true → Answers host settings symbols slice →
      Ends host settings symbols
        (slice.payload ++ [("savedTo", .null), ("snapshotError", .text reason)]) later .saveFailed

section
variable {host again : Host} {settings : Settings} {symbols : List String}
variable {payload : List (String × Json)} {later : Disk} {ending : Ending}

/-! ## There is one ending -/

/-- How a request has ended, as its payload tells it. -/
def Ending.ofPayload (payload : List (String × Json)) : Ending :=
  if (payload.lookup "error").isSome then .refused
  else if (payload.lookup "snapshotError").isSome then .saveFailed
  else if payload.lookup "savedTo" = some .null then .unsaved
  else .saved

/-- The payload tells how the request has ended. -/
theorem Ends.eq_ofPayload (h : Ends host settings symbols payload later ending) :
    ending = .ofPayload payload := by
  have herror : "error" ∉ Slice.payloadNames := by decide
  have hfault : "snapshotError" ∉ Slice.payloadNames := by decide
  have hsaved : "savedTo" ∉ Slice.payloadNames := by decide
  cases h with
  | refused hload => rfl
  | unsaved | saved | saveFailed =>
    simp [Ending.ofPayload, List.lookup_append, Slice.lookup_payload, herror, hfault, hsaved]

/-! ## What does not matter -/

/-- Members about saving after the payload of a slice are left out. -/
theorem bare_append (slice : Slice Json) {members : List (String × Json)} (h : bare members = []) :
    bare (slice.payload ++ members) = slice.payload := by
  have hsaved : Assoc.erase "savedTo" slice.payload = _ := slice.erase_payload (by decide)
  have hfault : Assoc.erase "snapshotError" slice.payload = _ := slice.erase_payload (by decide)
  simp only [bare, Assoc.erase, List.filter_append] at h hsaved hfault ⊢
  rw [hsaved, hfault, h, List.append_nil]

/-- But for the members about saving, a payload is the reason why the document cannot be loaded, or it is
a slice that answers the request. -/
theorem Ends.bare_eq (h : Ends host settings symbols payload later ending) :
    (∃ fault, loadDocument host settings.documentPath = .error fault ∧
        bare payload = [("error", .text fault.message)]) ∨
      ∃ slice, Answers host settings symbols slice ∧ bare payload = slice.payload := by
  cases h with
  | refused hload => exact .inl ⟨_, hload, rfl⟩
  | unsaved _ hanswers => exact .inr ⟨_, hanswers, bare_append _ rfl⟩
  | saved _ hanswers => exact .inr ⟨_, hanswers, bare_append _ rfl⟩
  | saveFailed _ hanswers => exact .inr ⟨_, hanswers, bare_append _ rfl⟩

/-- A request is answered by one slice. -/
theorem Answers.unique {slice other : Slice Json} (h : Answers host settings symbols slice)
    (h' : Answers host settings symbols other) : slice = other := by
  obtain ⟨json, found, hload, hfound, rfl⟩ := h
  obtain ⟨json', found', hload', hfound', rfl⟩ := h'
  cases hload.symm.trans hload'
  cases hfound.symm.trans hfound'
  rfl

/-- A slice that answers a request for a host does so for another one that loads the same document, and
under other settings for saving. -/
theorem Answers.of_saving {folder : FilePath} {save : Bool} {slice : Slice Json}
    (hl : loadDocument again settings.documentPath = loadDocument host settings.documentPath)
    (h : Answers again (settings.saving folder save) symbols slice) :
    Answers host settings symbols slice := by
  obtain ⟨json, found, hload, hfound, rfl⟩ := h
  rw [Session.ofDocument_saving, Session.context_saving] at hfound
  exact ⟨json, found, hl ▸ hload, hfound, rfl⟩

/-- If the same document is loaded, then but for the members about saving the payload is the same. -/
theorem Ends.bare_unique {folder : FilePath} {save : Bool} {other : Ending}
    {payload' : List (String × Json)} {later' : Disk}
    (hl : loadDocument again settings.documentPath = loadDocument host settings.documentPath)
    (h : Ends host settings symbols payload later ending)
    (h' : Ends again (settings.saving folder save) symbols payload' later' other) :
    bare payload' = bare payload := by
  have hload : loadDocument again (settings.saving folder save).documentPath =
      loadDocument host settings.documentPath := hl
  rcases h.bare_eq with ⟨fault, hfault, hbare⟩ | ⟨slice, hanswers, hbare⟩
  · rcases h'.bare_eq with ⟨fault', hfault', hbare'⟩ | ⟨slice', ⟨json, -, hjson, -⟩, -⟩
    · cases hfault.symm.trans (hload.symm.trans hfault')
      rw [hbare, hbare']
    · cases hfault.symm.trans (hload.symm.trans hjson)
  · rcases h'.bare_eq with ⟨fault', hfault', -⟩ | ⟨slice', hanswers', hbare'⟩
    · obtain ⟨json, -, hjson, -⟩ := hanswers
      cases hjson.symm.trans (hload.symm.trans hfault')
    · rw [hbare, hbare', (hanswers'.of_saving hl).unique hanswers]

end

end Tool

end ContextSlice
