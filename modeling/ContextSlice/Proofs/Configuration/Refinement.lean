import ContextSlice.Proofs.Configuration.Calls
import ContextSlice.Proofs.Shell.Settings

/-!
# The configuration as a map

A configuration file that can be read tracks a map of settings (`Configuration.tracks_of_content`), and it
does so after any calls (`Configuration.tracks_after`). So the file keeps the entries that it had, and the
settings in it are those of the map, which are accepted and loaded (`Configuration.calls_refine`). This is so
for all libraries of which two things are known: the tables that are written are read back, and the order of
members is of no account to the reader of settings.
-/

namespace ContextSlice.Configuration

/-- The host after calls, failed ones included. -/
def after (host : Host) : List Call → Host
  | [] => host
  | call :: calls => after (call.perform host).2 calls

/-- The tables that calls write one after another. -/
def written (host : Host) : List Call → List Members
  | [] => []
  | call :: calls => (call.written? host).toList ++ written (call.perform host).2 calls

/-- The map of settings after calls. -/
def contextAfter (host : Host) (context : Option Members) : List Call → Option Members
  | [] => context
  | call :: calls => contextAfter (call.perform host).2 (call.context host context) calls

section
variable {host : Host} {table : Members} {context : Option Members}

theorem perform_toLibraries (host : Host) (call : Call) :
    (call.perform host).2.toLibraries = host.toLibraries := by
  cases call <;> rfl

/-- Calls change the disk, and leave the libraries as they are. -/
theorem after_toLibraries (host : Host) (calls : List Call) :
    (after host calls).toLibraries = host.toLibraries := by
  induction calls generalizing host with
  | nil => rfl
  | cons call calls ih => exact (ih _).trans (perform_toLibraries host call)

/-- After any calls the file holds the map that they make, if all tables they write are read back. -/
theorem tracks_after {calls : List Call} (ho : host.reader.OrderFree) (h : Tracks host table context)
    (hr : ∀ data ∈ written host calls, Restored host.toml data) :
    Tracks (after host calls) table (contextAfter host context calls) := by
  induction calls generalizing host context with
  | nil => exact h
  | cons call calls ih =>
    obtain ⟨hfirst, hrest⟩ := List.forall_mem_append.mp hr
    have hcall := (tracks_perform ho h fun data hd => hfirst data (Option.mem_toList.mpr hd)).1
    -- A call changes the disk only, so what is known of the libraries is still known after it.
    have hlibraries := perform_toLibraries host call
    refine ih ?_ hcall ?_
    · rwa [hlibraries]
    · rwa [hlibraries]

/-- Calls write what the first ones write, and then what the others write after them. -/
theorem written_append (host : Host) (before calls : List Call) :
    written host (before ++ calls) = written host before ++ written (after host before) calls := by
  induction before generalizing host with
  | nil => rfl
  | cons call before ih => rw [List.cons_append, written, ih, ← List.append_assoc, ← written, after]

/-- A call that fails among others leaves the file as it was. -/
theorem file?_of_error {before rest : List Call} {call : Call} {fault : ConfigFault}
    (ho : host.reader.OrderFree) (h : Tracks host table context)
    (hr : ∀ data ∈ written host (before ++ call :: rest), Restored host.toml data)
    (hf : (call.perform (after host before)).1 = .error fault) :
    file? (call.perform (after host before)).2 = file? (after host before) := by
  rw [written_append] at hr
  obtain ⟨hbefore, hcalls⟩ := List.forall_mem_append.mp hr
  have hcall := (List.forall_mem_append.mp hcalls).1
  have hlibraries := after_toLibraries host before
  refine (tracks_perform ?_ (tracks_after ho h hbefore) fun data hd => ?_).2 fault hf
  · rwa [hlibraries]
  · rw [hlibraries]
    exact hcall data (Option.mem_toList.mpr hd)

/-- A configuration file that can be read is tracked by its own table, if the settings in it are accepted or
there are none. -/
theorem tracks_of_content (htable : content host = .ok (.inl table))
    (hcontext : ∀ value, table.lookup contextKey = some value →
      ∃ members settings, value = .object members ∧ validate host members = .ok settings) :
    Tracks host table (contextOf table) := by
  have hknown : ∃ found, host.disk.find? host.configPath = .ok found := by
    cases hfind : host.disk.find? host.configPath with
    | ok found => exact ⟨found, rfl⟩
    | error fault =>
      rw [content, Disk.has, hfind] at htable
      cases htable
  obtain ⟨hentry, haccepted⟩ : table.lookup contextKey = (contextOf table).map .object ∧
      ∃ settings, validate host ((contextOf table).getD []) = .ok settings := by
    cases hlookup : table.lookup contextKey with
    | none =>
      rw [contextOf, hlookup]
      exact ⟨rfl, _, rfl⟩
    | some value =>
      obtain ⟨members, settings, rfl, hsettings⟩ := hcontext value hlookup
      rw [contextOf, hlookup]
      exact ⟨rfl, settings, hsettings⟩
  refine ⟨hknown, ⟨table, load_of_content htable, fun key => ?_⟩, haccepted⟩
  rw [lookup_withContext]
  split
  · rename_i hkey
    rw [hkey, ← hentry]
    exact Assoc.SameMap.refl table contextKey
  · exact Assoc.SameMap.refl table key

/-- The settings that are loaded, without variables of the environment, are those of the map. -/
theorem settings_of_tracks (ho : host.reader.OrderFree) (h : Tracks host table context) :
    ∃ settings, validate host (context.getD []) = .ok settings ∧
      Configuration.settings { host with documentVariable := none, outputVariable := none } [] =
        .ok settings := by
  obtain ⟨settings, hsettings⟩ := h.accepted
  obtain ⟨found, hload, hsame⟩ := h.loaded
  refine ⟨settings, hsettings, ?_⟩
  have hload' : loadContext { host with documentVariable := none, outputVariable := none } =
      .ok ((contextOf found).getD []) := by
    have hsamefile : load { host with documentVariable := none, outputVariable := none } = load host := rfl
    rw [loadContext, hsamefile, hload]
    rfl
  rw [Configuration.settings, hload']
  exact validate_of_sameMap ho (sameMap_getD (contextOf_rel hsame)).symm hsettings

end

/-- The configuration as a map. If the configuration file can be read, or there is none, and the settings in
it are accepted, then any calls leave a file with the same entries and the settings of the map, as long as
what they write is read back; these settings are accepted, so they are loaded without fail. A call that fails
leaves the file as it was. -/
theorem calls_refine {host : Host} {table : Members} {calls : List Call}
    (ho : host.reader.OrderFree) (htable : content host = .ok (.inl table))
    (hcontext : ∀ value, table.lookup contextKey = some value →
      ∃ members settings, value = .object members ∧ validate host members = .ok settings)
    (hr : ∀ data ∈ written host calls, Restored host.toml data) :
    let last := after host calls
    let context := contextAfter host (contextOf table) calls
    (∀ before call rest fault, calls = before ++ call :: rest →
      (call.perform (after host before)).1 = .error fault →
      file? (call.perform (after host before)).2 = file? (after host before)) ∧
    (∃ found, load last = .ok found ∧
      (∀ key, key ≠ contextKey → Option.Rel Datum.Reordered (found.lookup key) (table.lookup key)) ∧
      Option.Rel Datum.Reordered (found.lookup contextKey) (context.map .object)) ∧
    ∃ settings, validate host (context.getD []) = .ok settings ∧
      Configuration.settings { last with documentVariable := none, outputVariable := none } [] =
        .ok settings := by
  intro last context
  have hlibraries : last.toLibraries = host.toLibraries := after_toLibraries host calls
  have hfirst := tracks_of_content htable hcontext
  have hlast : Tracks last table context := tracks_after ho hfirst hr
  refine ⟨fun before call rest fault hcalls hf => ?_, ?_, ?_⟩
  · subst hcalls
    exact file?_of_error ho hfirst hr hf
  · obtain ⟨found, hload, hsame⟩ := hlast.loaded
    refine ⟨found, hload, fun key hkey => ?_, ?_⟩
    · simpa only [lookup_withContext, if_neg hkey] using hsame key
    · simpa only [lookup_withContext, if_true] using hsame contextKey
  · obtain ⟨settings, hsettings, hload⟩ := settings_of_tracks (hlibraries ▸ ho) hlast
    rw [validate_congr (congrArg Libraries.reader hlibraries)] at hsettings
    exact ⟨settings, hsettings, hload⟩

/-! ## A file with a title -/

/-- A table with a title, and perhaps with settings. -/
def titled (context : Option Members) : Members :=
  ("title", .text "x") :: (context.map fun members => (contextKey, Datum.object members)).toList

/-- The text that it is written as. -/
def titledText (context : Option Members) : String :=
  (Shell.tomlLibrary.print (titled context)).toOption.getD ""

/-- A host with this text in its configuration file. -/
def kept (context : Option Members) : Host := holding (titledText context)

/-- A table with a title can be written, and is read back in the same order. -/
structure ReadBack (context : Option Members) : Prop where
  printed : Shell.tomlLibrary.print (titled context) = .ok (titledText context)
  read : Shell.tomlLibrary.read (String.ofList (Text.unifyNewlines (titledText context).toList)) =
    .ok (titled context)

section
variable {context next : Option Members} {name raw : String} {value : Json}

theorem ReadBack.restored (h : ReadBack context) : Restored Shell.tomlLibrary (titled context) :=
  ⟨_, _, _, h.printed, rfl, h.read, .refl _⟩

theorem place_kept (context : Option Members) :
    (kept context).disk.place (kept context).configPath = .ok ["home", "config.toml"] :=
  place_holding (titledText context)

theorem find?_kept (context : Option Members) : (kept context).disk.find? (kept context).configPath =
    .ok (some (.file (.text (titledText context)))) := Disk.find?_of_place (place_kept context)

/-- The table of such a host is read from its file. -/
theorem content_kept (h : ReadBack context) : content (kept context) = .ok (.inl (titled context)) :=
  content_of_file (find?_kept context) rfl h.read

/-- Writing another such table makes the host that has it. -/
theorem writing_kept {α : Type} (h : ReadBack next) (result : α) :
    writing (kept context) result (titled next) = (.ok result, (kept next).disk) := by
  have hfolder : (kept context).disk.find? (kept context).configFolder = .ok (some .folder) :=
    Disk.find?_folder_of_child configFile_isName (find?_kept context)
  have hwrite : (kept context).disk.write (kept context).configPath (titledText next) =
      .ok (kept next).disk := by
    rw [Disk.write, place_kept]
    rfl
  have hprint : (kept context).toml.print (titled next) = .ok (titledText next) := h.printed
  rw [writing, write, Disk.makeFolders_of_folder hfolder, hprint]
  dsimp only
  rw [hwrite]

/-- A setting that is saved makes another host of this kind. -/
theorem perform_kept (h : ReadBack next) (hc : changed (kept context) name raw = .ok (value, titled next)) :
    (Call.save name raw).perform (kept context) = (.ok (), kept next) := by
  have hsave : save (kept context) name raw = (.ok value, (kept next).disk) := by
    rw [save, hc]
    exact writing_kept h value
  rw [Call.perform, hsave]
  rfl

end

/-- Settings of this kind of host. -/
def scanOff : Members := [("reverse_scan", .scalar (.bool false))]
@[inherit_doc scanOff] def lengthThree : Members := Assoc.put "min_substring_length" (.scalar (.int 3)) scanOff
@[inherit_doc scanOff] def scanOn : Members := [("reverse_scan", .scalar (.bool true))]

/-- What is wrong with a least length of zero. -/
def lengthFault : SettingFault :=
  ⟨⟨none, Shell.Problem.told (.tooSmall 1), .scalar (.int 0)⟩, "min_substring_length"⟩

/-- Calls of which the second one fails. -/
def someCalls : List Call :=
  [.save "min_substring_length" "3", .save "min_substring_length" "0", .reset, .save "reverse_scan" "on"]

/-- The tables before and after these calls are read back. -/
theorem readBack_someCalls : ReadBack (some scanOff) ∧ ReadBack (some lengthThree) ∧ ReadBack none ∧
    ReadBack (some scanOn) :=
  ⟨⟨by decide +kernel, by decide +kernel⟩, ⟨by decide +kernel, by decide +kernel⟩,
    ⟨by decide +kernel, by decide +kernel⟩, ⟨by decide +kernel, by decide +kernel⟩⟩

/-- The changes that these calls make, of which the second one is refused. -/
theorem changed_someCalls :
    changed (kept (some scanOff)) "min_substring_length" "3" = .ok (.int 3, titled (some lengthThree)) ∧
    changed (kept (some lengthThree)) "min_substring_length" "0" =
      .error (.invalid [lengthFault] (Shell.report Settings.modelName [lengthFault])) ∧
    changed (kept none) "reverse_scan" "on" = .ok (.bool true, titled (some scanOn)) := by
  obtain ⟨hscanOff, hlengthThree, hnone, -⟩ := readBack_someCalls
  refine ⟨?_, ?_, ?_⟩
  · rw [changed, load_of_content (content_kept hscanOff)]
    decide +kernel
  · rw [changed, load_of_content (content_kept hlengthThree)]
    decide +kernel
  · rw [changed, load_of_content (content_kept hnone)]
    decide +kernel

/-- Removing the settings leaves the title alone. -/
theorem reset_lengthThree : reset (kept (some lengthThree)) = (.ok true, (kept none).disk) := by
  obtain ⟨-, hlengthThree, hnone, -⟩ := readBack_someCalls
  rw [reset, load_of_content (content_kept hlengthThree)]
  exact writing_kept hnone true

theorem perform_someCalls :
    (Call.save "min_substring_length" "3").perform (kept (some scanOff)) = (.ok (), kept (some lengthThree)) ∧
    (∃ fault, (Call.save "min_substring_length" "0").perform (kept (some lengthThree)) =
      (.error fault, kept (some lengthThree))) ∧
    Call.reset.perform (kept (some lengthThree)) = (.ok (), kept none) ∧
    (Call.save "reverse_scan" "on").perform (kept none) = (.ok (), kept (some scanOn)) := by
  obtain ⟨-, hlengthThree, -, hscanOn⟩ := readBack_someCalls
  obtain ⟨hfirst, hsecond, hlast⟩ := changed_someCalls
  refine ⟨perform_kept hlengthThree hfirst, ⟨_, perform_of_error hsecond⟩, ?_, perform_kept hscanOn hlast⟩
  rw [Call.perform, reset_lengthThree]
  rfl

/-- What these calls write, and what they leave. -/
theorem run_someCalls :
    after (kept (some scanOff)) someCalls = kept (some scanOn) ∧
    written (kept (some scanOff)) someCalls =
      [titled (some lengthThree), titled none, titled (some scanOn)] ∧
    contextAfter (kept (some scanOff)) (some scanOff) someCalls = some scanOn := by
  obtain ⟨hfirst, ⟨fault, hsecond⟩, hthird, hlast⟩ := perform_someCalls
  obtain ⟨hchangedFirst, hchangedSecond, hchangedLast⟩ := changed_someCalls
  have hload := load_of_content (content_kept readBack_someCalls.2.1)
  refine ⟨?_, ?_, ?_⟩
  · simp only [someCalls, after, hfirst, hsecond, hthird, hlast]
  · simp only [someCalls, written, hfirst, hsecond, hthird, Call.written?, hchangedFirst, hchangedSecond,
      hchangedLast, hload]
    rfl
  · simp only [someCalls, contextAfter, hfirst, hsecond, hthird, hlast, Call.context]
    decide +kernel

theorem calls_refine_titled :
    let last := after (kept (some scanOff)) someCalls
    file? (after (kept (some scanOff)) (someCalls.take 2)) =
      file? (after (kept (some scanOff)) (someCalls.take 1)) ∧
    (∃ found, load last = .ok found ∧
      Option.Rel Datum.Reordered (found.lookup "title") (some (.text "x")) ∧
      Option.Rel Datum.Reordered (found.lookup contextKey) (some (.object scanOn))) ∧
    ∃ settings, validate (kept none) scanOn = .ok settings ∧
      Configuration.settings (kept (some scanOn)) [] = .ok settings := by
  obtain ⟨hafter, hwritten, hcontext⟩ := run_someCalls
  obtain ⟨hfirst, ⟨fault, hsecond⟩, -⟩ := perform_someCalls
  obtain ⟨hscanOff, hlengthThree, hnone, hscanOn⟩ := readBack_someCalls
  have hr : ∀ data ∈ written (kept (some scanOff)) someCalls, Restored Shell.tomlLibrary data := by
    rw [hwritten]
    simp only [List.forall_mem_cons]
    exact ⟨hlengthThree.restored, hnone.restored, hscanOn.restored, nofun⟩
  have hobject : ∀ value, (titled (some scanOff)).lookup contextKey = some value →
      ∃ members settings, value = .object members ∧ validate (kept (some scanOff)) members = .ok settings := by
    rintro value hvalue
    cases hvalue
    exact ⟨scanOff, _, rfl, rfl⟩
  obtain ⟨hfile, ⟨found, hload, hothers, hfound⟩, settings, hsettings, hlast⟩ :=
    calls_refine Shell.settingReader_orderFree (content_kept hscanOff) hobject hr
  have hcontext' : contextAfter (kept (some scanOff)) (contextOf (titled (some scanOff))) someCalls =
      some scanOn := hcontext
  rw [hcontext'] at hfound hsettings
  rw [hafter] at hlast
  refine ⟨hfile (someCalls.take 1) _ (someCalls.drop 2) fault rfl ?_,
    ⟨found, hload, hothers "title" (by decide), hfound⟩, settings, hsettings, hlast⟩
  rw [someCalls, List.take_succ_cons, List.take_zero, after, after, hfirst, hsecond]

end ContextSlice.Configuration
