import ContextSlice.Proofs.Configuration.Store
import ContextSlice.Proofs.Settings.Reordered

/-!
# Changes of the configuration

Settings are saved one at a time, and removed all together (`Configuration.Call`). What the configuration
file holds is a map of settings beside entries that never change (`Configuration.Tracks`). A setting that is
saved is put into the map if the settings are accepted with it, and else even the file stays as it was
(`Configuration.tracks_save`); removing the settings never fails (`Configuration.tracks_reset`).
-/

namespace ContextSlice.Configuration

/-! ## Calls -/

/-- A change of the configuration: one setting is saved, or all of them are removed. -/
inductive Call where
  | save (name raw : String)
  | reset
  deriving DecidableEq, Repr

/-- Whether a call succeeds, and the host after it. -/
def Call.perform (host : Host) : Call → Except ConfigFault Unit × Host
  | .save name raw =>
    let (result, disk) := Configuration.save host name raw
    (result.map fun _ => (), host.withDisk disk)
  | .reset =>
    let (result, disk) := Configuration.reset host
    (result.map fun _ => (), host.withDisk disk)

/-- The table that a call writes to the configuration file, if it gets so far. -/
def Call.written? (host : Host) : Call → Option Members
  | .save name raw => (changed host name raw).toOption.map Prod.snd
  | .reset => (load host).toOption.bind fun table =>
      if Assoc.has table contextKey then some (Assoc.erase contextKey table) else none

/-- The map of settings after a call: a setting that was saved has the value that its text stands for, and
after a reset there are no settings. -/
def Call.context (host : Host) (context : Option Members) : Call → Option Members
  | .save name raw =>
    match ((Call.save name raw).perform host).1, coerce name raw with
    | .ok _, .ok value => some (Assoc.put name (.ofJson value) (context.getD []))
    | _, _ => context
  | .reset => none

/-- The settings in a table, if it has any. -/
def contextOf (table : Members) : Option Members :=
  (table.lookup contextKey).bind Datum.members?

/-- The entries of a table together with other settings. -/
def withContext (table : Members) : Option Members → Members
  | none => Assoc.erase contextKey table
  | some members => Assoc.put contextKey (.object members) table

/-- The configuration file can be loaded and has the entries of a table together with settings that are
accepted. -/
structure Tracks (host : Host) (table : Members) (context : Option Members) : Prop where
  followed : Followed host
  loaded : ∃ found, load host = .ok found ∧ Assoc.SameMap found (withContext table context)
  accepted : ∃ settings, validate host (context.getD []) = .ok settings

section
variable {host : Host} {table found members : Members} {context : Option Members}
  {name raw : String} {value : Json} {settings : Settings}

/-! ## Tables and their settings -/

/-- A table together with other settings has these settings, and else what it had. -/
theorem lookup_withContext (table : Members) (context : Option Members) (key : String) :
    (withContext table context).lookup key =
      if key = contextKey then context.map .object else table.lookup key := by
  cases context with
  | none => exact Assoc.lookup_erase table contextKey key
  | some members => exact Assoc.lookup_put table contextKey key _

/-- Tables whose entries are the same stay so when they get settings that are the same. -/
theorem withContext_sameMap {others others' : Option Members}
    (h : Assoc.SameMap found (withContext table context)) (ho : Option.Rel Assoc.SameMap others others') :
    Assoc.SameMap (withContext found others) (withContext table others') := by
  intro key
  have hkey := h key
  rw [lookup_withContext] at hkey ⊢
  rw [lookup_withContext]
  split
  · exact optionRel_map ho fun _ _ => Datum.Reordered.of_sameMap
  · rename_i hne
    rwa [if_neg hne] at hkey

/-- The settings in a table are those that it was given. -/
theorem contextOf_rel (h : Assoc.SameMap found (withContext table context)) :
    Option.Rel Assoc.SameMap (contextOf found) context := by
  have hkey := h contextKey
  rw [lookup_withContext, if_pos rfl] at hkey
  have hbind : (context.map Datum.object).bind Datum.members? = context := by cases context <;> rfl
  rw [← hbind]
  exact optionRel_bind hkey fun _ _ hvalue => hvalue.members?

theorem sameMap_getD {other : Option Members} (h : Option.Rel Assoc.SameMap context other) :
    Assoc.SameMap (context.getD []) (other.getD []) := by
  cases h with
  | none => exact .refl []
  | some h => exact h

/-- The settings that are to be changed are those of the table, or none. -/
theorem contextTable_eq_ok (h : contextTable table = .ok members) :
    members = (contextOf table).getD [] := by
  unfold contextTable at h
  split at h
  · rename_i hnone
    cases h
    rw [contextOf, hnone]
    rfl
  · rename_i hsome
    cases h
    rw [contextOf, hsome]
    rfl
  · cases h

/-- The settings of a table together with other ones are these. -/
theorem contextOf_withContext (table members : Members) :
    contextOf (withContext table (some members)) = some members := by
  rw [contextOf, lookup_withContext, if_pos rfl]
  rfl

/-- The settings that are accepted are those that the reader makes of the data. -/
theorem validate_eq_ok_iff : validate host members = .ok settings ↔
    Settings.ofMembers host.reader members = .ok settings := by
  unfold validate
  split
  · rename_i hmembers
    rw [hmembers, Except.ok.injEq, Except.ok.injEq]
  · rename_i hmembers
    rw [hmembers]
    exact ⟨nofun, nofun⟩

/-- Settings are checked by the reader alone. -/
theorem validate_congr {other : Host} (h : host.reader = other.reader) : validate host = validate other := by
  funext values
  rw [validate, validate, h]

/-- Data that are accepted are accepted in any other order. -/
theorem validate_of_sameMap {values others : Members} (ho : host.reader.OrderFree)
    (h : Assoc.SameMap values others) (hv : validate host values = .ok settings) :
    validate host others = .ok settings :=
  validate_eq_ok_iff.mpr (Settings.ofMembers_of_sameMap ho h (validate_eq_ok_iff.mp hv))

/-! ## Saving a setting -/

/-- What a changed setting has gone through before it is written. -/
theorem of_changed_eq_ok {data : Members} (h : changed host name raw = .ok (value, data)) :
    ∃ table members settings, coerce name raw = .ok value ∧ load host = .ok table ∧
      contextTable table = .ok members ∧
      validate host (Assoc.put name (.ofJson value) members) = .ok settings ∧
      data = withContext table (some (Assoc.put name (.ofJson value) members)) := by
  obtain ⟨value', hvalue, h⟩ := exists_of_bind_eq_ok h
  obtain ⟨table, htable, h⟩ := exists_of_bind_eq_ok h
  obtain ⟨members, hmembers, h⟩ := exists_of_bind_eq_ok h
  obtain ⟨settings, hsettings, h⟩ := exists_of_bind_eq_ok h
  cases h
  exact ⟨table, members, settings, hvalue, htable, hmembers, hsettings, rfl⟩

/-- A table that could not be written leaves the map as it was, which is a map without settings then. -/
theorem Tracks.of_no_file {disk : Disk} (h : Tracks host table context) (hb : file? host = none)
    (ha : file? (host.withDisk disk) = none) : Tracks (host.withDisk disk) table context := by
  obtain ⟨found, hfound, hsame⟩ := h.loaded
  cases (load_of_no_file h.followed hb).symm.trans hfound
  have hfollowed := h.followed.withDisk disk
  exact ⟨hfollowed, ⟨[], load_of_no_file hfollowed ha, hsame⟩, h.accepted⟩

/-- A setting whose change is refused leaves the host as it was. -/
theorem perform_of_error {fault : ConfigFault} (h : changed host name raw = .error fault) :
    (Call.save name raw).perform host = (.error fault, host) := by
  rw [Call.perform, save, h]
  rfl

/-- A setting whose change is accepted is saved by writing the table with it. -/
theorem perform_of_ok {data : Members} (h : changed host name raw = .ok (value, data)) :
    (Call.save name raw).perform host =
      ((writing host value data).1.map fun _ => (), host.withDisk (writing host value data).2) := by
  rw [Call.perform, save, h]

/-- A setting that is saved is put into the map; if saving it fails, then the file stays as it was. -/
theorem tracks_save (ho : host.reader.OrderFree) (h : Tracks host table context)
    (hr : ∀ data ∈ (Call.save name raw).written? host, Restored host.toml data) :
    Tracks ((Call.save name raw).perform host).2 table ((Call.save name raw).context host context) ∧
      ∀ fault, ((Call.save name raw).perform host).1 = .error fault →
        file? ((Call.save name raw).perform host).2 = file? host := by
  rw [Call.context]
  cases hchanged : changed host name raw with
  | error fault =>
    rw [perform_of_error hchanged]
    exact ⟨h, fun _ _ => rfl⟩
  | ok result =>
    obtain ⟨value, data⟩ := result
    obtain ⟨found, members, settings, hvalue, hload, hmembers, hsettings, rfl⟩ := of_changed_eq_ok hchanged
    rw [perform_of_ok hchanged, writing]
    obtain ⟨found', hload', hsame⟩ := h.loaded
    cases hload.symm.trans hload'
    have hput : Assoc.SameMap (Assoc.put name (.ofJson value) members)
        (Assoc.put name (.ofJson value) (context.getD [])) := by
      rw [contextTable_eq_ok hmembers]
      exact (sameMap_getD (contextOf_rel hsame)).put (.refl (.ofJson value)) name
    have hwritten : (Call.save name raw).written? host =
        some (withContext found (some (Assoc.put name (.ofJson value) members))) := by
      rw [Call.written?, hchanged]
      rfl
    rcases write_cases host (hr _ hwritten) with
      ⟨later, last, hwrite, hlast, hlasts⟩ | ⟨later, fault, hwrite, hbefore, hafter⟩
    · rw [hwrite, hvalue]
      refine ⟨⟨h.followed.withDisk later, ⟨last, hlast, hlasts.trans ?_⟩, settings, ?_⟩, fun fault hfault => ?_⟩
      · exact withContext_sameMap hsame (.some hput)
      · exact validate_of_sameMap ho hput hsettings
      · cases hfault
    · rw [hwrite]
      exact ⟨h.of_no_file hbefore hafter, fun _ _ => hafter.trans hbefore.symm⟩

/-! ## Removing the settings -/

/-- A reset leaves no settings, and never fails: settings that are there are in a file, which can be
written. -/
theorem tracks_reset (h : Tracks host table context)
    (hr : ∀ data ∈ Call.reset.written? host, Restored host.toml data) :
    Tracks (Call.reset.perform host).2 table none ∧ (Call.reset.perform host).1 = .ok () := by
  obtain ⟨found, hload, hsame⟩ := h.loaded
  have hnone : ∃ settings, validate host [] = .ok settings := ⟨_, rfl⟩
  rw [Call.perform, Configuration.reset, hload]
  dsimp only
  split
  · rename_i hhas
    have hwritten : Call.reset.written? host = some (withContext found none) := by
      rw [Call.written?, hload]
      exact if_pos hhas
    rcases write_cases host (hr _ hwritten) with
      ⟨later, last, hwrite, hlast, hlasts⟩ | ⟨later, fault, hwrite, hbefore, -⟩
    · rw [withContext] at hwrite
      rw [writing, hwrite]
      refine ⟨⟨h.followed.withDisk later, ⟨last, hlast, hlasts.trans ?_⟩, hnone⟩, rfl⟩
      exact withContext_sameMap hsame .none
    · cases (load_of_no_file h.followed hbefore).symm.trans hload
      cases hhas
  · rename_i hhas
    refine ⟨⟨h.followed, ⟨found, hload, ?_⟩, hnone⟩, rfl⟩
    have hlookup : found.lookup contextKey = none := by
      rwa [← Option.not_isSome_iff_eq_none, Assoc.lookup_isSome_iff, ← Assoc.has_eq_true_iff]
    have hcontext := contextOf_rel hsame
    rw [contextOf, hlookup] at hcontext
    rwa [eq_none_of_optionRel hcontext] at hsame

/-! ## Either kind of call -/

/-- Either kind of call changes the map, or leaves the file as it was. -/
theorem tracks_perform {call : Call} (ho : host.reader.OrderFree) (h : Tracks host table context)
    (hr : ∀ data ∈ call.written? host, Restored host.toml data) :
    Tracks (call.perform host).2 table (call.context host context) ∧
      ∀ fault, (call.perform host).1 = .error fault → file? (call.perform host).2 = file? host := by
  cases call with
  | save name raw => exact tracks_save ho h hr
  | reset =>
    obtain ⟨htracks, hok⟩ := tracks_reset h hr
    exact ⟨htracks, fun fault hfault => by cases hok.symm.trans hfault⟩

end

end ContextSlice.Configuration
