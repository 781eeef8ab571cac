import ContextSlice.CommandLine.Run
import ContextSlice.Proofs.Configuration.Calls
import ContextSlice.Proofs.Configuration.Items
import ContextSlice.Proofs.Shell.Markup
import ContextSlice.Proofs.Shell.Settings

/-!
# Setting what is shown

A setting that is a list and has been saved is read from the configuration file (`Configuration.Gives`), and
goes to the console with commas between its texts. What the console shows of it may be set in turn, which is
accepted; and if the console shows the settings as they are (`Configuration.ShowsSettings`), then this leaves
the setting as it is (`Configuration.save_shown`). The settings that are written to the file have to be read
back from it (`Configuration.SettingsRestored`), and the reader of settings has to take texts as they are. A
console that makes something else of a text, such as one that takes a word in brackets for markup, shows what
changes the setting if it is set (`Configuration.not_forall_shown_kept`).
-/

namespace ContextSlice.Configuration

/-- What the table of the settings shows for one of them. -/
def shown? (run : CommandLine.Run) (name : String) : Option String :=
  run.output.findSome? fun
    | .table table => (table.rows.find? fun row => row.head? = some name).bind (·[1]?)
    | .line _ => none

/-- The settings in a table are read back, but for the order of members, from the file that the table is
written to. -/
def SettingsRestored (toml : Toml.Library) (table : Members) : Prop :=
  ∃ text s found, toml.print table = .ok text ∧ (Content.text text).read = .ok s ∧
    toml.read s = .ok found ∧ Option.Rel Assoc.SameMap (contextOf found) (contextOf table)

/-- A console shows the name of a setting and its value as those of another one. -/
def ShowsAs (console : String → Except LibraryError String) (member shown : String × Json) : Prop :=
  console member.1 = .ok shown.1 ∧
    console (CommandLine.settingCell member.2) = .ok (CommandLine.settingCell shown.2)

/-- A console shows the names of settings and their values as they are. -/
def ShowsSettings (console : String → Except LibraryError String) (settings : Settings) : Prop :=
  ∀ member ∈ settings.members, ShowsAs console member member

/-- There is a configuration file, the settings in it are accepted, and some texts are given there for one of
them. -/
structure Gives (host : Host) (name : String) (items : List String) : Prop where
  file : ∃ content, file? host = some content
  loaded : ∃ table members settings, load host = .ok table ∧ contextOf table = some members ∧
    Settings.ofMembers host.reader members = .ok settings ∧ members.lookup name = some (.texts items)

section
variable {host : Host} {table members : Members} {found : Settings} {name raw : String} {value : Json}
  {items : List String} {disk : Disk}

/-! ## Settings that are lists -/

/-- What is typed as a list is a setting that is a list. -/
theorem mem_listNames (h : forms.lookup name = some .texts) : name ∈ Settings.listNames := by
  have hforms : ∀ form ∈ forms, form.2 = .texts → form.1 ∈ Settings.listNames := by decide
  exact hforms _ (Assoc.mem_of_lookup_eq_some h) rfl

/-- A typed list stands for its items. -/
theorem coerce_texts (h : forms.lookup name = some .texts) (raw : String) :
    coerce name raw = .ok (.texts (splitItems raw)) := by
  rw [coerce, h]

/-! ## Saving a list -/

/-- A list that was saved and is read back is given in the file. -/
theorem gives_of_save (ho : host.reader.OrderFree) (hn : forms.lookup name = some .texts)
    (h : save host name raw = (.ok value, disk))
    (hr : ∀ data ∈ (Call.save name raw).written? host, SettingsRestored host.toml data) :
    Gives (host.withDisk disk) name (splitItems raw) := by
  obtain ⟨data, hchanged, hwrite⟩ := of_save_eq_ok h
  obtain ⟨text, s, found, hprint, hread, htoml, hsame⟩ := hr data (by rw [Call.written?, hchanged]; rfl)
  obtain ⟨table, members, settings, hvalue, -, -, hsettings, rfl⟩ := of_changed_eq_ok hchanged
  cases (coerce_texts hn raw).symm.trans hvalue
  obtain ⟨text', hprint', hfile⟩ := file?_of_write hwrite
  cases hprint.symm.trans hprint'
  -- The settings are read back up to the order of members only, but a list of texts has none.
  rw [contextOf_withContext] at hsame
  obtain ⟨context, hcontext, hput⟩ := exists_of_optionRel_right hsame
  have hname := hput name
  rw [Assoc.lookup_put_self, Datum.ofJson_texts] at hname
  obtain ⟨given, hgiven, htexts⟩ := exists_of_optionRel_right hname
  rw [htexts.symm.eq_of_texts] at hgiven
  have haccepted := validate_eq_ok_iff.mp (validate_of_sameMap ho hput.symm hsettings)
  exact ⟨⟨_, hfile⟩, found, context, settings, load_of_file hfile hread htoml, hcontext, haccepted, hgiven⟩

/-- A list that is given may be replaced by another one. -/
theorem Gives.exists_changed (h : Gives host name items) (ht : host.reader.TakesTexts)
    (hn : forms.lookup name = some .texts) (raw : String) :
    ∃ table, changed host name raw = .ok (.texts (splitItems raw), table) := by
  obtain ⟨table, members, settings, hload, hcontext, hsettings, -⟩ := h.loaded
  have htable : contextTable table = .ok members := by
    obtain ⟨value, hvalue, hmembers⟩ := Option.bind_eq_some_iff.mp hcontext
    cases value <;> cases hmembers
    rw [contextTable, hvalue]
  obtain ⟨alone, halone⟩ := Settings.exists_ofMembers_texts ht (mem_listNames hn) (splitItems raw)
  obtain ⟨later, hlater⟩ := Settings.exists_ofMembers_put hsettings halone
  refine ⟨Assoc.put contextKey (.object (Assoc.put name (.texts (splitItems raw)) members)) table, ?_⟩
  rw [changed, coerce_texts hn, hload]
  simp only [bind, Except.bind, htable, Datum.ofJson_texts, validate_eq_ok_iff.mpr hlater]
  rfl

/-- Saving another list succeeds if what is written is read back. -/
theorem Gives.exists_save (h : Gives host name items) (ht : host.reader.TakesTexts)
    (hn : forms.lookup name = some .texts)
    (hr : ∀ data ∈ (Call.save name raw).written? host, SettingsRestored host.toml data) :
    ∃ later, save host name raw = (.ok (.texts (splitItems raw)), later) := by
  obtain ⟨table, hchanged⟩ := h.exists_changed ht hn raw
  obtain ⟨content, hfile⟩ := h.file
  obtain ⟨text, s, found, hprint, -⟩ : SettingsRestored host.toml table :=
    hr table (by rw [Call.written?, hchanged]; rfl)
  obtain ⟨later, hsave, -⟩ := save_of_file hfile hchanged hprint
  exact ⟨later, hsave⟩

/-! ## What is shown -/

/-- The environment gives paths only, which are accepted. -/
theorem of_mem_givenValues {pair : String × Datum} (ht : host.reader.TakesTexts)
    (h : pair ∈ givenValues host []) :
    pair.1 ∉ Settings.listNames ∧
      ∃ alone, Settings.ofMembers host.reader [(pair.1, pair.2)] = .ok alone := by
  rw [givenValues, List.filter_nil, List.map_nil, List.append_nil, List.mem_append] at h
  unfold variableValue at h
  rcases h with h | h
  all_goals
    obtain ⟨path, -, rfl⟩ := Option.map_eq_some_iff.mp (Option.mem_toList.mp h)
    exact ⟨of_decide_eq_true rfl, Settings.exists_ofMembers_path ht (of_decide_eq_true rfl) path⟩

/-- The settings are those in the file together with those that the environment gives. -/
theorem settings_of_loadContext (h : loadContext host = .ok members) :
    Configuration.settings host [] = validate host
      ((givenValues host []).foldl (fun values value => Assoc.put value.1 value.2 values) members) := by
  rw [Configuration.settings, h]
  exact pure_bind members _

/-- A list that is given in the file is the value of its setting. -/
theorem Gives.settings (h : Gives host name items) (ht : host.reader.TakesTexts)
    (hn : name ∈ Settings.listNames) :
    ∃ settings, Configuration.settings host [] = .ok settings ∧
      settings.members.lookup name = some (.texts (Settings.takenItems name items)) := by
  obtain ⟨table, members, settings, hload, hcontext, hsettings, hgiven⟩ := h.loaded
  have hmembers : loadContext host = .ok members := by
    rw [loadContext, hload]
    exact congrArg (fun found : Option Members => Except.ok (found.getD [])) hcontext
  -- A variable of the environment sets a path, so it does not take the place of the list.
  have hpaths : ∀ pair ∈ givenValues host [], pair.1 ≠ name := by
    rintro pair hp rfl
    exact (of_mem_givenValues ht hp).1 hn
  obtain ⟨later, hlater⟩ := Settings.exists_ofMembers_foldl ⟨settings, hsettings⟩
    fun (pair : String × Datum) (hp : pair ∈ givenValues host []) => (of_mem_givenValues ht hp).2
  refine ⟨later, ?_,
    Settings.lookup_members_of_texts ht hlater hn ((Settings.lookup_foldl_put hpaths).trans hgiven)⟩
  rw [settings_of_loadContext hmembers]
  exact validate_eq_ok_iff.mpr hlater

/-- The row of a setting in a table of settings. -/
theorem find?_row (members : List (String × Json)) (name : String) :
    ((members.map fun (name, value) => [name, CommandLine.settingCell value]).find? fun row =>
      row.head? = some name).bind (·[1]?) = (members.lookup name).map CommandLine.settingCell := by
  induction members with
  | nil => rfl
  | cons member members ih =>
    obtain ⟨key, value⟩ := member
    rw [List.map_cons, List.find?_cons, List.lookup_cons]
    by_cases h : key = name
    · subst h
      simp
    · have hrow : ([key, CommandLine.settingCell value].head? = some name) = False := by simp [h]
      simp only [hrow, decide_false, beq_false_of_ne (Ne.symm h)]
      exact ih

/-- The table of the settings. -/
def settingTable (settings : Settings) : CommandLine.Table :=
  ⟨"Settings", ["Key", "Value"],
    settings.members.map fun (name, value) => [name, CommandLine.settingCell value]⟩

/-- What a console shows of a table of settings has a row for each of them. -/
theorem shown_settingTable {console : String → Except LibraryError String} {shown : Settings}
    (h : List.Forall₂ (ShowsAs console) found.members shown.members) :
    (settingTable found).shown console = .ok (settingTable shown) := by
  have hrows : (settingTable found).rows.mapM (fun row => row.mapM console) =
      .ok (settingTable shown).rows := by
    refine mapM_eq_ok (List.rel_map (fun member other hmember => ?_) h)
    exact mapM_eq_ok (.cons hmember.1 (.cons hmember.2 .nil))
  rw [CommandLine.Table.shown, hrows]
  rfl

/-- What a console shows of the table of the settings is what is shown. -/
theorem shown?_of_shown {table : CommandLine.Table} (h : Configuration.settings host [] = .ok found)
    (hs : (settingTable found).shown host.console = .ok table) :
    shown? (CommandLine.runCommand host .showConfig) name =
      (table.rows.find? fun row => row.head? = some name).bind (·[1]?) := by
  have houtput : (CommandLine.perform host .showConfig).output =
      [.line ("Config file: " ++ host.configPath.text), .table (settingTable found)] := by
    rw [CommandLine.perform, CommandLine.showConfig, CommandLine.withSettings, h]
    rfl
  have hshown : (CommandLine.runCommand host .showConfig).output =
      [.line ("Config file: " ++ host.configPath.text), .table table] := by
    rw [CommandLine.runCommand, CommandLine.Run.shown, houtput]
    simp only [CommandLine.shownBlocks, hs]
  rw [shown?, hshown]
  simp only [List.findSome?_cons, List.findSome?_nil]
  cases (table.rows.find? fun row => row.head? = some name).bind (·[1]?) <;> rfl

/-- A console that shows the settings as they are shows the cell of each of them. -/
theorem shown?_showConfig (h : Configuration.settings host [] = .ok found)
    (hs : ShowsSettings host.console found) :
    shown? (CommandLine.runCommand host .showConfig) name =
      (found.members.lookup name).map CommandLine.settingCell := by
  rw [shown?_of_shown h (shown_settingTable (List.forall₂_same.mpr hs))]
  exact find?_row found.members name

/-- The cell of a list has its texts with commas between them. -/
theorem settingCell_texts (items : List String) :
    CommandLine.settingCell (.texts items) = ", ".intercalate items := by
  rw [Json.texts, CommandLine.settingCell, List.map_map]
  exact congrArg _ (List.map_id items)

/-- The texts of a setting that were typed as items are items. -/
theorem splitItems_takenItems (name raw : String) :
    splitItems (", ".intercalate (Settings.takenItems name (splitItems raw))) =
      Settings.takenItems name (splitItems raw) := by
  refine splitItems_intercalate ?_
  unfold Settings.takenItems
  split
  · exact fun suffix => isItem_of_mem_normalSuffixes fun item => isItem_of_mem_splitItems
  · exact fun item => isItem_of_mem_splitItems

end

/-- What is shown may be set. After a list has been saved the settings are read, and whatever the console
shows of the list is accepted if it is saved in turn. If the console shows the settings as they are, then it
shows the list, as its texts count, and saving what it shows leaves the setting as it is. Both times the
settings that are written to the configuration file have to be read back from it. -/
theorem save_shown {host : Host} {name raw : String} {value : Json} {disk : Disk}
    (ho : host.reader.OrderFree) (ht : host.reader.TakesTexts) (hn : forms.lookup name = some .texts)
    (h : save host name raw = (.ok value, disk))
    (hr : ∀ data ∈ (Call.save name raw).written? host, SettingsRestored host.toml data) :
    let saved := host.withDisk disk
    ∃ settings, Configuration.settings saved [] = .ok settings ∧
      (∀ cell, shown? (CommandLine.runCommand saved .showConfig) name = some cell →
        (∀ data ∈ (Call.save name cell).written? saved, SettingsRestored host.toml data) →
        ∃ value later, save saved name cell = (.ok value, later)) ∧
      (ShowsSettings host.console settings →
        ∃ cell, shown? (CommandLine.runCommand saved .showConfig) name = some cell ∧
          ((∀ data ∈ (Call.save name cell).written? saved, SettingsRestored host.toml data) →
            ∃ value later settings', save saved name cell = (.ok value, later) ∧
              Configuration.settings (saved.withDisk later) [] = .ok settings' ∧
              settings'.members.lookup name = settings.members.lookup name)) := by
  intro saved
  have hlist := mem_listNames hn
  have hgives : Gives saved name (splitItems raw) := gives_of_save ho hn h hr
  obtain ⟨settings, hsettings, hmember⟩ := hgives.settings ht hlist
  refine ⟨settings, hsettings, fun cell _ hr' => ?_, fun hs =>
    ⟨", ".intercalate (Settings.takenItems name (splitItems raw)), ?_, fun hr' => ?_⟩⟩
  · exact ⟨_, hgives.exists_save ht hn hr'⟩
  · rw [shown?_showConfig hsettings hs, hmember, Option.map_some, settingCell_texts]
  · obtain ⟨later, hsave⟩ := hgives.exists_save ht hn hr'
    have hgives' : Gives (saved.withDisk later) name _ := gives_of_save ho hn hsave hr'
    rw [splitItems_takenItems] at hgives'
    obtain ⟨settings', hsettings', hmember'⟩ := hgives'.settings ht hlist
    rw [Settings.takenItems_takenItems] at hmember'
    exact ⟨_, later, settings', hsave, hsettings', hmember'.trans hmember.symm⟩

/-! ## A file with one list -/

/-- A table of settings with one list. -/
def listTable (name : String) (items : List String) : Members :=
  [(contextKey, .object [(name, .texts items)])]

/-- One list is written as a text and read back from it. -/
structure WrittenAs (name : String) (items : List String) (text : String) : Prop where
  printed : Shell.tomlLibrary.print (listTable name items) = .ok text
  plain : (Content.text text).read = .ok text
  read : Shell.tomlLibrary.read text = .ok (listTable name items)

section
variable {host : Host} {content : Content} {name raw text : String} {items : List String}

/-- Where one list is loaded and nothing else, another one takes its place. -/
theorem changed_listTable {next : List String} (ht : host.reader.TakesTexts)
    (hn : forms.lookup name = some .texts) (hl : load host = .ok (listTable name items))
    (hs : splitItems raw = next) : changed host name raw = .ok (.texts next, listTable name next) := by
  obtain ⟨settings, hsettings⟩ := Settings.exists_ofMembers_texts ht (mem_listNames hn) next
  have htable : contextTable (listTable name items) = .ok [(name, .texts items)] := rfl
  have hput : Assoc.put name (.texts next) [(name, Datum.texts items)] = [(name, .texts next)] := if_pos rfl
  rw [changed, coerce_texts hn, hl, hs]
  simp only [bind, Except.bind, htable, Datum.ofJson_texts, hput, validate_eq_ok_iff.mpr hsettings]
  rfl

/-- One list that is saved is read back, where the libraries are those of the program. -/
theorem WrittenAs.restored (h : WrittenAs name items text) (hlib : host.toLibraries = Shell.libraries)
    (hc : changed host name raw = .ok (.texts items, listTable name items)) :
    ∀ data ∈ (Call.save name raw).written? host, SettingsRestored host.toml data := by
  rw [Call.written?, hc, hlib]
  rintro data ⟨⟩
  exact ⟨text, text, listTable name items, h.printed, h.plain, h.read, .some (.refl _)⟩

/-- A list that is saved is loaded, where the libraries are those of the program. -/
theorem WrittenAs.save (h : WrittenAs name items text) (hlib : host.toLibraries = Shell.libraries)
    (hf : file? host = some content)
    (hc : changed host name raw = .ok (.texts items, listTable name items)) :
    ∃ later, Configuration.save host name raw = (.ok (.texts items), later) ∧
      (∃ content, file? (host.withDisk later) = some content) ∧
      load (host.withDisk later) = .ok (listTable name items) := by
  have hprint : host.toml.print (listTable name items) = .ok text := by
    rw [hlib]
    exact h.printed
  have hread : host.toml.read text = .ok (listTable name items) := by
    rw [hlib]
    exact h.read
  obtain ⟨later, hsave, hfile⟩ := save_of_file hf hc hprint
  exact ⟨later, hsave, ⟨_, hfile⟩, load_of_file hfile h.plain hread⟩

/-- The settings are those with the list, if the environment gives none. -/
theorem settings_of_listTable (hlib : host.toLibraries = Shell.libraries)
    (hd : host.documentVariable = none) (ho : host.outputVariable = none)
    (hl : load host = .ok (listTable name items)) :
    Configuration.settings host [] = validate (holding "") [(name, .texts items)] := by
  have hmembers : loadContext host = .ok [(name, .texts items)] := by
    rw [loadContext, hl]
    rfl
  have hgiven : givenValues host [] = [] := by
    rw [givenValues, hd, ho]
    rfl
  have hreader : host.reader = (holding "").reader := congrArg Libraries.reader hlib
  rw [settings_of_loadContext hmembers, hgiven, validate_congr hreader, List.foldl_nil]

theorem load_holding_empty : load (holding "") = .ok [] := by
  have hread : (Content.text "").read = .ok "" := by decide +kernel
  exact load_of_file (file?_holding "") hread (by decide +kernel)

end

/-- The texts of which the cell of a setting is made. -/
def cellTexts : Json → List String
  | .list items => items.map Json.label
  | value => [value.label]

/-- The console of the program shows a setting as it is if all texts of it are plain. -/
theorem showsAs_self {member : String × Json} (h : ∀ s ∈ member.1 :: cellTexts member.2, Shell.Markup.Plain s) :
    ShowsAs Shell.libraries.console member member := by
  obtain ⟨name, value⟩ := member
  obtain ⟨hname, hvalue⟩ := List.forall_mem_cons.mp h
  refine ⟨Shell.Markup.render_eq_self hname, Shell.Markup.render_eq_self ?_⟩
  cases value with
  | list items => exact .intercalate (by decide) hvalue
  | _ => exact hvalue _ (List.mem_singleton_self _)

/-- The console of the program shows the default settings as they are. -/
theorem showsSettings_default : ShowsSettings Shell.libraries.console default := by
  have hplain : ∀ member ∈ (default : Settings).members, ∀ s ∈ member.1 :: cellTexts member.2,
      Shell.Markup.Plain s := by decide +kernel
  exact fun member hmember => showsAs_self (hplain member hmember)

/-- Settings with these file suffixes, and settings with these members for kinds. -/
def withSuffixes (suffixes : List String) : Settings := { (default : Settings) with fileSuffixes := suffixes }
@[inherit_doc withSuffixes] def withKinds (kinds : List String) : Settings :=
  { (default : Settings) with kindFields := kinds }

/-- File suffixes are saved, shown in lower case with points, and saved as they are shown. -/
theorem save_shown_suffixes : forms.lookup "file_suffixes" = some .texts ∧
    (holding "").reader.OrderFree ∧ (holding "").reader.TakesTexts ∧
    ∃ disk, save (holding "") "file_suffixes" " PY , .Bal," = (.ok (.texts ["PY", ".Bal"]), disk) ∧
      (∀ data ∈ (Call.save "file_suffixes" " PY , .Bal,").written? (holding ""),
        SettingsRestored (holding "").toml data) ∧
      let saved := (holding "").withDisk disk
      Configuration.settings saved [] = .ok (withSuffixes [".py", ".bal"]) ∧
      shown? (CommandLine.runCommand saved .showConfig) "file_suffixes" = some ".py, .bal" ∧
      ∃ value later settings', save saved "file_suffixes" ".py, .bal" = (.ok value, later) ∧
        Configuration.settings (saved.withDisk later) [] = .ok settings' ∧
        settings'.members.lookup "file_suffixes" = some (.texts [".py", ".bal"]) := by
  have hn : forms.lookup "file_suffixes" = some .texts := by decide
  have ho := Shell.settingReader_orderFree
  have ht := Shell.settingReader_takesTexts
  have hfirst : WrittenAs "file_suffixes" ["PY", ".Bal"]
      "[context]\nfile_suffixes = [ \"PY\", \".Bal\",]\n" :=
    ⟨by decide +kernel, by decide +kernel, by decide +kernel⟩
  have hsecond : WrittenAs "file_suffixes" [".py", ".bal"]
      "[context]\nfile_suffixes = [ \".py\", \".bal\",]\n" :=
    ⟨by decide +kernel, by decide +kernel, by decide +kernel⟩
  have hchanged : changed (holding "") "file_suffixes" " PY , .Bal," =
      .ok (.texts ["PY", ".Bal"], listTable "file_suffixes" ["PY", ".Bal"]) := by
    rw [changed, load_holding_empty]
    decide +kernel
  obtain ⟨disk, hsave, -, hload⟩ := hfirst.save rfl (file?_holding "") hchanged
  have hr := hfirst.restored rfl hchanged
  have hagain : changed ((holding "").withDisk disk) "file_suffixes" ".py, .bal" =
      .ok (.texts [".py", ".bal"], listTable "file_suffixes" [".py", ".bal"]) :=
    changed_listTable ht hn hload (by decide +kernel)
  have hr' := hsecond.restored rfl hagain
  have hsettings : Configuration.settings ((holding "").withDisk disk) [] =
      .ok (withSuffixes [".py", ".bal"]) := by
    rw [settings_of_listTable rfl rfl rfl hload]
    decide +kernel
  have hdefault := List.forall₂_same.mpr showsSettings_default
  have hshows : ShowsSettings (holding "").console (withSuffixes [".py", ".bal"]) :=
    List.forall₂_same.mp (List.rel_append (List.forall₂_take 4 hdefault)
      (.cons (showsAs_self (by decide +kernel)) (List.forall₂_drop 5 hdefault)))
  have hshown : shown? (CommandLine.runCommand ((holding "").withDisk disk) .showConfig) "file_suffixes" =
      some ".py, .bal" := by
    rw [shown?_showConfig hsettings hshows]
    decide +kernel
  obtain ⟨settings, hsettings', -, hkept⟩ := save_shown ho ht hn hsave hr
  cases hsettings.symm.trans hsettings'
  obtain ⟨cell, hcell, hback⟩ := hkept hshows
  cases hshown.symm.trans hcell
  obtain ⟨value, later, last, hlater, hlast, hsame⟩ := hback hr'
  exact ⟨hn, ho, ht, disk, hsave, hr, hsettings, hshown, value, later, last, hlater, hlast, hsame⟩

/-- What is shown may change a setting even if all that is written is read back: a console that takes a word
in brackets for markup shows a text without it. -/
theorem not_forall_shown_kept :
    ¬ ∀ (host : Host) (name raw cell : String) (value : Json) (disk : Disk),
      host.reader.OrderFree → host.reader.TakesTexts → forms.lookup name = some .texts →
      save host name raw = (.ok value, disk) →
      (∀ data ∈ (Call.save name raw).written? host, SettingsRestored host.toml data) →
      shown? (CommandLine.runCommand (host.withDisk disk) .showConfig) name = some cell →
      (∀ data ∈ (Call.save name cell).written? (host.withDisk disk), SettingsRestored host.toml data) →
      ∃ value later settings settings', save (host.withDisk disk) name cell = (.ok value, later) ∧
        Configuration.settings (host.withDisk disk) [] = .ok settings ∧
        Configuration.settings ((host.withDisk disk).withDisk later) [] = .ok settings' ∧
        settings'.members.lookup name = settings.members.lookup name := by
  intro hkept
  have hn : forms.lookup "kind_fields" = some .texts := by decide
  have ht := Shell.settingReader_takesTexts
  have hmarked : WrittenAs "kind_fields" ["[b]x", "q"] "[context]\nkind_fields = [ \"[b]x\", \"q\",]\n" :=
    ⟨by decide +kernel, by decide +kernel, by decide +kernel⟩
  have hplain : WrittenAs "kind_fields" ["x", "q"] "[context]\nkind_fields = [ \"x\", \"q\",]\n" :=
    ⟨by decide +kernel, by decide +kernel, by decide +kernel⟩
  have hchanged : changed (holding "") "kind_fields" "[b]x, q" =
      .ok (.texts ["[b]x", "q"], listTable "kind_fields" ["[b]x", "q"]) := by
    rw [changed, load_holding_empty]
    decide +kernel
  obtain ⟨disk, hsave, ⟨content, hfile⟩, hload⟩ := hmarked.save rfl (file?_holding "") hchanged
  have hsettings : Configuration.settings ((holding "").withDisk disk) [] = .ok (withKinds ["[b]x", "q"]) := by
    rw [settings_of_listTable rfl rfl rfl hload]
    decide +kernel
  have hkinds : ShowsAs Shell.libraries.console (Settings.kindFieldsName, .texts ["[b]x", "q"])
      (Settings.kindFieldsName, .texts ["x", "q"]) := ⟨by decide +kernel, by decide +kernel⟩
  have hdefault := List.forall₂_same.mpr showsSettings_default
  have htable : (settingTable (withKinds ["[b]x", "q"])).shown Shell.libraries.console =
      .ok (settingTable (withKinds ["x", "q"])) :=
    shown_settingTable (List.rel_append (List.forall₂_take 6 hdefault)
      (.cons hkinds (List.forall₂_drop 7 hdefault)))
  have hshown : shown? (CommandLine.runCommand ((holding "").withDisk disk) .showConfig) "kind_fields" =
      some "x, q" := by
    rw [shown?_of_shown hsettings htable]
    decide +kernel
  have hagain : changed ((holding "").withDisk disk) "kind_fields" "x, q" =
      .ok (.texts ["x", "q"], listTable "kind_fields" ["x", "q"]) :=
    changed_listTable ht hn hload (by decide +kernel)
  obtain ⟨later, hlater, -, hload'⟩ := hplain.save rfl hfile hagain
  have hr := hmarked.restored rfl hchanged
  have hr' := hplain.restored rfl hagain
  obtain ⟨value, later', before, after, hlater', hbefore, hafter, hsame⟩ :=
    hkept _ _ _ _ _ _ Shell.settingReader_orderFree ht hn hsave hr hshown hr'
  cases hlater.symm.trans hlater'
  have hsettings' : Configuration.settings (((holding "").withDisk disk).withDisk later) [] =
      .ok (withKinds ["x", "q"]) := by
    rw [settings_of_listTable rfl rfl rfl hload']
    decide +kernel
  cases hsettings.symm.trans hbefore
  cases hsettings'.symm.trans hafter
  exact absurd hsame (by decide)

end ContextSlice.Configuration
