import LoopLang.Proofs.Command.Settings
import LoopLang.Proofs.Config.Store
import Mathlib.Data.List.Infix

/-! Which value a setting has: that of an option, else that of the nearest settings file upwards,
else the default. -/

namespace LoopLang

/-- The directories upwards from within a directory are that one, and then those upwards from around
it. -/
theorem Path.upwards_concat (path : Path) (name : String) :
    Path.upwards (path ++ [name]) = (path ++ [name]) :: path.upwards := by
  -- Among the directories of the longer path are all those of the shorter one.
  have inner : (List.range (path.length + 1)).map
      (path ++ [name]).take = (List.range (path.length + 1)).map path.take := by
    refine List.map_congr_left fun count listed => List.take_append_of_le_length ?_
    simpa [Nat.lt_succ_iff] using listed
  have whole : (path ++ [name]).take (path.length + 1) = path ++ [name] :=
    List.take_of_length_le (by simp)
  unfold upwards
  rw [List.length_append, List.length_singleton, List.range_succ, List.map_append,
    List.map_singleton, whole, inner, List.reverse_append]
  rfl

namespace FileTree

variable {files : FileTree} {directory around : Path}

/-- The search for a settings file: it ends where one is found, ends at the root without one, or
goes on in the directory around. -/
inductive Searches (files : FileTree) : Path → Option Path → Prop
  | found {directory : Path} (there : files.exists? (directory ++ [settingsFileName]) = true) :
    Searches files directory (some (directory ++ [settingsFileName]))
  | top {directory : Path} (missing : files.exists? (directory ++ [settingsFileName]) = false)
    (root : directory.parent = directory) : Searches files directory none
  | up {directory : Path} {result : Option Path}
      (missing : files.exists? (directory ++ [settingsFileName]) = false)
    (inner : directory.parent ≠ directory) (rest : Searches files directory.parent result) :
    Searches files directory result

/-- A directory holds the nearest settings file if it holds one and no directory on the way to it
does. -/
structure Nearest (files : FileTree) (directory around : Path) : Prop where
  encloses : around <+: directory
  there : files.exists? (around ++ [settingsFileName]) = true
  deepest : ∀ other, other <+: directory → files.exists? (other ++ [settingsFileName]) = true →
    other <+: around

/-- What the nearest settings file says, if there is a settings file and it can be read. -/
inductive States (files : FileTree) (directory : Path) : Option Settings → Prop
  | nothing
      (missing : ∀ around, around <+: directory →
        files.exists? (around ++ [settingsFileName]) = false) :
    States files directory none
  | file {around : Path} {text : String} {overrides : Settings}
      (nearest : files.Nearest directory around)
    (found : files.file? (around ++ [settingsFileName]) = some text)
      (reads : Toml.read text = .ok overrides) :
    States files directory (some overrides)

/-! One round of the search: a file is found, the root is reached, or the search goes on in the
directory around. -/

/-- A settings file in the directory itself is found first. -/
theorem settingsPath?_found (there : files.exists? (directory ++ [settingsFileName]) = true) :
    files.settingsPath? directory = some (directory ++ [settingsFileName]) := by
  unfold settingsPath?
  induction directory using List.reverseRecOn with
  | nil => exact List.find?_cons_of_pos there
  | append_singleton path name =>
    rw [Path.upwards_concat, List.map_cons, List.find?_cons_of_pos there]

/-- Without one in the topmost directory there is none. -/
theorem settingsPath?_top (missing : files.exists? [settingsFileName] = false) :
    files.settingsPath? [] = none := by
  simp [settingsPath?, Path.upwards, missing]

/-- Otherwise the search goes on in the parent directory. -/
theorem settingsPath?_up {name : String}
    (missing : files.exists? (directory ++ [name] ++ [settingsFileName]) = false) :
    files.settingsPath? (directory ++ [name]) = files.settingsPath? directory := by
  rw [settingsPath?, Path.upwards_concat, List.map_cons,
    List.find?_cons_of_neg (by simpa using missing), settingsPath?]

/-- Whatever directory the search begins in, it ends, and with one result only. -/
theorem searches_iff {result : Option Path} :
    files.Searches directory result ↔ result = files.settingsPath? directory := by
  constructor
  · intro searches
    induction searches with
    | found there => exact (settingsPath?_found there).symm
    -- The root has no directory around it, so nothing is found.
    | top missing root =>
      rename_i directory
      obtain rfl : directory = [] := by
        have shorter := congrArg List.length root
        rw [Path.parent, List.length_dropLast] at shorter
        exact List.length_eq_zero_iff.mp (by omega)
      exact (settingsPath?_top missing).symm
    | up missing inner _ ih =>
      rename_i directory _ _
      rcases List.eq_nil_or_concat directory with rfl | ⟨path, name, rfl⟩
      · exact absurd rfl inner
      · rw [List.concat_eq_append] at missing ih ⊢
        rw [ih, settingsPath?_up missing, Path.parent, List.dropLast_concat]
  · rintro rfl
    -- By induction on the path from its end, which is the way that the search takes.
    induction directory using List.reverseRecOn with
    | nil =>
      cases there : files.exists? ([] ++ [settingsFileName]) with
      | true => exact settingsPath?_found there ▸ .found there
      | false => exact settingsPath?_top there ▸ .top there rfl
    -- In front of the last name the search goes on in the directory around.
    | append_singleton path name ih =>
      cases there : files.exists? (path ++ [name] ++ [settingsFileName]) with
      | true => exact settingsPath?_found there ▸ .found there
      | false =>
        rw [settingsPath?_up there]
        have parent : Path.parent (path ++ [name]) = path := List.dropLast_concat
        exact .up there (by simp [parent]) (by rw [parent]; exact ih)

/-- The directory of the nearest settings file is that of the last name, or one further up. -/
theorem nearest_concat {name : String}
    (missing : files.exists? (directory ++ [name] ++ [settingsFileName]) = false) :
    files.Nearest (directory ++ [name]) around ↔ files.Nearest directory around := by
  -- Without a file in the innermost directory, files enclose both places alike.
  have further {other : Path} (there : files.exists? (other ++ [settingsFileName]) = true) :
      other <+: directory ++ [name] ↔ other <+: directory := by
    rw [List.prefix_concat_iff]
    refine or_iff_right fun same => ?_
    rw [same, missing] at there
    cases there
  constructor
  · rintro ⟨encloses, there, deepest⟩
    refine ⟨(further there).mp encloses, there, fun other inside found => ?_⟩
    exact deepest other ((further found).mpr inside) found
  · rintro ⟨encloses, there, deepest⟩
    refine ⟨(further there).mpr encloses, there, fun other inside found => ?_⟩
    exact deepest other ((further found).mp inside) found

/-- A directory with a settings file is the nearest one to itself. -/
theorem nearest_self (there : files.exists? (directory ++ [settingsFileName]) = true) :
    files.Nearest directory around ↔ around = directory := by
  constructor
  · rintro ⟨encloses, -, deepest⟩
    exact encloses.eq_of_length_le (deepest directory List.prefix_rfl there).length_le
  · rintro rfl
    exact ⟨List.prefix_rfl, there, fun other inside _ => inside⟩

/-- What is found is the nearest settings file. -/
theorem settingsPath?_eq_some {path : Path} : files.settingsPath? directory = some path ↔
    ∃ around, files.Nearest directory around ∧ path = around ++ [settingsFileName] := by
  -- From the root downwards: each directory is looked at before those above it.
  induction directory using List.reverseRecOn with
  | nil =>
    cases there : files.exists? ([] ++ [settingsFileName]) with
    | true => simp [settingsPath?_found there, nearest_self there, eq_comm]
    | false =>
      simp only [settingsPath?_top there, reduceCtorEq, false_iff, not_exists, not_and]
      intro around nearest
      rw [List.prefix_nil.mp nearest.encloses] at nearest
      exact absurd (nearest.there.symm.trans there) (by simp)
  | append_singleton directory name ih =>
    cases there : files.exists? (directory ++ [name] ++ [settingsFileName]) with
    -- A file right here is the nearest one.
    | true => simp [settingsPath?_found there, nearest_self there, eq_comm]
    | false => simp only [settingsPath?_up there, nearest_concat there, ih]

/-- Nothing is found where there is no settings file on the way up. -/
theorem settingsPath?_eq_none : files.settingsPath? directory = none ↔
    ∀ around, around <+: directory → files.exists? (around ++ [settingsFileName]) = false := by
  unfold settingsPath? Path.upwards
  simp only [List.find?_eq_none, List.mem_map, List.mem_reverse, List.mem_range, Nat.lt_succ_iff,
    Bool.not_eq_true]
  -- The directories searched are exactly the prefixes of the path, the longest one first.
  constructor
  · intro missing around encloses
    exact missing _ ⟨around,
      ⟨around.length, encloses.length_le, (List.prefix_iff_eq_take.mp encloses).symm⟩, rfl⟩
  · rintro missing path ⟨around, ⟨count, -, rfl⟩, rfl⟩
    exact missing _ (List.take_prefix _ _)

/-- Settings are loaded just where the nearest file can be read, and have what it says over the
defaults. -/
theorem settings_eq_ok {loaded : Settings} : files.settings directory = .ok loaded ↔
    ∃ file, files.States directory file ∧ loaded = Settings.default.merge (file.getD []) := by
  constructor
  · intro loads
    unfold settings at loads
    split at loads
    -- No file is found, so all settings are the defaults.
    · rename_i missing
      cases loads
      exact ⟨none, .nothing (settingsPath?_eq_none.mp missing), (Settings.merge_nil _).symm⟩
    · rename_i path found
      obtain ⟨around, nearest, rfl⟩ := settingsPath?_eq_some.mp found
      split at loads
      · cases loads
      · rename_i text stands
        split at loads <;> rename_i reads <;> cases loads
        exact ⟨some _, .file nearest stands reads, rfl⟩
  · rintro ⟨_, stated, rfl⟩
    unfold settings
    -- The file that the directory states is the one that the search finds.
    cases stated with
    | nothing missing =>
      simp only [settingsPath?_eq_none.mpr missing, Option.getD_none, Settings.merge_nil]
    | file nearest stands reads =>
      simp only [settingsPath?_eq_some.mpr ⟨_, nearest, rfl⟩, stands, reads, Option.getD_some]

end FileTree

namespace Settings

variable {base settings : Settings}

/-- The sections with their keys. -/
def outline (settings : Settings) : List (String × Option (List String)) :=
  settings.map fun (name, value) => (name, match value with
    | .object members => some (members.map Prod.fst)
    | _ => none)

/-- A changed member is looked up by its name, like the change of it. -/
theorem lookup_overlay (change : Document → Option Document → Document)
    (members changes : List (String × Document)) (name : String) :
    (overlay change members changes).lookup name = (members.lookup name).map
      (change · (changes.lookup name)) := by
  -- Members keep their order and their names, so the first of a name is changed.
  induction members with
  | nil => rfl
  | cons entry rest ih =>
    obtain ⟨other, value⟩ := entry
    show List.lookup name ((other, _) :: overlay change rest changes) = _
    rw [List.lookup_cons, List.lookup_cons, ih]
    split
    · rename_i same
      rw [eq_of_beq same]
      rfl
    · rfl

/-- A key that there is gets what overrides it, and no key is added. -/
theorem get?_merge (base overrides : Settings) (name key : String) :
    (base.merge overrides).get? name key = (base.get? name key).map fun value =>
      (overrides.get? name key).getD value := by
  unfold get?
  rw [merge_eq, lookup_overlay]
  -- A section is merged when both sides have a table for it, else it stays.
  rcases base.lookup name with _ | value
  · rfl
  · cases value with
    | object members =>
      rcases overrides.lookup name with _ | changes
      · simp [mergeValue]
      · cases changes with
        | object changes =>
          exact lookup_overlay (fun value given => given.getD value) members changes key
        | _ => simp [mergeValue]
    | _ => rfl

/-- Setting a key that there is changes that key only. -/
theorem get?_setGiven (settings : Settings) (section_ member name key : String)
    (given : Option Document) :
    (settings.setGiven section_ member given).get? name key =
      (settings.get? name key).map fun value => if name = section_ ∧ key = member
        then given.getD value else value := by
  cases given with
  | none => simp [setGiven]
  | some value =>
    rw [setGiven, set, get?_merge]
    congr 1
    funext old
    -- The change is a table with one section, which has one member.
    by_cases inside : name = section_
    · by_cases same : key = member
      · simp [get?, inside, same]
      · have apart : (key == member) = false := by simpa using same
        simp [get?, inside, same, List.lookup_cons, apart]
    · have apart : (name == section_) = false := by simpa using inside
      simp [get?, inside, List.lookup_cons, apart]

/-- What options give counts more than the settings. -/
theorem get?_applyOptions (options : Command.Options) (settings : Settings) (name key : String) :
    (Command.applyOptions options settings).get? name key =
      (settings.get? name key).map fun value => (options.value? name key).getD value := by
  rw [Command.applyOptions_eq]
  simp only [get?_setGiven, Option.map_map]
  congr 1
  funext value
  simp only [Function.comp_apply]
  -- There are three keys that options can set.
  by_cases level : name = "build" ∧ key = "opt"
  · obtain ⟨rfl, rfl⟩ := level
    rfl
  by_cases debug : name = "build" ∧ key = "debug"
  · obtain ⟨rfl, rfl⟩ := debug
    rfl
  by_cases tree : name = "build" ∧ key = "ast_dump"
  · obtain ⟨rfl, rfl⟩ := tree
    rfl
  have other : options.value? name key = none := by
    unfold Command.Options.value?
    split <;> simp_all
  rw [if_neg tree, if_neg debug, if_neg level, other, Option.getD_none]

/-- Settings with a value for each key of the default ones, and nothing else. -/
def IsComplete (settings : Settings) : Prop :=
  ∃ entry level model debug tree, settings = ofValues entry level model debug tree

/-- All the defaults are there. -/
theorem IsComplete.default : Settings.default.IsComplete := ⟨_, _, _, _, _, rfl⟩

/-- What overrides settings takes none of them away. -/
theorem IsComplete.merge (complete : settings.IsComplete) (overrides : Settings) :
    (settings.merge overrides).IsComplete := by
  obtain ⟨_, _, _, _, _, rfl⟩ := complete
  exact ⟨_, _, _, _, _, merge_ofValues _ _ _ _ _ overrides⟩

/-- Nor does an option of the command. -/
theorem IsComplete.setGiven (complete : settings.IsComplete) (name key : String)
    (given : Option Document) :
    (settings.setGiven name key given).IsComplete := by
  cases given with
  | none => exact complete
  | some value => exact complete.merge _

/-- Options add no key and take none away. -/
theorem IsComplete.applyOptions (complete : settings.IsComplete) (options : Command.Options) :
    (Command.applyOptions options settings).IsComplete := by
  rw [Command.applyOptions_eq]
  exact ((complete.setGiven _ _ _).setGiven _ _ _).setGiven _ _ _

/-- Complete settings have the sections and the keys of the defaults. -/
theorem IsComplete.outline (complete : settings.IsComplete) :
    settings.outline = Settings.default.outline := by
  obtain ⟨_, _, _, _, _, rfl⟩ := complete
  rfl

/-- Complete settings override every default. -/
theorem IsComplete.merge_default (complete : settings.IsComplete) :
    Settings.default.merge settings = settings := by
  obtain ⟨_, _, _, _, _, rfl⟩ := complete
  exact merge_ofValues _ _ _ _ _ _

/-- Whatever overrides the defaults, no section of theirs is anything but a table. -/
theorem override_default (overrides : Settings) :
    Settings.default.override (.object overrides) = .ok (Settings.default.merge overrides) := by
  -- Every default section is a table, so none of them refuses to be merged.
  have passes : mergeError? Settings.default overrides = none := by
    refine List.findSome?_eq_none_iff.mpr fun ⟨name, changes⟩ _ => ?_
    dsimp only
    cases found : Settings.default.lookup name with
    | none => rfl
    | some value =>
      obtain ⟨members, rfl⟩ : ∃ members, value = .object members := by
        simp only [Settings.default, List.lookup_cons] at found
        split at found
        · exact ⟨_, (Option.some.inj found).symm⟩
        · split at found
          · exact ⟨_, (Option.some.inj found).symm⟩
          · cases found
      cases changes with
      | object changes => exact List.findSome?_eq_none_iff.mpr fun _ _ => rfl
      | _ => rfl
  -- An empty table counts as if nothing was given.
  cases overrides with
  | nil => exact congrArg Except.ok (merge_nil _).symm
  | cons entry rest => simp [override, Document.isGiven, passes]

end Settings

namespace Session

/-- A session has the settings that override the defaults. -/
theorem start_settings {overrides : Settings} {debug : Bool} {session : Session}
    (started : Session.start (.object overrides) debug = .ok session) :
    session.settings = Settings.default.merge overrides := by
  unfold Session.start at started
  rw [Settings.override_default] at started
  -- What is left is the check of the machine, which changes nothing.
  have started : ((Settings.default.merge overrides).checkMachine >>= fun _ =>
      pure ⟨Settings.default.merge overrides,
        debug || (Settings.default.merge overrides).wantsDebug, .empty, none⟩) =
        Except.ok session := started
  cases checked : (Settings.default.merge overrides).checkMachine with
  | error error =>
    rw [checked] at started
    cases started
  | ok _ =>
    rw [checked] at started
    cases started
    rfl

end Session

namespace Command

/-- What a configuration is made of: the options, what a settings file states, and the defaults. -/
structure Configured (options : Options) (file : Option Settings) (configuration : Settings) :
    Prop where
  /-- It has the sections and the keys of the defaults. -/
  outline : configuration.outline = Settings.default.outline
  /-- A key has the value that options give to it, else the one that the file states, else the
  default. -/
  values : ∀ name key, configuration.get? name key = (Settings.default.get? name key).map
    fun value =>
      (options.value? name key).getD (((file.getD []).get? name key).getD value)
  /-- It overrides all defaults, so that a session has just these settings. -/
  settled : Settings.default.override (.object configuration) = .ok configuration
  started : ∀ debug session, Session.start (.object configuration) debug = .ok session →
    session.settings = configuration
  /-- It is what comes of copies that are changed in place, while every table that was there stays
  as it was. -/
  stored : ∀ (store : Store) (default : Handles), (default.map Prod.fst).Nodup →
    (∀ entry ∈ default, entry.2 < store.length) → store.read default = Settings.default →
      (store.configure default file options).2.read (store.configure default file options).1 =
      configuration ∧
        store <+: (store.configure default file options).2

/-- Where the configuration of a directory comes from, with some options. -/
structure Precedence (files : FileTree) (directory : Path) (options : Options) : Prop where
  /-- The search upwards ends, and with one result only. -/
  search : ∃ found, ∀ result, files.Searches directory result ↔ result = found
  /-- Settings are loaded just where the nearest file can be read or there is none, and are as
  follows. -/
  loads : ∀ loaded, files.settings directory = .ok loaded ↔
    ∃ file, files.States directory file ∧ loaded = Settings.default.merge (file.getD [])
  /-- With options, they are the configuration. -/
  configures : ∀ file, files.States directory file →
    Configured options file (applyOptions options (Settings.default.merge (file.getD [])))
  /-- To merge into the defaults again changes nothing. -/
  idempotent : ∀ overrides,
    Settings.default.merge (Settings.default.merge overrides) = Settings.default.merge overrides

/--
Whatever settings files there are, whatever they hold and whatever options are given, the
configuration follows the options first, then the nearest settings file upwards, and then the
defaults.
-/
theorem configuration_precedence (files : FileTree) (directory : Path) (options : Options) :
    Precedence files directory options where
  search := ⟨files.settingsPath? directory, fun _ => FileTree.searches_iff⟩
  loads := fun _ => FileTree.settings_eq_ok
  configures := fun file _ => by
    have loaded := Settings.IsComplete.default.merge (file.getD [])
    have complete := loaded.applyOptions options
    -- The three levels meet here: defaults, then the file, then the options.
    refine ⟨complete.outline, fun name key => ?_, ?_, fun debug session started => ?_,
      fun store default sections placed reads => ?_⟩
    · rw [Settings.get?_applyOptions, Settings.get?_merge, Option.map_map]
      rfl
    · rw [Settings.override_default, complete.merge_default]
    · rw [Session.start_settings started, complete.merge_default]
    -- In a store the same happens to the tables in place, and only those of the session grow.
    · obtain ⟨configured, keeps⟩ := Store.configure_reads sections placed file options
      rw [reads, complete.merge_default] at configured
      exact ⟨configured, List.prefix_iff_getElem?.mpr fun table inside =>
        (keeps.tables table inside).trans (List.getElem?_eq_getElem inside)⟩
  idempotent := fun overrides => (Settings.IsComplete.default.merge overrides).merge_default

end Command

end LoopLang
