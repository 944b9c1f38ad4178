import LoopLang.Command.Run
import Mathlib.Data.List.Nodup

/-! Settings in tables that are copied and changed in place: the defaults stay as they are. -/

namespace LoopLang

/-- Tables by number. Copying adds new ones, and an assignment changes one in place, for all that
share it. -/
abbrev Store := List (List (String × Document))

/-- Settings in a store: the table of each section. -/
abbrev Handles := List (String × Nat)

/-- Gives members other values, each by what changes hold under its name. -/
def overlay (change : Document → Option Document → Document)
    (members changes : List (String × Document)) :
    List (String × Document) :=
  members.map fun (name, value) => (name, change value (changes.lookup name))

/-- The members of a dictionary as they are gone through: each name once, with the value that it
leads to. -/
def entries : List (String × Document) → List (String × Document)
  | [] => []
  | (name, value) :: rest => (name, value) :: (entries rest).filter fun entry => entry.1 ≠ name

/-- The value of a section with what overrides it. -/
def Settings.mergeValue (value : Document) (given : Option Document) : Document :=
  match value, given with
  | .object members, some (.object changes) => .object (mergeSection members changes)
  | value, _ => value

/-- The value that options give to a key of the settings; a path without a name counts as none. -/
def Command.Options.value? (options : Options) : (name key : String) → Option Document
  | "build", "opt" => options.level.map .integer
  | "build", "debug" => if options.debug then some (.boolean true) else none
  | "build", "ast_dump" => (options.tree.filter (· ≠ "")).map .text
  | _, _ => none

/-- Sets the value of a key, if one is given. -/
def Settings.setGiven (settings : Settings) (name key : String) : Option Document → Settings
  | some value => settings.set name key value
  | none => settings

namespace Store

/-- The settings as they stand in a store. -/
def read (store : Store) (handles : Handles) : Settings :=
  handles.map fun (name, table) => (name, .object (store.getD table []))

/-- A copy of settings has tables of its own. -/
def deepCopy (store : Store) : Handles → Handles × Store
  | [] => ([], store)
  | (name, table) :: rest =>
    let (copied, later) := deepCopy (store ++ [store.getD table []]) rest
    ((name, store.length) :: copied, later)

/-- Assigns a value to a key, if the table has it. -/
def assign (store : Store) (table : Nat) (entry : String × Document) : Store :=
  store.modify table fun members => Settings.mergeSection members [entry]

/-- Assigns the values of one section, if there is such a section and the values are members. -/
def assignSection (handles : Handles) (store : Store) (entry : String × Document) : Store :=
  match handles.lookup entry.1, entry.2 with
  | some table, .object changes => (entries changes).foldl (assign · table) store
  | _, _ => store

/-- Copies settings and assigns what overrides them to the copy. -/
def merge (store : Store) (base : Handles) (overrides : Settings) : Handles × Store :=
  let (merged, copied) := store.deepCopy base
  (merged, (entries overrides).foldl (assignSection merged) copied)

/-- Assigns a value to one key of settings. -/
def set (store : Store) (handles : Handles) (name key : String) (value : Document) : Store :=
  store.assignSection handles (name, .object [(key, value)])

/-- Assigns a value to one key of settings, if one is given. -/
def setGiven (store : Store) (handles : Handles) (name key : String) : Option Document → Store
  | some value => store.set handles name key value
  | none => store

/-- Assigns what options give. -/
def applyOptions (store : Store) (handles : Handles) (options : Command.Options) : Store :=
  let withLevel := store.setGiven handles "build" "opt" (options.value? "build" "opt")
  let withDebug := withLevel.setGiven handles "build" "debug" (options.value? "build" "debug")
  withDebug.setGiven handles "build" "ast_dump" (options.value? "build" "ast_dump")

/-- Copies the defaults, with what a settings file says if there is one. -/
def load (store : Store) (default : Handles) : Option Settings → Handles × Store
  | none => store.deepCopy default
  | some overrides => store.merge default overrides

/-- How a session gets its settings: options are assigned to what is loaded, and that is merged into
the defaults again. -/
def configure (store : Store) (default : Handles) (file : Option Settings)
    (options : Command.Options) :
    Handles × Store :=
  let (loaded, begun) := store.load default file
  let patched := begun.applyOptions loaded options
  patched.merge default (patched.read loaded)

end Store

section Overlay

/-- A dictionary is gone through with each name once. -/
theorem entries_distinct (members : List (String × Document)) :
    ((entries members).map Prod.fst).Nodup := by
  induction members with
  | nil => exact List.nodup_nil
  | cons entry rest ih =>
    -- Behind the first entry, those of the same name are left out.
    refine List.nodup_cons.mpr ⟨fun member => ?_, ih.sublist (List.filter_sublist.map _)⟩
    obtain ⟨other, kept, same⟩ := List.mem_map.mp member
    simpa [same] using (List.mem_filter.mp kept).2

/-- What is looked up is not changed when other names are left out. -/
theorem lookup_filter {name other : String} (apart : name ≠ other)
    (members : List (String × Document)) :
    (members.filter fun entry => entry.1 ≠ other).lookup name = members.lookup name := by
  -- Entries of the other name are skipped on both sides.
  induction members with
  | nil => rfl
  | cons entry rest ih =>
    obtain ⟨key, value⟩ := entry
    by_cases same : key = other
    · subst same
      have differs : (name == key) = false := by simpa using apart
      rw [List.filter_cons_of_neg (by simp), ih, List.lookup_cons, differs]
    · rw [List.filter_cons_of_pos (by simpa using same), List.lookup_cons, List.lookup_cons, ih]

/-- Each name leads to the value that it leads to in the dictionary. -/
theorem lookup_entries (members : List (String × Document)) (name : String) :
    (entries members).lookup name = members.lookup name := by
  induction members with
  | nil => rfl
  | cons entry rest ih =>
    obtain ⟨key, value⟩ := entry
    by_cases same : name = key
    · simp [entries, same]
    -- Entries of another name are not touched by the filter.
    · rw [entries, List.lookup_cons, List.lookup_cons, lookup_filter same, ih]

variable {change : Document → Option Document → Document}

/-- To go through changes with distinct names one by one is to look each name up in all of them. -/
theorem foldl_overlay (keeps : ∀ value, change value none = value)
    {changes : List (String × Document)} (distinct : (changes.map Prod.fst).Nodup)
    (members : List (String × Document)) :
    changes.foldl (fun changed entry => overlay change changed [entry]) members =
      overlay change members changes := by
  -- The changes are made one after the other, but their names are apart.
  induction changes generalizing members with
  | nil => simp [overlay, keeps]
  | cons entry rest ih =>
    obtain ⟨name, given⟩ := entry
    obtain ⟨apart, distinct⟩ := List.nodup_cons.mp distinct
    rw [List.foldl_cons, ih distinct, overlay, overlay, overlay, List.map_map]
    refine List.map_congr_left fun ⟨key, value⟩ _ => ?_
    by_cases same : key = name
    -- No later change has the name of the first one.
    · subst same
      have missing : rest.lookup key = none := List.lookup_eq_none_iff.mpr fun other member => by
        simpa using fun same : key = other.1 => apart (List.mem_map.mpr ⟨other, member, same.symm⟩)
      simp [List.lookup_cons, missing, keeps]
    · have other : (key == name) = false := by simpa using same
      simp [List.lookup_cons, other, keeps]

/-- To go through a dictionary of changes is to look each name up in it. -/
theorem foldl_entries (keeps : ∀ value, change value none = value)
    (changes members : List (String × Document)) :
    (entries changes).foldl (fun changed entry => overlay change changed [entry]) members =
      overlay change members changes := by
  rw [foldl_overlay keeps (entries_distinct changes)]
  simp only [overlay, lookup_entries]

end Overlay

namespace Settings

/-- To go through the changes of a section is to merge them. -/
theorem foldl_mergeSection (members changes : List (String × Document)) :
    (entries changes).foldl (fun changed entry => mergeSection changed [entry]) members =
      mergeSection members changes :=
  @foldl_entries (fun value given => given.getD value) (fun _ => rfl) changes members

/-- Settings are merged section by section, by what overrides each of them. -/
theorem merge_eq (base overrides : Settings) :
    base.merge overrides = overlay mergeValue base overrides := by
  refine List.map_congr_left fun ⟨name, value⟩ _ => ?_
  dsimp only [mergeValue]
  generalize overrides.lookup name = given
  cases value with
  | object members =>
    -- A section is merged with a table only; anything else leaves it alone.
    rcases given with _ | changes
    · rfl
    · cases changes <;> rfl
  | _ => rfl

/-- What nothing overrides stays as it is. -/
theorem mergeValue_none (value : Document) : mergeValue value none = value := by
  cases value <;> rfl

/-- Without overrides all is as it was. -/
theorem merge_nil (base : Settings) : base.merge [] = base := by
  simp [merge_eq, overlay, mergeValue_none]

/-- To go through overrides is to merge them. -/
theorem foldl_merge (base overrides : Settings) :
    (entries overrides).foldl (fun settings entry => settings.merge [entry]) base =
      base.merge overrides := by
  simp only [merge_eq]
  exact foldl_entries mergeValue_none overrides base

end Settings

/-- Options change the values that they give. -/
theorem Command.applyOptions_eq (options : Options) (settings : Settings) :
    applyOptions options settings =
    ((settings.setGiven "build" "opt" (options.value? "build" "opt")).setGiven "build" "debug"
      (options.value? "build" "debug")).setGiven "build" "ast_dump"
        (options.value? "build" "ast_dump") := by
  obtain ⟨_, _, _, tree, level, debug, _⟩ := options
  unfold applyOptions
  -- A path that is given but empty is treated as none.
  rcases tree with _ | tree
  · cases level <;> cases debug <;> rfl
  · by_cases named : tree = ""
    · subst named
      cases level <;> cases debug <;> rfl
    · have kept : (some tree).filter (· ≠ "") = some tree := by simp [Option.filter, named]
      simp only [Options.value?, kept]
      cases level <;> cases debug <;> rfl

namespace Store

variable {store : Store} {handles : Handles} {known : Nat}

/-- Settings with tables of their own, beyond those with smaller numbers. -/
structure Owns (known : Nat) (store : Store) (handles : Handles) : Prop where
  sections : (handles.map Prod.fst).Nodup
  tables : (handles.map Prod.snd).Nodup
  bounds : ∀ entry ∈ handles, known ≤ entry.2 ∧ entry.2 < store.length

/-- A later store has all tables, and those with small numbers are as they were. -/
structure Keeps (known : Nat) (store later : Store) : Prop where
  tables : ∀ table < known, later[table]? = store[table]?
  length : store.length ≤ later.length

/-- A store keeps what it holds. -/
theorem Keeps.refl (store : Store) : Keeps known store store := ⟨fun _ _ => rfl, Nat.le_refl _⟩

/-- What is kept on the way is kept. -/
theorem Keeps.trans {middle later : Store} (first : Keeps known store middle)
    (second : Keeps known middle later) :
    Keeps known store later :=
  ⟨fun table small => (second.tables table small).trans (first.tables table small),
    Nat.le_trans first.length second.length⟩

/-- Settings in tables that are kept read as before. -/
theorem Keeps.read {later : Store} (keeps : Keeps known store later)
    (small : ∀ entry ∈ handles, entry.2 < known) :
    later.read handles = store.read handles := by
  refine List.map_congr_left fun entry member => ?_
  dsimp only
  rw [List.getD_eq_getElem?_getD, keeps.tables entry.2 (small entry member),
    ← List.getD_eq_getElem?_getD]

/-- Settings still own their tables when there are more. -/
theorem Owns.keep {later : Store} (owns : Owns known store handles)
    (more : store.length ≤ later.length) :
    Owns known later handles := by
  refine ⟨owns.sections, owns.tables, fun entry member => ?_⟩
  obtain ⟨above, below⟩ := owns.bounds entry member
  exact ⟨above, Nat.lt_of_lt_of_le below more⟩

/-- A copy reads as what it was made from, in new tables. -/
theorem deepCopy_reads (sections : (handles.map Prod.fst).Nodup)
    (placed : ∀ entry ∈ handles, entry.2 < store.length) :
    (store.deepCopy handles).2.read (store.deepCopy handles).1 = store.read handles ∧
      Owns store.length (store.deepCopy handles).2 (store.deepCopy handles).1 ∧
      (store.deepCopy handles).1.map Prod.fst = handles.map Prod.fst ∧
      Keeps store.length store (store.deepCopy handles).2 := by
  induction handles generalizing store with
  | nil => exact ⟨rfl, ⟨List.nodup_nil, List.nodup_nil, nofun⟩, rfl, .refl store⟩
  | cons entry rest ih =>
    obtain ⟨name, table⟩ := entry
    obtain ⟨apart, sections⟩ := List.nodup_cons.mp sections
    obtain ⟨here, placed⟩ := List.forall_mem_cons.mp placed
    have longer : (store ++ [store.getD table []]).length = store.length + 1 := by simp
    -- The copy of the first table stands in front of those of the others.
    have kept : Keeps store.length store (store ++ [store.getD table []]) :=
      ⟨fun other small => List.getElem?_append_left small, by simp⟩
    have room : ∀ entry ∈ rest, entry.2 < (store ++ [store.getD table []]).length :=
      fun entry member => by
        rw [longer]
        exact Nat.lt_succ_of_lt (placed entry member)
    -- The other tables are copied behind it, by induction.
    obtain ⟨reads, owns, names, keeps⟩ := ih sections room
    rw [longer] at owns keeps
    have goes_on : store.deepCopy ((name, table) :: rest) =
        ((name, store.length) :: ((store ++ [store.getD table []]).deepCopy rest).1,
          ((store ++ [store.getD table []]).deepCopy rest).2) := rfl
    rw [goes_on]
    refine ⟨?_, ⟨?_, ?_, fun entry member => ?_⟩, congrArg (name :: ·) names,
      kept.trans ⟨fun other small => keeps.tables other (Nat.lt_succ_of_lt small), keeps.length⟩⟩
    -- The copy of the first table is still there when all are copied, and reads the same.
    · refine List.cons_eq_cons.mpr ⟨?_, reads.trans (kept.read placed)⟩
      have first := keeps.tables store.length (Nat.lt_succ_self _)
      rw [List.getElem?_concat_length] at first
      show (name, Document.object (List.getD _ store.length [])) = _
      rw [List.getD_eq_getElem?_getD, first, Option.getD_some]
    · exact List.nodup_cons.mpr ⟨names ▸ apart, owns.sections⟩
    -- Later copies have higher numbers, so no two sections share a table.
    · refine List.nodup_cons.mpr ⟨fun member => ?_, owns.tables⟩
      obtain ⟨other, listed, same⟩ := List.mem_map.mp member
      exact absurd (owns.bounds other listed).1 (by rw [same]; omega)
    · rcases List.mem_cons.mp member with rfl | other
      · exact ⟨Nat.le_refl _, Nat.lt_of_lt_of_le (by simp) keeps.length⟩
      · exact ⟨Nat.le_of_succ_le (owns.bounds entry other).1, (owns.bounds entry other).2⟩

/-- Assigning changes to the table of a section is to merge them into that section. -/
theorem read_modify (owns : Owns known store handles) {name : String} {table : Nat}
    (found : handles.lookup name = some table) (changes : List (String × Document)) :
    Store.read (store.modify table (Settings.mergeSection · changes)) handles =
      (store.read handles).merge [(name, .object changes)] := by
  obtain ⟨before, after, split, -⟩ := List.lookup_eq_some_iff.mp found
  have member : (name, table) ∈ handles := by simp [split]
  rw [Settings.merge_eq, overlay, Store.read, Store.read, List.map_map]
  -- Section by section: the one of this name has been changed in place, any other is kept.
  refine List.map_congr_left fun ⟨other, place⟩ listed => ?_
  have inside := (owns.bounds _ member).2
  by_cases same : other = name
  -- Sections have distinct names, so that this one has the table.
  · subst same
    obtain rfl : place = table :=
      congrArg Prod.snd (List.inj_on_of_nodup_map owns.sections listed member rfl)
    simp [List.getD_eq_getElem?_getD, inside, Settings.mergeValue]
  -- Sections do not share their tables.
  · have apart : table ≠ place := fun equal =>
      same (congrArg Prod.fst (List.inj_on_of_nodup_map owns.tables listed member equal.symm))
    have missing : List.lookup other [(name, Document.object changes)] = none := by simp [same]
    simp [List.getD_eq_getElem?_getD, missing, apart, Settings.mergeValue_none]

/-- What is assigned to a table one by one is assigned at once. -/
theorem foldl_assign (store : Store) (table : Nat) (changes : List (String × Document)) :
    changes.foldl (assign · table) store =
      store.modify table fun members =>
        changes.foldl (fun changed entry => Settings.mergeSection changed [entry]) members := by
  induction changes generalizing store with
  | nil => exact (List.modify_id table store).symm
  | cons entry rest ih =>
    -- Two changes of one table in a row are a single one.
    rw [List.foldl_cons, ih, assign, List.modify_modify_eq]
    rfl

/-- Assigning the values of one section is to merge them, and no table of others changes. -/
theorem assignSection_reads (owns : Owns known store handles) (entry : String × Document) :
    (store.assignSection handles entry).read handles = (store.read handles).merge [entry] ∧
      Keeps known store (store.assignSection handles entry) := by
  obtain ⟨name, values⟩ := entry
  unfold assignSection
  split
  -- There is such a section, and its table is changed in place.
  · rename_i table changes found given
    obtain rfl : values = .object changes := given
    simp only [foldl_assign, Settings.foldl_mergeSection]
    refine ⟨read_modify owns found changes, fun other small => ?_, by simp⟩
    obtain ⟨before, after, split, -⟩ := List.lookup_eq_some_iff.mp found
    have apart : table ≠ other := fun same =>
      Nat.lt_irrefl _ (Nat.lt_of_lt_of_le (same ▸ small)
        (owns.bounds (name, table) (by simp [split])).1)
    simp [apart]
  · rename_i unfit
    refine ⟨?_, .refl store⟩
    -- There is no such section, or what overrides it is no object.
    rw [Settings.merge_eq, overlay]
    refine (List.map_id _).symm.trans (List.map_congr_left fun ⟨other, value⟩ listed => ?_)
    obtain ⟨⟨_, table⟩, member, same⟩ := List.mem_map.mp listed
    obtain ⟨rfl, rfl⟩ := Prod.mk.inj same
    refine Prod.ext rfl ?_
    dsimp only [id]
    rw [List.lookup_cons]
    -- Whatever cannot be merged leaves every section as it is.
    split
    · rename_i named
      cases values with
      | object changes =>
        cases found : handles.lookup name with
        | some table => exact absurd rfl (unfit table changes found)
        | none =>
          have apart := List.lookup_eq_none_iff.mp found _ member
          rw [eq_of_beq named] at apart
          exact absurd apart (by simp)
      | _ => rfl
    · rfl

/-- So is assigning those of several sections. -/
theorem foldl_assignSection (owns : Owns known store handles) (overrides : Settings) :
    (overrides.foldl (assignSection handles) store).read handles =
        overrides.foldl (fun settings entry => settings.merge [entry]) (store.read handles) ∧
      Keeps known store (overrides.foldl (assignSection handles) store) := by
  induction overrides generalizing store with
  | nil => exact ⟨rfl, .refl store⟩
  | cons entry rest ih =>
    -- Each entry is stored as merging it would say, and other tables are kept.
    obtain ⟨reads, keeps⟩ := assignSection_reads owns entry
    obtain ⟨further, kept⟩ := ih (owns.keep keeps.length)
    exact ⟨further.trans (by rw [reads, List.foldl_cons]), keeps.trans kept⟩

/-- Settings merged in a store read as merged settings, in tables of their own. -/
theorem merge_reads (sections : (handles.map Prod.fst).Nodup)
    (placed : ∀ entry ∈ handles, entry.2 < store.length) (overrides : Settings) :
    (store.merge handles overrides).2.read (store.merge handles overrides).1 =
      (store.read handles).merge overrides ∧
      Owns store.length (store.merge handles overrides).2 (store.merge handles overrides).1 ∧
      Keeps store.length store (store.merge handles overrides).2 := by
  -- The settings are copied first, so the changes go to tables of their own.
  obtain ⟨reads, owns, -, keeps⟩ := deepCopy_reads sections placed
  obtain ⟨merged, kept⟩ := foldl_assignSection owns (entries overrides)
  refine ⟨merged.trans ?_, owns.keep kept.length, keeps.trans kept⟩
  rw [reads, Settings.foldl_merge]

/-- A value that is assigned reads as one that is set. -/
theorem setGiven_reads {start : Store} {settings : Settings} (owns : Owns known start handles)
    (begun : store.read handles = settings ∧ Keeps known start store) (name key : String)
    (given : Option Document) :
    (store.setGiven handles name key given).read handles = settings.setGiven name key given ∧
      Keeps known start (store.setGiven handles name key given) := by
  cases given with
  | none => exact begun
  -- A given option is stored like a file that states only this.
  | some value =>
    obtain ⟨reads, keeps⟩ :=
      assignSection_reads (owns.keep begun.2.length) (name, .object [(key, value)])
    exact ⟨reads.trans (by rw [begun.1]; rfl), begun.2.trans keeps⟩

/-- What options assign reads as what they change. -/
theorem applyOptions_reads (owns : Owns known store handles) (options : Command.Options) :
    (store.applyOptions handles options).read handles = Command.applyOptions options
      (store.read handles) ∧ Keeps known store (store.applyOptions handles options) := by
  rw [Command.applyOptions_eq]
  exact setGiven_reads owns
    (setGiven_reads owns (setGiven_reads owns ⟨rfl, .refl store⟩ _ _ _) _ _ _) _ _ _

/-- Loaded settings read as the file has it. -/
theorem load_reads (sections : (handles.map Prod.fst).Nodup)
    (placed : ∀ entry ∈ handles, entry.2 < store.length) (file : Option Settings) :
    (store.load handles file).2.read (store.load handles file).1 = (store.read handles).merge
      (file.getD []) ∧ Owns store.length (store.load handles file).2 (store.load handles file).1 ∧
      Keeps store.length store (store.load handles file).2 := by
  cases file with
  -- Without a file the copy is the result.
  | none =>
    obtain ⟨reads, owns, -, keeps⟩ := deepCopy_reads sections placed
    exact ⟨reads.trans (Settings.merge_nil _).symm, owns, keeps⟩
  | some overrides => exact merge_reads sections placed overrides

/-- The settings of a session read as the options and the file have it, and the defaults stay as
they are. -/
theorem configure_reads {default : Handles} (sections : (default.map Prod.fst).Nodup)
    (placed : ∀ entry ∈ default, entry.2 < store.length) (file : Option Settings)
    (options : Command.Options) :
    (store.configure default file options).2.read (store.configure default file options).1 =
        (store.read default).merge
          (Command.applyOptions options ((store.read default).merge (file.getD []))) ∧
      Keeps store.length store (store.configure default file options).2 := by
  obtain ⟨reads, owns, kept⟩ := load_reads sections placed file
  unfold configure
  generalize store.load default file = loaded at reads owns kept
  obtain ⟨loaded, begun⟩ := loaded
  obtain ⟨patched, keeps⟩ := applyOptions_reads owns options
  have later : Keeps store.length store (begun.applyOptions loaded options) := kept.trans keeps
  obtain ⟨merged, -, further⟩ := merge_reads sections
    (fun entry member => Nat.lt_of_lt_of_le (placed entry member) later.length)
    ((begun.applyOptions loaded options).read loaded)
  -- The second copy is made of the defaults as they are by then, which is as they were.
  refine ⟨merged.trans ?_, later.trans ⟨fun table small => ?_, further.length⟩⟩
  · rw [later.read placed, patched, reads]
  · exact further.tables table (Nat.lt_of_lt_of_le small later.length)

end Store

end LoopLang
