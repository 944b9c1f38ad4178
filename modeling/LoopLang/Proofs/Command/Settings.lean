import LoopLang.Command.Run

/-! Settings with values of the default sorts: where they come from, how options change them, and
whether a session starts. -/

namespace LoopLang

namespace Settings

/-- Settings with a value for each key of the default ones. -/
def ofValues (entry level model debug tree : Document) : Settings :=
  [("project", .object [("entry", entry)]),
    ("build", .object [("opt", level), ("codemodel", model), ("debug", debug), ("ast_dump", tree)])]

/-- Settings with a value of the default sort for each key. -/
def plain (entry : String) (level : Int) (model : String) (debug : Bool) (tree : String) :
    Settings :=
  ofValues (.text entry) (.integer level) (.text model) (.boolean debug) (.text tree)

/-- Every value is of the same sort as the default one. -/
def HasDefaultSorts (settings : Settings) : Prop :=
  ∀ name key value, default.get? name key = some value →
    ∃ other, settings.get? name key = some other ∧ other.sortName = value.sortName

/-- The level of optimisation and the code model are among those that there are; the code model may
be left out. -/
def InRange (settings : Settings) : Prop :=
  ∃ level model, settings.get? "build" "opt" = some (.integer level) ∧
    (0 ≤ level ∧ level ≤ maxLevel) ∧
    settings.get? "build" "codemodel" = some (.text model) ∧
    (model = "" ∨ codeModels.contains model = true)

/-- What is changed in a section, which is nothing unless an object stands for it. -/
def changesOf (overrides : Settings) (name : String) : List (String × Document) :=
  match overrides.lookup name with
  | some (.object changes) => changes
  | _ => []

/-- Merging keeps the keys. -/
theorem merge_ofValues (entry level model debug tree : Document) (overrides : Settings) :
    (ofValues entry level model debug tree).merge overrides =
      ofValues (((overrides.changesOf "project").lookup "entry").getD entry)
        (((overrides.changesOf "build").lookup "opt").getD level)
        (((overrides.changesOf "build").lookup "codemodel").getD model)
        (((overrides.changesOf "build").lookup "debug").getD debug)
        (((overrides.changesOf "build").lookup "ast_dump").getD tree) := by
  simp only [merge, ofValues, changesOf, List.map_cons, List.map_nil]
  -- Section by section; one that is no table changes nothing.
  congr 1
  · cases overrides.lookup "project" with
    | none => rfl
    | some changes => cases changes <;> rfl
  · cases overrides.lookup "build" with
    | none => rfl
    | some changes => cases changes <;> rfl

variable {entry model tree : String} {level : Int} {debug : Bool}

/-- A value of the sort of texts is a text. -/
theorem exists_text {value : Document} {text : String}
    (sort : value.sortName = (Document.text text).sortName) :
    ∃ content, value = .text content := by
  cases value with
  | text content => exact ⟨content, rfl⟩
  | moment value => cases value <;> simp [Document.sortName, Moment.sortName] at sort
  | _ => simp [Document.sortName] at sort

/-- A value of the sort of integers is an integer. -/
theorem exists_integer {value : Document} {number : Int}
    (sort : value.sortName = (Document.integer number).sortName) :
    ∃ number, value = .integer number := by
  cases value with
  | integer number => exact ⟨number, rfl⟩
  | moment value => cases value <;> simp [Document.sortName, Moment.sortName] at sort
  | _ => simp [Document.sortName] at sort

/-- A value of the sort of truth values is a truth value. -/
theorem exists_boolean {value : Document} {truth : Bool}
    (sort : value.sortName = (Document.boolean truth).sortName) :
    ∃ truth, value = .boolean truth := by
  cases value with
  | boolean truth => exact ⟨truth, rfl⟩
  | moment value => cases value <;> simp [Document.sortName, Moment.sortName] at sort
  | _ => simp [Document.sortName] at sort

/-- Settings that a file changes have the keys of the default ones, so that they are plain if the
sorts are the same. -/
theorem exists_plain {files : FileTree} {directory : Path} {settings : Settings}
    (loaded : files.settings directory = .ok settings) (sorts : settings.HasDefaultSorts) :
    ∃ entry level model debug tree, settings = plain entry level model debug tree := by
  -- A file overrides values of the default settings and adds no key.
  obtain ⟨entry, level, model, debug, tree, rfl⟩ : ∃ entry level model debug tree,
      settings = ofValues entry level model debug tree := by
    unfold FileTree.settings at loaded
    split at loaded
    · cases loaded
      exact ⟨_, _, _, _, _, rfl⟩
    · split at loaded
      · cases loaded
      · split at loaded
        · cases loaded
          exact ⟨_, _, _, _, _, merge_ofValues _ _ _ _ _ _⟩
        · cases loaded
  -- So each of the five values is of the sort of its default.
  have sort (name key : String) (value other : Document)
    (given : Settings.default.get? name key = some value)
      (found : (ofValues entry level model debug tree).get? name key = some other) :
        other.sortName = value.sortName := by
    obtain ⟨same, here, sort⟩ := sorts name key value given
    cases found.symm.trans here
    exact sort
  -- Section by section, with the sort of its default.
  have entry_sort := sort "project" "entry" _ entry rfl rfl
  have level_sort := sort "build" "opt" _ level rfl rfl
  have model_sort := sort "build" "codemodel" _ model rfl rfl
  have debug_sort := sort "build" "debug" _ debug rfl rfl
  have tree_sort := sort "build" "ast_dump" _ tree rfl rfl
  -- A document of a sort is a value of that sort.
  obtain ⟨entry, rfl⟩ := exists_text entry_sort
  obtain ⟨level, rfl⟩ := exists_integer level_sort
  obtain ⟨model, rfl⟩ := exists_text model_sort
  obtain ⟨debug, rfl⟩ := exists_boolean debug_sort
  obtain ⟨tree, rfl⟩ := exists_text tree_sort
  exact ⟨entry, level, model, debug, tree, rfl⟩

/-- What an option sets counts more than the settings; a tree is written to a place with a name
only. -/
theorem applyOptions_plain (options : Command.Options) :
    Command.applyOptions options (plain entry level model debug tree) =
      plain entry (options.level.getD level) model (options.debug || debug)
        (if options.tree.getD "" = "" then tree else options.tree.getD "") := by
  obtain ⟨_, _, _, dump, stated, given, _⟩ := options
  -- An empty path is given but does not change the settings.
  rcases dump with _ | dump
  · cases stated <;> cases given <;> rfl
  · by_cases named : dump = ""
    · subst named
      cases stated <;> cases given <;> rfl
    · rw [Option.getD_some, if_neg named]
      cases stated <;> cases given <;>
        simp only [Command.applyOptions, if_true, Bool.false_eq_true, if_false] <;> rfl

/-- Where plain settings ask for the tree to be put. -/
theorem treePath?_plain :
    Command.treePath? (plain entry level model debug tree) = .ok
      (if tree = "" then none else some tree) := by
  -- The path is read back from the table that it was written to.
  have stated : (plain entry level model debug tree).get? "build" "ast_dump" = some (.text tree) :=
    rfl
  unfold Command.treePath?
  rw [stated]
  by_cases named : tree = "" <;> simp [Option.filter, Document.isGiven, named]

/-- Plain settings in range are those whose level and code model are. -/
theorem inRange_plain : (plain entry level model debug tree).InRange ↔
    (0 ≤ level ∧ level ≤ maxLevel) ∧ (model = "" ∨ codeModels.contains model = true) := by
  constructor
  · rintro ⟨_, _, ⟨⟩, bounds, ⟨⟩, known⟩
    exact ⟨bounds, known⟩
  · rintro ⟨bounds, known⟩
    exact ⟨_, _, rfl, bounds, rfl, known⟩

/-- How a session starts with plain settings. -/
theorem start_plain : Session.start (.object (plain entry level model debug tree)) false =
    (checkLevel (some level) >>= fun _ => checkModel (.text model)) >>= fun _ =>
      .ok ⟨plain entry level model debug tree, debug, .empty, none⟩ := rfl

/-- A session starts with plain settings that are in range. -/
theorem InRange.start (inRange : (plain entry level model debug tree).InRange) :
    Session.start (.object (plain entry level model debug tree)) false =
      .ok ⟨plain entry level model debug tree, debug, .empty, none⟩ := by
  obtain ⟨bounds, known⟩ := inRange_plain.mp inRange
  have fits : (model = "" || codeModels.contains model) = true := by simpa using known
  simp only [start_plain, checkLevel, bounds, checkModel, fits]
  rfl

/-- No session starts with plain settings that are not. -/
theorem start_outOfRange (outside : ¬ (plain entry level model debug tree).InRange) :
    Session.start (.object (plain entry level model debug tree)) false = .error .outOfRange := by
  rw [inRange_plain] at outside
  -- The level is checked first; where it fits, the model must be the unknown one.
  by_cases bounds : 0 ≤ level ∧ level ≤ maxLevel
  · have unknown : (model = "" || codeModels.contains model) = false := by
      simpa [bounds] using outside
    simp only [start_plain, checkLevel, bounds, checkModel, unknown]
    rfl
  · simp only [start_plain, checkLevel, bounds]
    rfl

end Settings

end LoopLang
