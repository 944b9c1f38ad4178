import LoopLang.Document.Basic

/-! Settings: named sections of named values, with defaults that say which ones there are. -/

namespace LoopLang

/-- Sections by name, each of them an object of values by name. -/
abbrev Settings := List (String × Document)

/-- Why settings cannot be merged. -/
inductive MergeError
  /-- The overrides are no object. -/
  | overridesNotObject
  /-- A section has no members at all. -/
  | noMembers (found : String)
  /-- A section holds the name of an override, but not as a member. -/
  | notAnObject (found : String)
  deriving DecidableEq, Repr

/-- What is wrong, where there are words for it. -/
def MergeError.message? : MergeError → Option String
  | .overridesNotObject => none
  | .noMembers found => some s!"argument of type '{found}' is not iterable"
  | .notAnObject "list" => some "list indices must be integers or slices, not str"
  | .notAnObject found => some s!"'{found}' object does not support item assignment"

namespace Settings

/-- The settings that hold unless others are given. -/
def default : Settings :=
  [("project", .object [("entry", .text "entry")]),
    ("build", .object
      [("opt", .integer 0), ("codemodel", .text "default"), ("debug", .boolean false),
        ("ast_dump", .text "")])]

/-- The members of a section with the values that override them; other values are dropped. -/
def mergeSection (members changes : List (String × Document)) : List (String × Document) :=
  members.map fun (key, value) => (key, (changes.lookup key).getD value)

/-- The settings with the sections that override them; what is no known section is dropped. -/
def merge (base overrides : Settings) : Settings :=
  base.map fun (name, value) =>
    match value, overrides.lookup name with
    | .object members, some (.object changes) => (name, .object (mergeSection members changes))
    | value, _ => (name, value)

/-- Whether one text occurs within another. -/
def occursIn (part : List Char) : List Char → Bool
  | [] => part.isEmpty
  | whole@(_ :: rest) => part.isPrefixOf whole || occursIn part rest

/-- What is wrong with overriding a member of a section that is no object. -/
def memberError? (name : String) : Document → Option MergeError
  | .object _ => none
  | .text value =>
    if occursIn name.toList value.toList
      then some (.notAnObject (Document.text value).sortName) else none
  | .list items =>
    let isName := fun item => match item with
      | .text value => value = name
      | _ => false
    if items.any isName then some (.notAnObject (Document.list items).sortName) else none
  | value => some (.noMembers value.sortName)

/-- The first thing that is wrong with overriding some settings. -/
def mergeError? (base overrides : Settings) : Option MergeError :=
  overrides.findSome? fun (name, changes) =>
    match base.lookup name, changes with
    | some value, .object changes => changes.findSome? fun (key, _) => memberError? key value
    | _, _ => none

/-- Merges overrides of any sort; what does not count as given overrides nothing. -/
def override (base : Settings) (overrides : Document) : Except MergeError Settings :=
  if overrides.isGiven then
    match overrides with
    | .object changes =>
      match mergeError? base changes with
      | some error => .error error
      | none => .ok (base.merge changes)
    | _ => .error .overridesNotObject
  else .ok base

/-- The value of a key in a section. -/
def get? (settings : Settings) (name key : String) : Option Document :=
  match settings.lookup name with
  | some (.object members) => members.lookup key
  | _ => none

/-- Sets the value of a key that a section has. -/
def set (settings : Settings) (name key : String) (value : Document) : Settings :=
  settings.merge [(name, .object [(key, value)])]

end Settings

end LoopLang
