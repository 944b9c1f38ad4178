/-! Paths as lists of names from the root, and the paths that texts name. -/

namespace LoopLang

/-- A path from the root, as the names on the way. -/
abbrev Path := List String

namespace Path

/-- The names in a text between slashes, where `current` is the name so far, in reverse. -/
def splitNames (current : List Char) : List Char → List String
  | [] => [String.ofList current.reverse]
  | '/' :: rest => String.ofList current.reverse :: splitNames [] rest
  | char :: rest => splitNames (char :: current) rest

/-- The names in a text, with the empty ones. -/
def names (text : String) : List String := splitNames [] text.toList

/-- Goes one name further, where a point stays and two points go back. -/
def step (path : Path) (name : String) : Path :=
  if name = "" || name = "." then path
  else if name = ".." then path.dropLast
  else path ++ [name]

/-- Whether a text names a path from the root. -/
def isAbsolute (text : String) : Bool := text.toList.head? = some '/'

/-- The path that a text names from a directory, without a look at any file. -/
def resolve (directory : Path) (text : String) : Path :=
  (names text).foldl step (if isAbsolute text then [] else directory)

/-- The text of a path. -/
def text (path : Path) : String := "/" ++ "/".intercalate path

/-- The directory that a path lies in. -/
def parent (path : Path) : Path := path.dropLast

end Path

end LoopLang
