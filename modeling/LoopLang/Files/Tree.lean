import LoopLang.Files.Path
import LoopLang.Source.Quoted

/-! The files that a command can see, and what goes wrong with them. -/

namespace LoopLang

/-- Why a file cannot be opened for writing or reading. -/
inductive FileError
  | missing (name : String)
  | notADirectory (name : String)
  | isADirectory (name : String)
  | nameTooLong (name : String)
  | embeddedNull
  /-- A number that no open file has stands in place of a name. -/
  | notOpen
  | negativeNumber
  /-- What stands in place of a name is no text. -/
  | notAName (sort : String)
  deriving DecidableEq, Repr

/-- What is wrong, with the number that systems give it. -/
def FileError.message : FileError → String
  | .missing name => s!"[Errno 2] No such file or directory: {quoted name}"
  | .notADirectory name => s!"[Errno 20] Not a directory: {quoted name}"
  | .isADirectory name => s!"[Errno 21] Is a directory: {quoted name}"
  | .nameTooLong name => s!"[Errno 36] File name too long: {quoted name}"
  | .embeddedNull => "embedded null byte"
  | .notOpen => "[Errno 9] Bad file descriptor"
  | .negativeNumber => "negative file descriptor"
  | .notAName sort => s!"expected str, bytes or os.PathLike object, not {sort}"

/-- The most bytes that one name on a path may have. -/
def maxNameBytes : Nat := 255

/-- The most bytes that a path may have. -/
def maxPathBytes : Nat := 4095

/-- Files with their texts, further directories, and the working directory. -/
structure FileTree where
  files : List (Path × String)
  directories : List Path
  working : Path
  deriving Repr

namespace FileTree

/-- The text of a file. -/
def file? (tree : FileTree) (path : Path) : Option String := tree.files.lookup path

/-- Whether there is a file at a path. -/
def isFile (tree : FileTree) (path : Path) : Bool := (tree.file? path).isSome

/-- Whether there is a directory at a path: one that is known, or one with something below it. -/
def isDirectory (tree : FileTree) (path : Path) : Bool :=
  path.isEmpty ||
    (tree.directories.any fun known => path.isPrefixOf known) ||
    tree.files.any fun (known, _) => path.isPrefixOf known && path.length < known.length

/-- Whether there is anything at a path. -/
def exists? (tree : FileTree) (path : Path) : Bool := tree.isFile path || tree.isDirectory path

/-- The path that a text names from the working directory. -/
def resolve (tree : FileTree) (text : String) : Path := Path.resolve tree.working text

/-- Puts a text at a path. -/
def put (path : Path) (text : String) : List (Path × String) → List (Path × String)
  | [] => [(path, text)]
  | (other, old) :: rest =>
    if other = path then (path, text) :: rest else (other, old) :: put path text rest

/-- Goes through directories name by name. -/
def enter (tree : FileTree) (name : String) (start : Path) : List String → Except FileError Path
  | [] => .ok start
  | next :: rest =>
    let target := Path.step start next
    if maxNameBytes < next.utf8ByteSize then .error (.nameTooLong name)
    else if tree.isDirectory target then tree.enter name target rest
    else if tree.isFile target then .error (.notADirectory name)
    else .error (.missing name)

/-- The path at which a file of the given name is written; its directory must exist. -/
def target (tree : FileTree) (name : String) : Except FileError Path := do
  if name.toList.contains '\x00' then throw .embeddedNull
  if maxPathBytes < name.utf8ByteSize then throw (.nameTooLong name)
  let start := if Path.isAbsolute name then [] else tree.working
  let parts := (Path.names name).filter (· ≠ "")
  match parts.getLast? with
  | none => .error (if name = "" then .missing name else .isADirectory name)
  | some last =>
    let directory ← tree.enter name start parts.dropLast
    let path := Path.step directory last
    -- A slash at the end asks for a directory, which is no file.
    if tree.isDirectory path || name.toList.getLast? = some '/' then .error (.isADirectory name)
    else if maxNameBytes < last.utf8ByteSize then .error (.nameTooLong name)
    else .ok path

/-- Writes a file. -/
def write (tree : FileTree) (name content : String) : Except FileError FileTree := do
  let path ← tree.target name
  return { tree with files := put path content tree.files }

end FileTree

end LoopLang
