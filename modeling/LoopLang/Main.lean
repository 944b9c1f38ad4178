import LoopLang.Command.Run

/-! The program: what it needs from the file system is read first, and what the command changes is
written last. -/

namespace LoopLang

/-- The text of a file, if it can be read. -/
def readFile? (path : Path) : IO (Option String) := do
  try return some (← IO.FS.readFile path.text) catch _ => return none

/-- Whether there is a directory at a path. -/
def isDirectory (path : Path) : IO Bool := do
  try
    let _ ← IO.FS.realPath (path.text ++ "/.")
    return true
  catch _ => return false

/-- What is known about some files once some more paths have been looked at. -/
def look (tree : FileTree) (paths : List Path) : IO FileTree :=
  paths.foldlM (fun tree path => do
    if ← isDirectory path then return { tree with directories := path :: tree.directories }
    match ← readFile? path with
    | some content => return { tree with files := tree.files ++ [(path, content)] }
    | none => return tree) tree

/-- The paths at which the command may look for its settings. -/
def settingsPaths (directory : Path) : List Path :=
  directory.upwards.map (· ++ [settingsFileName])

/-- The names of the files that options and settings may ask to write. -/
def targetNames (tree : FileTree) (directory : Path) (options : Command.Options) : List String :=
  let stored :=
    match tree.settings directory with
    | .ok settings => ((Command.treePath? settings).toOption.join).toList
    | .error _ => []
  stored ++ options.tree.toList ++ options.object.toList

/-- Everything that a command with the given arguments can see. -/
def gather (working : Path) (arguments : List String) : IO FileTree := do
  let start : FileTree := ⟨[], [working], working⟩
  match Command.readArguments arguments with
  | .error _ => return start
  | .ok (input, options) =>
    let path := start.resolve input
    let tree ← look start (path :: settingsPaths path.parent)
    let targets := (targetNames tree path.parent options).map tree.resolve
    look tree (targets.flatMap Path.upwards)

/-- Writes the files that a command has added or changed. -/
def store (before after : FileTree) : IO Unit :=
  after.files.forM fun (path, content) => do
    if before.file? path ≠ some content then IO.FS.writeFile path.text content

/-- More steps than any run takes that is worth waiting for. -/
def stepLimit : Nat := 1000000000000

end LoopLang

open LoopLang in
/-- Runs the command on the real file system; a failure that no message covers ends with status
one. -/
def main (arguments : List String) : IO UInt32 := do
  let working := Path.resolve [] (toString (← IO.currentDir))
  let tree ← gather working arguments
  let report := Command.run stepLimit tree arguments
  -- Only what the command has written is stored.
  store tree report.files
  (← IO.getStdout).putStr report.output
  let errors ← IO.getStderr
  report.complaints.forM fun complaint => errors.putStr complaint.text
  match report.ending with
  | .status code => return code.toUInt32
  | .escape failure =>
    errors.putStrLn (errorMark ++ failure.message)
    return 1
