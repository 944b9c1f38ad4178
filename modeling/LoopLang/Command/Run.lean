import LoopLang.Command.Console
import LoopLang.Parser.Basic
import LoopLang.Tree.Document

/-! The command: parse a file, lower it, and show, store or run the result as its options ask. -/

namespace LoopLang.Command

open Effect

/-- The settings of a directory with the options that override them. -/
def applyOptions (options : Options) (settings : Settings) : Settings :=
  let withLevel :=
    match options.level with
    | some level => settings.set "build" "opt" (.integer level)
    | none => settings
  let withDebug := if options.debug then withLevel.set "build" "debug" (.boolean true)
    else withLevel
  match options.tree with
  | none | some "" => withDebug
  | some path => withDebug.set "build" "ast_dump" (.text path)

/-- The greatest number that an open file can have. -/
def maxFileNumber : Int := 2147483647

/-- Why a value that is no text names no file to write; the number of an open file would do, but
none is open. -/
def noFileName (value : Document) : FileError :=
  match value with
  | .boolean _ => .notOpen
  | .integer number =>
    if maxFileNumber < number ∨ number < -maxFileNumber - 1 then .notAName value.sortName
    else if number < 0 then .negativeNumber
    else .notOpen
  | value => .notAName value.sortName

/-- Where settings ask for the tree to be put, if they do. -/
def treePath? (settings : Settings) : Except FileError (Option String) :=
  match (settings.get? "build" "ast_dump").filter Document.isGiven with
  | none => .ok none
  | some (.text path) => .ok (some path)
  | some value => .error (noFileName value)

/-- The result of a function as it is printed. -/
def showValue : Value → String
  | .number value => displayNumber value
  | .boolean value => displayBoolean value

/-- What the steps of a command have in common. -/
structure Job where
  options : Options
  source : String
  fileName : String

namespace Job

/-- Prints a line about progress, unless only results are wanted. -/
def log (job : Job) (line : String) : Effect Unit := unless job.options.quiet do printLine line

/-- Reports a diagnostic and ends the command. -/
def report {α : Type} (job : Job) (diagnostic : Diagnostic) : Effect α := do
  print (diagnostic.report job.source job.fileName .plain)
  finish (.status 1)

/-- Parses the source. -/
def parse (job : Job) : Effect Tree := do
  job.log "Parsing code..."
  match Program.parse job.source with
  | .error error => job.report error.diagnostic
  | .ok program =>
    job.log "Parsing successful."
    return program.toTree

/-- Writes the tree of the program, if it is wanted. -/
def writeTree (job : Job) (settings : Settings) (tree : Tree) : Effect Unit := do
  match ← orEscape .file (treePath? settings) with
  | none => return
  | some path =>
    write path tree.document.render
    job.log s!"AST written to {path}"

/-- Lowers the program; its debug lines are printed even if that fails. -/
def compile (job : Job) (settings : Settings) (tree : Tree) : Effect Session := do
  job.log "Compiling AST to LLVM IR..."
  let session ← orEscape .start (Session.start (.object settings) false)
  let (result, session) := session.compile tree
  session.debugLines.forM fun line => printLine (debugMark ++ line)
  match result with
  | .ok _ => return session
  | .error (.refused cause place) => job.report (cause.diagnostic place)
  | .error (.fault fault) => finish (.escape (.lowering fault))

/-- Prints the code, if it is wanted. -/
def showCode (job : Job) (session : Session) : Effect Unit := do
  if job.options.showCode then
    job.log "--- Generated LLVM IR ---"
    match session.builder.code.checkNames with
    | .error defect => refuse defect
    | .ok _ => printLine session.builder.code.text
    job.log "-------------------------"

/-- Writes the object code, if it is wanted; only code that is fit to run is written. -/
def writeObject (job : Job) (session : Session) : Effect Unit := do
  match job.options.object with
  | none | some "" => return
  | some path =>
    match session.builder.code.verify with
    | .error defect => refuse defect
    | .ok _ =>
      write path session.builder.code.text
      job.log s!"Object file '{path}' generated successfully."

/-- Runs a function for at most the given number of steps, if that is wanted. -/
def runFunction (job : Job) (steps : Nat) (session : Session) : Effect Unit := do
  match job.options.run with
  | none => return
  | some name =>
    job.log "Running with JIT..."
    -- Without a name the function that the program has become is run.
    match session.run steps (if name = "" then none else some name) [] with
    | .ok none => return
    | .ok (some value) => printLine (showValue value)
    | .error (.defective defect) => refuse defect
    | .error error =>
      match error.diagnostic? with
      | some diagnostic => job.report diagnostic
      | none => finish (.escape (.run error))

end Job

/-- The text that explains the command. -/
def helpText : String :=
  "usage: xlang [options] input\n\nXlang Compiler\n\n" ++
    String.join (Flag.all.map fun flag => "  " ++ ", ".intercalate flag.words ++ "\n")

/-- All steps of the command for an input and options. -/
def perform (steps : Nat) (input : String) (options : Options) : Effect Unit := do
  let files := (← get).files
  let path := files.resolve input
  match files.file? path with
  | none => complain (.notFound input) 2
  | some content =>
    -- Options override what the file says, and the file overrides the defaults.
    let settings ← orEscape .settings (files.settings path.parent)
    let settings := applyOptions options settings
    let job : Job := ⟨options, String.ofList (unifyLineEnds content.toList), path.text⟩
    let tree ← job.parse
    -- The tree is written before the program is compiled, so also where it is refused.
    job.writeTree settings tree
    let session ← job.compile settings tree
    job.showCode session
    job.writeObject session
    job.runFunction steps session
    job.log "Compilation process finished."

/-- The command as a whole: what its arguments ask for, or what is wrong with them. -/
def fromArguments (steps : Nat) (arguments : List String) : Effect Unit :=
  match readArguments arguments with
  | .ok (input, options) => perform steps input options
  | .error .help => print helpText
  | .error (.usage error) => complain (.usage error) 2

/-- What a run of the command comes to. -/
structure Report where
  ending : Ending
  output : String
  complaints : List Complaint
  files : FileTree

/-- Runs the command on some files; running a function takes at most the given number of steps. -/
def run (steps : Nat) (files : FileTree) (arguments : List String) : Report :=
  let (result, console) := (fromArguments steps arguments).run.run ⟨[], [], files⟩
  let ending :=
    match result with
    | .ok _ => .status 0
    | .error ending => ending
  ⟨ending, String.join console.output, console.complaints, console.files⟩

end LoopLang.Command
