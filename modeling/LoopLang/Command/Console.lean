import LoopLang.Command.Arguments
import LoopLang.Config.Search
import LoopLang.Diagnostic.Excerpt
import LoopLang.Session.Run

/-! What a run of the command leaves behind: what it prints, the files, and how it ends. -/

namespace LoopLang.Command

/-- What goes to the error output. -/
inductive Complaint
  | usage (error : UsageError)
  | notFound (name : String)
  | defective (defect : Code.Defect)
  deriving DecidableEq, Repr

/-- What is wrong with code that cannot be run. -/
def defectMessage : Code.Defect → String
  | .misnamed sort => misnamedMessage sort
  | .unterminatedBlock => "a block has no terminator"
  | .nullInName => "a name has a null character"
  | .reservedName => "a function has the name of a built-in one"
  | .longName => "a name is too long"

/-- A complaint as it is printed. -/
def Complaint.text : Complaint → String
  | .usage error => s!"xlang: error: {error.message}\n"
  | .notFound name => errorMark ++ s!"File '{name}' not found.\n"
  | .defective defect => errorMark ++ defectMessage defect ++ "\n"

/-- Failures that no message covers, for they are not about the program. -/
inductive Escape
  | settings (error : SettingsError)
  | start (error : StartError)
  | file (error : FileError)
  | lowering (fault : Fault)
  | misnamed (sort : String)
  | run (error : RunError)
  deriving DecidableEq, Repr

/-- What is wrong with settings that cannot be loaded. -/
def settingsMessage : SettingsError → String
  | .isADirectory => s!"{settingsFileName} is a directory"
  | .unreadable .malformed => s!"{settingsFileName} is malformed"
  | .unreadable _ => s!"{settingsFileName} cannot be read"

/-- A failure in words. -/
def Escape.message : Escape → String
  | .settings error => settingsMessage error
  | .start error => error.message?.getD "a setting is out of range"
  | .file error => error.message
  | .lowering fault => fault.message?.getD "the tree is malformed"
  | .misnamed sort => misnamedMessage sort
  | .run .outOfSteps => "the function takes too many steps"
  | .run error => error.message?.getD "the function cannot be run"

/-- How a run of the command ends. -/
inductive Ending
  | status (code : Nat)
  | escape (failure : Escape)
  deriving DecidableEq, Repr

/-- What a command has printed so far, and the files that it sees. -/
structure Console where
  output : List String
  complaints : List Complaint
  files : FileTree

/-- A step of a command, which may end it. -/
abbrev Effect := ExceptT Ending (StateM Console)

namespace Effect

/-- Ends the command. -/
def finish {α : Type} (ending : Ending) : Effect α := throw ending

/-- Prints a text. -/
def print (text : String) : Effect Unit :=
  modify fun console => { console with output := console.output ++ [text] }

/-- Prints a line. -/
def printLine (line : String) : Effect Unit := print (line ++ "\n")

/-- Prints a complaint and ends the command with a status. -/
def complain {α : Type} (complaint : Complaint) (status : Nat) : Effect α := do
  modify fun console => { console with complaints := console.complaints ++ [complaint] }
  finish (.status status)

/-- Goes on with a value, or ends the command with a failure. -/
def orEscape {ε α : Type} (wrap : ε → Escape) : Except ε α → Effect α
  | .ok value => return value
  | .error error => finish (.escape (wrap error))

/-- Ends the command over code that is not fit to run; only a misnamed function is a failure without
a message. -/
def refuse {α : Type} : Code.Defect → Effect α
  | .misnamed sort => finish (.escape (.misnamed sort))
  | defect => complain (.defective defect) 1

/-- Writes a file. -/
def write (name content : String) : Effect Unit := do
  let files ← orEscape .file ((← get).files.write name content)
  modify fun console => { console with files }

end Effect

end LoopLang.Command
