import LoopLang.Scope.Basic

/-! The stack of open frames, which also says where code is emitted. -/

namespace LoopLang

/-- Why an operation on the open frames fails. -/
inductive ScopeError
  | noFrame
  | emptyStack
  | duplicate (name : String)
  deriving DecidableEq, Repr

/-- The open frames, innermost first, the block where code is emitted, and the debug lines so
far. -/
structure Scopes where
  frames : List Frame
  cursor : Option BlockRef
  log : List String
  deriving DecidableEq, Repr

namespace Scopes

/-- No frame is open. -/
def empty : Scopes := ⟨[], none, []⟩

/-- The number of open frames. -/
def depth (scopes : Scopes) : Nat := scopes.frames.length

/-- The innermost frame. -/
def current? (scopes : Scopes) : Option Frame := scopes.frames.head?

/-- Adds a debug line. -/
def note (scopes : Scopes) (line : String) : Scopes := { scopes with log := scopes.log ++ [line] }

/--
Opens a frame and emits into its block from now on. Without a block the frame is open all the same,
but the step is not finished.
-/
def push (scopes : Scopes) (block : Option BlockRef) (options : FrameOptions) : Scopes :=
  let frames := Frame.opened block options scopes.current? :: scopes.frames
  let opened := { scopes with frames, cursor := block }
  match block with
  | some block => opened.note s!"push scope #{frames.length} -> block '{block.label}'"
  | none => opened

/--
Closes the innermost frame. Code goes on in the frame around it: behind a nested block where that
block ended, behind a function where the outer code stood.
-/
def pop (scopes : Scopes) : Except ScopeError Scopes :=
  match scopes.frames with
  | [] => .error .emptyStack
  | [_] => .ok ({ scopes with frames := [] }.note "pop scope #1")
  | frame :: outer :: rest =>
    let resumed := if frame.isFunction then outer else { outer with block := frame.block }
    .ok ({ scopes with frames := resumed :: rest, cursor := resumed.block }.note
      s!"pop scope #{rest.length + 2}")

/-- Whether frames are open and code is emitted nowhere, so that the step that led here has
failed. -/
def isAdrift (scopes : Scopes) : Bool := !scopes.frames.isEmpty && scopes.cursor.isNone

/-- Emits into another block of the innermost frame from now on. -/
def moveTo (scopes : Scopes) (block : BlockRef) : Except ScopeError Scopes :=
  match scopes.frames with
  | [] => .error .noFrame
  | frame :: rest =>
    .ok { scopes with frames := { frame with block := some block } :: rest, cursor := some block }

/-- Declares a name in the innermost frame, where it must be new. -/
def declare (scopes : Scopes) (name : String) (binding : Binding) : Except ScopeError Scopes :=
  match scopes.frames with
  | [] => .error .noFrame
  | frame :: rest =>
    if frame.has name then .error (.duplicate name)
    else
      let extended := { frame with symbols := frame.symbols ++ [(name, binding)] }
      .ok ({ scopes with frames := extended :: rest }.note
        s!"declare '{name}' = {binding.display}")

/-- The binding of a name in the innermost frame that has one. -/
def lookup (scopes : Scopes) (name : String) : Option Binding :=
  scopes.frames.findSome? (·.find? name)

/-- Every name that is declared in some open frame, once each. -/
def visibleNames (scopes : Scopes) : List String :=
  (scopes.frames.flatMap Frame.names).eraseDups

/-- The function that code is emitted into. -/
def function? (scopes : Scopes) : Option Code.Name := scopes.current?.bind (·.function)

/-- The innermost function frame. -/
def functionFrame? (scopes : Scopes) : Option Frame := scopes.frames.find? (·.isFunction)

/-- The innermost loop frame that a jump may mean, not looking beyond the innermost function. -/
def loopFrameIn (label : Option String) : List Frame → Option Frame
  | [] => none
  | frame :: rest =>
    if frame.isTarget label then some frame
    else if frame.isFunction then none
    else loopFrameIn label rest

/-- The loop frame that a jump means. -/
def loopFrame? (scopes : Scopes) (label : Option String) : Option Frame :=
  loopFrameIn label scopes.frames

end Scopes

end LoopLang
