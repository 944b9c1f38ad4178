import LoopLang.Code.Text
import LoopLang.Diagnostic.Suggestion
import LoopLang.Lowering.Cause
import LoopLang.Scope.Stack

/-! The state in which code is built, and the few operations that change it. -/

namespace LoopLang

/-- Breaches of the rules of building, which no program that was parsed can cause. -/
inductive Fault
  | noFrame
  | noBlock
  | noEnclosingFunction
  | emptyStack
  | alreadyTerminated
  | notANode
  | notAKind
  | notIterable (found : String)
  | noLength (found : String)
  | notAName (found : String)
  deriving DecidableEq, Repr

/-- What is wrong with a value that should have a length. -/
def lengthMessage (sort : String) : String := s!"object of type '{sort}' has no len()"

/-- What is wrong, where there are words for it. -/
def Fault.message? : Fault → Option String
  | .notIterable found => some s!"'{found}' object is not iterable"
  | .noLength found => some (lengthMessage found)
  | .notAName found => some s!"unhashable type: '{found}'"
  | .emptyStack => some "pop() called on an empty scope stack"
  | .noFrame | .noBlock | .noEnclosingFunction | .alreadyTerminated | .notANode | .notAKind =>
    none

/-- Why lowering stops: the tree is refused at a place, or a rule of building is broken. -/
inductive Failure
  | refused (cause : Cause) (place : Location)
  | fault (fault : Fault)
  deriving DecidableEq, Repr

/-- Code under construction, the open frames, and the number that the next group of blocks gets. -/
structure Builder where
  code : Code.Module
  scopes : Scopes
  blockCount : Nat
  deriving DecidableEq, Repr

/-- A builder before its first program. -/
def Builder.empty : Builder := ⟨.empty, .empty, 0⟩

/-- A computation that builds code; what was built before a failure stays. -/
abbrev Lowering := ExceptT Failure (StateM Builder)

namespace Lowering

/-- Refuses a tree. -/
def refuse {α : Type} (cause : Cause) (place : Location) : Lowering α :=
  throw (.refused cause place)

/-- Stops where a rule of building is broken. -/
def stop {α : Type} (fault : Fault) : Lowering α := throw (.fault fault)

/-- The open frames. -/
def scopes : Lowering Scopes := return (← get).scopes

/-- The innermost frame. -/
def currentFrame : Lowering Frame := do
  match (← scopes).current? with
  | some frame => return frame
  | none => stop .noFrame

/-- The function that code is emitted into. -/
def currentFunction : Lowering Code.Name := do
  match (← scopes).function? with
  | some function => return function
  | none => stop .noEnclosingFunction

/-- The function whose body is being lowered, with the kind of its result. -/
def enclosingFunction : Lowering (Code.Name × ExactKind) := do
  match (← scopes).functionFrame? with
  | some ⟨_, _, some function, _, some (.exact result), _, _, _, _⟩ => return (function, result)
  | _ => stop .noEnclosingFunction

/-- The block that code is emitted into. -/
def cursor : Lowering BlockRef := do
  match (← scopes).cursor with
  | some block => return block
  | none => stop .noBlock

/-- Adds a debug line. -/
def note (line : String) : Lowering Unit :=
  modify fun builder => { builder with scopes := builder.scopes.note line }

/-- Emits an instruction under a fresh name made from the wanted one. -/
def emit (base : String) (make : String → Code.Instruction) : Lowering String := do
  let block ← cursor
  let builder ← get
  let (name, code) := builder.code.append block base make
  set { builder with code }
  return name

/-- Emits an instruction that prints without a name. -/
def emitUnnamed (instruction : Code.Instruction) : Lowering Unit := do
  -- The name made for it is not printed, but it is taken.
  let _ ← emit "" fun _ => instruction

/-- Whether the block that code is emitted into has its terminator. -/
def isTerminated : Lowering Bool := do
  let block ← cursor
  return (← get).code.isTerminated block

/-- Emits a terminator, of which a block has only one. -/
def terminate (instruction : Code.Instruction) : Lowering Unit := do
  if ← isTerminated then stop .alreadyTerminated
  emitUnnamed instruction

/-- Reserves a slot of the current function under a fresh name made from the wanted one. -/
def createSlot (base : String) (kind : ValueKind) : Lowering Slot := do
  let function ← currentFunction
  let builder ← get
  let (name, code) := builder.code.addSlot function base kind
  set { builder with code }
  return ⟨function, name⟩

/-- Appends an empty block to a function, under a fresh label made from the wanted one. -/
def addBlock (function : Code.Name) (base : String) : Lowering BlockRef := do
  let builder ← get
  let (label, code) := builder.code.addBlock function base
  set { builder with code }
  return ⟨function, label⟩

/-- Appends an empty block to the current function; emission stays where it is. -/
def createBlock (base : String) : Lowering BlockRef := do
  match (← scopes).function? with
  | some function => addBlock function base
  | none => refuse .noFunction .unknown

/-- Appends a function without blocks, under a fresh name made from the wanted one. -/
def createFunction (base : Code.Name) (parameters : List (String × ValueKind))
    (result : ExactKind) :
    Lowering Code.Function := do
  let builder ← get
  let (function, code) := builder.code.addFunction base parameters result
  set { builder with code }
  return function

/-- The ending of the names of a new group of blocks. -/
def nextSuffix : Lowering String := do
  let builder ← get
  set { builder with blockCount := builder.blockCount + 1 }
  return "." ++ toString builder.blockCount

/-- Continues with what an operation on the frames leaves. -/
def setScopes (place : Location) : Except ScopeError Scopes → Lowering Unit
  | .ok scopes => modify fun builder => { builder with scopes }
  | .error .noFrame => stop .noFrame
  | .error .emptyStack => stop .emptyStack
  -- Only a name that is taken is the fault of the tree.
  | .error (.duplicate name) => refuse (.alreadyDefined name) place

/-- Emits into another block of the current frame from now on. -/
def moveTo (block : BlockRef) : Lowering Unit := do
  setScopes .unknown ((← scopes).moveTo block)

/-- Declares a name in the current frame. -/
def declare (name : String) (binding : Binding) (place : Location) : Lowering Unit := do
  setScopes place ((← scopes).declare name binding)

/-- Opens a frame; where there is no block for it, the frame stays open nevertheless. -/
def openFrame (block : Option BlockRef) (options : FrameOptions) : Lowering Unit := do
  modify fun builder => { builder with scopes := builder.scopes.push block options }
  if (← scopes).isAdrift then stop .noBlock

/--
Closes the innermost frame behind a computation, whether that has succeeded or failed. Code cannot
go on in a frame without a block.
-/
def closeFrame {α : Type} (result : Except Failure α) (builder : Builder) :
    Except Failure α × Builder :=
  match builder.scopes.pop with
  | .ok scopes =>
    (if scopes.isAdrift then .error (.fault .noBlock) else result, { builder with scopes })
  | .error _ => (.error (.fault .emptyStack), builder)

/-- Runs a computation in the innermost frame, which is closed behind it in any case. -/
def closingFrame {α : Type} (body : Lowering α) : Lowering α := fun builder =>
  let (result, inner) := body.run.run builder
  closeFrame result inner

/-- Runs a computation within a new frame. The frame is closed again once it has been opened. -/
def withFrame {α : Type} (block : Option BlockRef) (options : FrameOptions) (body : Lowering α) :
    Lowering α := do
  openFrame block options
  closingFrame body

/-- Runs a computation within a new frame of the same function that emits where code is emitted
now. -/
def inBlock {α : Type} (body : Lowering α) : Lowering α := do
  withFrame (← scopes).cursor {} body

/-- Starts a block that nothing jumps to, if the current one has its terminator. -/
def ensureOpen : Lowering Unit := do
  if ← isTerminated then moveTo (← createBlock "unreachable")

/-- Jumps on, unless the current block has its terminator. -/
def jumpUnlessTerminated (block : BlockRef) : Lowering Unit := do
  unless ← isTerminated do terminate (.jump block.label)

end Lowering

end LoopLang
