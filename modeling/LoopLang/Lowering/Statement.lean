import LoopLang.Lowering.Expression

/-! Lowering statements: the blocks of branches and loops, variables, functions, and what ends a
block. -/

namespace LoopLang

namespace Lowering

/-- Declares a variable of the current frame: its name must be new, and its value must have its
kind. -/
def declareVariable (name base : String) (kind : ValueKind) (value : Code.Operand)
    (place : Location) :
    Lowering Unit := do
  if (← currentFrame).has name then refuse (.alreadyDefined name) place
  let slot ← createSlot base kind
  storeVariable name kind slot value place
  declare name (.var kind.exact (some slot)) place

/--
The name that a declaration gives. What is no text is known by how it is displayed; a frame that is
open cannot take a list for a name.
-/
def declaredName : Tree → Lowering String
  | .text name => return name
  | .list items => do
    let _ ← currentFrame
    stop (.notAName (Tree.list items).typeName)
  | name => return name.shown

/-- The kind that an identifier carries, or that a function states for its result. -/
def carriedKind : Tree → Lowering Kind
  | .kindValue kind => return kind
  | _ => stop .notAKind

/-- A failure of inference breaks a rule of building. -/
def inferenceFault : InferenceError → Fault
  | .notANode => .notANode
  | .notAKind => .notAKind
  | .notAName found => .notAName found

/-- The kind that an initial value gives to its variable. -/
def inferKind (name : String) (value : Tree) : Lowering Kind := do
  match value.infer (← scopes) with
  | .ok kind =>
    note s!"inferred '{name}' as {kind.word}"
    return kind
  | .error error => stop (inferenceFault error)

/-- Lowers the declaration of a variable; a void one is bound to no slot. -/
def lowerDeclaration (place : Location) (name stated value : Tree) : Lowering Unit := do
  let stated ← carriedKind stated
  let kind ← if stated.isExact then pure stated else inferKind name.shown value
  if kind = .exact .void then
    -- A variable of no kind has no slot, but its value is still computed.
    let _ ← value.lowerExpression
    declare (← declaredName name) (.var .void none) place
  else
    let initial ← value.lowerValue
    match kind.definite?.bind ExactKind.value? with
    | some kind =>
      let name ← declaredName name
      declareVariable name name kind initial place
    | none => refuse (.cannotInfer name.shown) place

/-- Lowers the end of a function, whose result must have the kind that the function promises. -/
def lowerReturn (place : Location) (value : Tree) : Lowering Unit := do
  let (function, expected) ← enclosingFunction
  match value, expected.value? with
  | .null, none => terminate .returnVoid
  | .null, some _ => refuse (.resultMissing function.display expected) place
  -- A call without a result may stand behind the return of a function without one.
  | value, none =>
    match ← value.lowerExpression with
    | some found => refuse (.resultUnexpected function.display found.kind) place
    | none => terminate .returnVoid
  | value, some kind =>
    let result ← value.lowerValue
    if result.kind = kind then terminate (.returnValue result)
    else refuse (.resultKind function.display expected result.kind) place

/-- A condition as a truth value; a number holds unless it is zero or no number at all. -/
def lowerCondition (condition : Tree) : Lowering Code.Operand := do
  let value ← condition.lowerValue
  match value.kind with
  | .bool => return value
  | .num =>
    let register ← emit "cond" fun register => .differ register value (.number (.ofFloat 0.0))
    return .register register .bool

/-- Lowers a branch, whose arms are given as they lower themselves; emission goes on behind both. -/
def lowerChoice (condition : Tree) (consequent : Lowering Unit)
    (alternate : Option (Lowering Unit)) : Lowering Unit := do
  let suffix ← nextSuffix
  let value ← lowerCondition condition
  let thenBlock ← createBlock ("if_then" ++ suffix)
  match alternate with
  | some alternate =>
    let elseBlock ← createBlock ("if_else" ++ suffix)
    let mergeBlock ← createBlock ("if_merge" ++ suffix)
    terminate (.branch value thenBlock.label elseBlock.label)
    moveTo thenBlock
    consequent
    -- An arm that has ended by itself does not go on behind the branch.
    jumpUnlessTerminated mergeBlock
    moveTo elseBlock
    alternate
    jumpUnlessTerminated mergeBlock
    moveTo mergeBlock
  | none =>
    let mergeBlock ← createBlock ("if_merge" ++ suffix)
    terminate (.branch value thenBlock.label mergeBlock.label)
    moveTo thenBlock
    consequent
    jumpUnlessTerminated mergeBlock
    moveTo mergeBlock

/-- Lowers a loop, whose body is given as it lowers itself; its frame says where jumps within it
go. -/
def lowerLoop (condition : Tree) (label : Option String) (body : Lowering Unit) :
    Lowering Unit := do
  let suffix ← nextSuffix
  let conditionBlock ← createBlock ("loop_cond" ++ suffix)
  let bodyBlock ← createBlock ("loop_body" ++ suffix)
  let endBlock ← createBlock ("loop_end" ++ suffix)
  -- The condition is tested again in every round.
  terminate (.jump conditionBlock.label)
  moveTo conditionBlock
  let value ← lowerCondition condition
  terminate (.branch value bodyBlock.label endBlock.label)
  let options : FrameOptions :=
    { isLoop := true, nextRound := some conditionBlock, loopExit := some endBlock, label }
  -- Only within the body jumps find the loop.
  withFrame (some bodyBlock) options do
    body
    jumpUnlessTerminated conditionBlock
  moveTo endBlock

/-- The second arm of a branch as it lowers itself, if there is one. -/
def secondArm? (arm : Tree) (lowered : Lowering Unit) : Option (Lowering Unit) :=
  match arm with
  | .null => none
  | _ => some lowered

/-- The name of a label; an identifier without a name labels nothing. -/
def labelName? : Tree → Option String
  | .identifier _ .null _ => none
  | .identifier _ name _ => some name.shown
  | _ => none

/-- The block that a jump goes to. -/
def jumpTarget? (jump : Jump) (frame : Frame) : Option BlockRef :=
  match jump with
  | .break => frame.loopExit
  | .continue => frame.nextRound

/-- Lowers a jump to the end or the next round of an enclosing loop. -/
def lowerJump (jump : Jump) (place : Location) (label : Option String) : Lowering Unit := do
  let _ ← currentFrame
  match (← scopes).loopFrame? label with
  | none => refuse (.noLoop jump label) place
  | some frame =>
    match jumpTarget? jump frame with
    | some block => terminate (.jump block.label)
    | none => stop .noBlock

/-- The name of a parameter with its kind and its place. -/
structure TypedName where
  place : Location
  name : String
  kind : ValueKind
  deriving DecidableEq, Repr

/-- Checks one parameter. -/
def typedName (parameter : Tree) : Lowering TypedName :=
  match parameter with
  | .identifier place name kind => do
    let kind ← carriedKind kind
    match kind.definite?.bind ExactKind.value? with
    | some value => return ⟨place, ← declaredName name, value⟩
    | none => refuse (.parameterKind name.shown kind) place
  | _ => refuse .parameterNotIdentifier parameter.place

/-- Checks the parameters of a function. -/
def typedNames : Tree → Lowering (List TypedName)
  | .list parameters => parameters.mapM typedName
  | .text value => if value.isEmpty then return [] else refuse .parameterNotIdentifier .unknown
  | tree => stop (.notIterable tree.typeName)

/-- Stores each parameter in a slot of its own. -/
def storeParameters : List (String × ValueKind) → List TypedName → Lowering Unit
  | (register, _) :: registers, ⟨place, name, kind⟩ :: parameters => do
    declareVariable name ("argument." ++ name) kind (.register register kind) place
    storeParameters registers parameters
  | _, _ => return

/-- Ends a function where control falls off its end. -/
def closeFunction (result : ExactKind) : Lowering Unit := do
  unless ← isTerminated do
    match result with
    | .void => terminate .returnVoid
    | .num | .bool => terminate (.returnValue (Code.zeroOperand result))

/-- Lowers the parameters and the body of a function that exists already, in a frame of their
own. -/
def lowerFunctionBody (function : Code.Function) (parameters : List TypedName)
    (body : Lowering Unit) :
    Lowering Unit := do
  let entry ← addBlock function.name "entry"
  let options : FrameOptions :=
    { function := some function.name, isFunction := true, result := some (.exact function.result) }
  withFrame (some entry) options do
    storeParameters function.parameters parameters
    body
    closeFunction function.result

/-- Creates a function for checked parameters and a result. -/
def createTypedFunction (name : Code.Name) (parameters : List TypedName) (result : ExactKind) :
    Lowering Code.Function := do
  let wanted := parameters.map fun parameter => (parameter.name, parameter.kind)
  let function ← createFunction name wanted result
  note s!"function '{function.name.display}' : {function.typeText}"
  return function

/-- Checks that a function states the kind of its result. -/
def statedResult (name : String) (result : Tree) (place : Location) : Lowering ExactKind := do
  match ← carriedKind result with
  | .exact result => return result
  | .infer | .none => refuse (.noResultKind name) place

/--
Lowers a function declaration, whose body is given as it lowers itself. The name is declared in
front of the body, so that the function can call itself.
-/
def lowerFunction (place : Location) (name arguments result : Tree) (body : Lowering Unit) :
    Lowering Unit := do
  let parameters ← typedNames arguments
  let result ← statedResult name.shown result place
  let name ← declaredName name
  if (← currentFrame).has name then refuse (.functionAlreadyDefined name) place
  let function ← createTypedFunction (.text name) parameters result
  let kinds := parameters.map fun parameter => parameter.kind.exact
  declare name (.fn function.name (.exact result) kinds) place
  lowerFunctionBody function parameters body

/-- The name that a document gives; a plain value is taken as it is. -/
def readName (name : Document) : Lowering Code.Name :=
  match name with
  | .text name => return .text name
  | .null => return .value .null
  | .boolean value => return .value (.boolean value)
  | .integer value => return .value (.integer value)
  | .number value => return .value (.number value)
  | .moment value => return .value (.moment value)
  | .list _ | .object _ => stop (.notAName name.sortName)

/-- Lowers the function that a whole program becomes; its name is not declared. -/
def lowerEntry (name : Document) (body : Lowering Unit) : Lowering Code.Name := do
  let function ← createTypedFunction (← readName name) [] .void
  lowerFunctionBody function [] body
  return function.name

end Lowering

namespace Tree

open Lowering

mutual

/-- Lowers a statement. -/
def lowerStatement : Tree → Lowering Unit
  | functionDeclaration place id arguments body result =>
    match id, body with
    | identifier _ name _, blockStatement _ content =>
      lowerFunction place name arguments result (lowerBody content)
    -- The name is looked at before the body.
    | identifier .., _ => refuse .functionBodyNotBlock place
    | _, _ => refuse .functionNeedsIdentifier place
  | variableDeclaration place id value =>
    match id with
    | identifier _ name stated => lowerDeclaration place name stated value
    | _ => refuse .variableNeedsIdentifier place
  | blockStatement _ content => inBlock (lowerBody content)
  | returnStatement place value => lowerReturn place value
  | ifStatement _ condition consequent alternate =>
    lowerChoice condition (lowerArm consequent) (secondArm? alternate (lowerArm alternate))
  | loopStatement place condition body label =>
    match body with
    | blockStatement _ content => lowerLoop condition (labelName? label) (lowerBody content)
    | _ => refuse .loopBodyNotBlock place
  | breakStatement place label => lowerJump .break place (labelName? label)
  | continueStatement place label => lowerJump .continue place (labelName? label)
  | expressionStatement _ expression => do
    let _ ← lowerExpression expression
  | tree => refuse (.unsupportedStatement tree.typeName) tree.place
termination_by structural tree => tree

/-- Lowers an arm of a branch, which is a block or another branch, in a frame of its own. -/
def lowerArm : Tree → Lowering Unit
  | ifStatement _ condition consequent alternate =>
    inBlock (lowerChoice condition (lowerArm consequent)
      (secondArm? alternate (lowerArm alternate)))
  | blockStatement _ content => inBlock (lowerBody content)
  | tree => refuse (.notABlock tree.typeName) tree.place
termination_by structural tree => tree

/-- Lowers the contents of a block. -/
def lowerBody : Tree → Lowering Unit
  | list items => lowerStatements items
  | text value => do
    -- A text counts as the list of its characters, none of which is a statement.
    unless value.isEmpty do
      ensureOpen
      refuse (.unsupportedStatement (text value).typeName) .unknown
  | tree => stop (.notIterable tree.typeName)
termination_by structural tree => tree

/-- Lowers statements in order; what follows a terminator goes to a block that nothing jumps to. -/
def lowerStatements : List Tree → Lowering Unit
  | [] => return
  | statement :: rest => do
    ensureOpen
    lowerStatement statement
    lowerStatements rest
termination_by structural items => items

end

/-- Lowers a whole program to a function without parameters and result, and answers its name. -/
def lowerProgram (entry : Document) : Tree → Lowering Code.Name
  | program _ body => lowerEntry entry (lowerBody body)
  | tree => refuse (.notAProgram tree.typeName) tree.place

end Tree

end LoopLang
