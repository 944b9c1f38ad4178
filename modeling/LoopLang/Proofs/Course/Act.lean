import LoopLang.Proofs.Lowering.Looks

/-!
The course of a computation: the acts of building that it consists of, one after the other. The
course of lowering has marks besides, one in front of each statement and one in front of the rest of
each block.
-/

namespace LoopLang

open Code (Instruction Name Operand)

/-- What building consists of: changes of the builder, and two marks that change nothing. -/
inductive Act
  | emit (base : String) (make : String → Instruction)
  | reserve (base : String) (kind : ValueKind)
  | addBlock (owner : Name) (base : String)
  | addFunction (base : Name) (parameters : List (String × ValueKind)) (result : ExactKind)
  | count
  | note (line : String)
  | moveTo (block : BlockRef)
  | declare (name : String) (binding : Binding)
  | push (block : Option BlockRef) (options : FrameOptions)
  | pop
  /-- A statement is next. -/
  | statement (tree : Tree)
  /-- The rest of a block is next, which is some statements. -/
  | statements (items : List Tree)

namespace Act

/-- The open frames behind an operation on them, which are left as they are where that fails. -/
def settle (builder : Builder) : Except ScopeError Scopes → Builder
  | .ok scopes => { builder with scopes }
  | .error _ => builder

/-- The builder behind an act; what has no place changes nothing. -/
def perform (builder : Builder) : Act → Builder
  -- Code goes to where the builder stands, and nowhere if it stands nowhere.
  | emit base make =>
    match builder.scopes.cursor with
    | some block => { builder with code := (builder.code.append block base make).2 }
    | none => builder
  | reserve base kind =>
    match builder.scopes.function? with
    | some owner => { builder with code := (builder.code.addSlot owner base kind).2 }
    | none => builder
  | addBlock owner base => { builder with code := (builder.code.addBlock owner base).2 }
  | addFunction base parameters result =>
    { builder with code := (builder.code.addFunction base parameters result).2 }
  | count => { builder with blockCount := builder.blockCount + 1 }
  | note line => { builder with scopes := builder.scopes.note line }
  -- Acts on the scopes may fail, and then they do nothing.
  | moveTo block => settle builder (builder.scopes.moveTo block)
  | declare name binding => settle builder (builder.scopes.declare name binding)
  | push block options => { builder with scopes := builder.scopes.push block options }
  | pop => settle builder builder.scopes.pop
  -- Marks between the acts, which say what is lowered next.
  | statement _ | statements _ => builder

/-- The builder behind some acts. -/
def performAll (builder : Builder) (acts : List Act) : Builder := acts.foldl perform builder

/-- Acts one behind the other are performed one behind the other. -/
theorem performAll_append (builder : Builder) (first second : List Act) :
    performAll builder (first ++ second) = performAll (performAll builder first) second :=
  List.foldl_append

end Act

namespace Lowering

variable {α β : Type} {action : Lowering α}

/-- A computation leaves the builder as it is. -/
def IsStill (action : Lowering α) : Prop := ∀ start, (action.outcome start).2 = start

namespace IsStill

/-- What only looks at the open frames is still. -/
theorem of_looks {answers : Scopes → α → Prop} {fails : Scopes → Failure → Prop}
    (looks : ∀ scopes, action.Looks scopes (answers scopes) (fails scopes)) : IsStill action := by
  intro start
  obtain ⟨result, same, -⟩ := looks start.scopes
  rw [same start rfl]

/-- An answer leaves the builder as it is. -/
theorem pure (answer : α) : IsStill (Pure.pure answer) := fun _ => rfl

/-- So does a refusal, which only stops. -/
theorem refuse (cause : Cause) (place : Location) :
    IsStill (α := α) (Lowering.refuse cause place) :=
  fun _ => rfl

/-- So does a fault. -/
theorem stop (fault : Fault) : IsStill (α := α) (Lowering.stop fault) := fun _ => rfl

/-- What is seen of a block is seen without changing it. -/
theorem isTerminated : IsStill Lowering.isTerminated := by
  intro start
  unfold Lowering.isTerminated
  rw [outcome_bind]
  obtain ⟨result, same, -⟩ := @Looks.cursor start.scopes
  rw [same start rfl]
  cases result <;> rfl

end IsStill

/-- The course of a computation: acts that lead from every start to where the computation ends. -/
structure Course {α : Type} (action : Lowering α) where
  acts : Builder → List Act
  reaches : ∀ start, Act.performAll start (acts start) = (action.outcome start).2

namespace Course

/-- What leaves the builder as it is has an empty course. -/
def still (stays : IsStill action) : Course action := ⟨fun _ => [], fun start => (stays start).symm⟩

/-- Computations that are the same take the same course. -/
def of_eq {other : Lowering α} (same : action = other) (course : Course action) : Course other :=
  ⟨course.acts, fun start => same ▸ course.reaches start⟩

/-- So has what only looks at the open frames. -/
def looking {answers : Scopes → α → Prop} {fails : Scopes → Failure → Prop}
    (looks : ∀ scopes, action.Looks scopes (answers scopes) (fails scopes)) : Course action :=
  still (.of_looks looks)

/-- A single act. -/
def single (act : Act) (performs : ∀ start, act.perform start = (action.outcome start).2) :
    Course action :=
  ⟨fun _ => [act], performs⟩

/-- A mark in front of a computation. -/
def marked (mark : Act) (silent : ∀ start, mark.perform start = start) (course : Course action) :
    Course action where
  acts := fun start => mark :: course.acts start
  reaches := fun start => by
    rw [Act.performAll, List.foldl_cons, silent]
    exact course.reaches start

/-- The second computation takes its course where the first one has succeeded. -/
def bind {next : α → Lowering β} (first : Course action) (second : ∀ answer, Course (next answer)) :
    Course (action >>= next) where
  acts := fun start => first.acts start ++
    match action.outcome start with
    | (.ok answer, middle) => (second answer).acts middle
    | (.error _, _) => []
  reaches := fun start => by
    -- The acts of the second computation are those it has where the first one has ended.
    rw [Act.performAll_append, first.reaches, outcome_bind]
    split <;> rename_i ended <;> rw [ended]
    · exact (second _).reaches _
    · rfl

/-- One of two computations takes its course. -/
def ite {condition : Prop} [decided : Decidable condition] {other : Lowering α}
    (first : Course action) (second : Course other) :
    Course (if condition then action else other) :=
  match decided with
  | isTrue _ => first
  | isFalse _ => second

/-- The frame is closed with the same operation whether or not the computation inside has failed. -/
theorem closeFrame_settles (result : Except Failure α) (builder : Builder) :
    (closeFrame result builder).2 = Act.settle builder builder.scopes.pop := by
  unfold closeFrame
  cases builder.scopes.pop <;> rfl

/-- A frame is opened in front of a computation and closed behind it. -/
def withFrame (block : BlockRef) (options : FrameOptions) (inside : Course action) :
    Course (Lowering.withFrame (some block) options action) where
  acts := fun start =>
    .push (some block) options ::
      (inside.acts { start with scopes := start.scopes.push (some block) options } ++ [.pop])
  reaches := fun start => by
    rw [withFrame_outcome, Act.performAll, List.foldl_cons]
    -- The first act opens the frame, the inner ones run in it, and the last one closes it.
    show Act.performAll { start with scopes := start.scopes.push (some block) options } _ = _
    rw [Act.performAll_append, inside.reaches]
    exact (closeFrame_settles _ _).symm

/-- Without a block for it a frame is opened only. -/
def stranded (options : FrameOptions) : Course (Lowering.withFrame none options action) :=
  single (.push none options) fun _ => rfl

/-! Single acts. -/

/-- A line of the debug output is noted. -/
def note (line : String) : Course (Lowering.note line) := single (.note line) fun _ => rfl

/-- An instruction is put at the end of the current block. -/
def emit (base : String) (make : String → Instruction) : Course (Lowering.emit base make) :=
  single (.emit base make) fun ⟨_, ⟨_, cursor, _⟩, _⟩ => by cases cursor <;> rfl

/-- A slot is reserved in the function around the current block. -/
def createSlot (base : String) (kind : ValueKind) : Course (Lowering.createSlot base kind) :=
  -- The slot belongs to the function of the innermost frame, if there is any.
  single (.reserve base kind) fun ⟨_, ⟨frames, _, _⟩, _⟩ => by
    rcases frames with _ | ⟨⟨_, _, function, _, _, _, _, _, _⟩, _⟩
    · rfl
    · cases function <;> rfl

/-- A block is added to a function, wherever code is emitted. -/
def addBlock (owner : Name) (base : String) : Course (Lowering.addBlock owner base) :=
  single (.addBlock owner base) fun _ => rfl

/-- A function is created, which has no blocks yet. -/
def createFunction (base : Name) (parameters : List (String × ValueKind)) (result : ExactKind) :
    Course (Lowering.createFunction base parameters result) :=
  single (.addFunction base parameters result) fun _ => rfl

/-- The counter of branches and loops goes on by one. -/
def nextSuffix : Course Lowering.nextSuffix := single .count fun _ => rfl

/-- What an operation on the frames leaves is the same, whatever is done about its failure. -/
theorem setScopes_outcome (place : Location) (result : Except ScopeError Scopes) (start : Builder) :
    ((setScopes place result).outcome start).2 = Act.settle start result := by
  rcases result with error | scopes
  · cases error <;> rfl
  · rfl

/-- Code is emitted in another block from then on. -/
def moveTo (block : BlockRef) : Course (Lowering.moveTo block) :=
  single (.moveTo block) fun start =>
    (setScopes_outcome .unknown (start.scopes.moveTo block) start).symm

/-- A name is declared in the innermost frame, unless the frame has it already. -/
def declare (name : String) (binding : Binding) (place : Location) :
    Course (Lowering.declare name binding place) :=
  single (.declare name binding) fun start =>
    (setScopes_outcome place (start.scopes.declare name binding) start).symm

/-! What is made of them: each computation takes its course as it is written. -/

/-- An instruction without a result is put at the end of the current block. -/
def emitUnnamed (instruction : Instruction) : Course (Lowering.emitUnnamed instruction) :=
  .bind (.emit "" fun _ => instruction) fun _ => .still (.pure _)

/-- The current block is ended, unless it is already. -/
def terminate (instruction : Instruction) : Course (Lowering.terminate instruction) :=
  .bind (.still .isTerminated) fun _ => .ite (.bind (.still (.stop _)) fun _ => .emitUnnamed _)
    (.emitUnnamed _)

/-- A block is added to the function around the current one. -/
def createBlock (base : String) : Course (Lowering.createBlock base) :=
  .bind (.still fun _ => rfl) fun scopes =>
    match scopes.function? with
    | some function => .addBlock function base
    | none => .still (.refuse _ _)

/-- What is in a block is done in a frame of its own, which is opened and closed around it. -/
def inBlock (inside : Course action) : Course (Lowering.inBlock action) :=
  .bind (.still fun _ => rfl) fun scopes =>
    match scopes.cursor with
    | some block => .withFrame block {} inside
    | none => .stranded {}

/-- Behind the end of a block another one is begun. -/
def ensureOpen : Course Lowering.ensureOpen :=
  .bind (.still .isTerminated) fun _ =>
    .ite (.bind (.createBlock "unreachable") fun block => .moveTo block) (.still (.pure _))

/-- A block that has no end yet ends with a jump. -/
def jumpUnlessTerminated (block : BlockRef) : Course (Lowering.jumpUnlessTerminated block) :=
  .bind (.still .isTerminated) fun _ => .ite (.still (.pure _)) (.terminate _)

/-- The slot of a variable is loaded, if the variable has one. -/
def loadVariable (name : String) (place : Location) : Course (Lowering.loadVariable name place) :=
  .bind (.looking fun _ => .resolveVariable name place) fun (kind, slot) =>
    .bind (.emit name fun register => .load register kind slot.name) fun _ => .still (.pure _)

/-- A value is stored in the slot of a variable. -/
def storeVariable (name : String) (kind : ValueKind) (slot : Slot) (value : Operand)
    (place : Location) :
    Course (Lowering.storeVariable name kind slot value place) :=
  .ite (.emitUnnamed _) (.still (.refuse _ _))

/-- A call has a name for its result, unless the function returns nothing. -/
def emitCall (callee : Callee) (arguments : List Operand) :
    Course (Lowering.emitCall callee arguments) := by
  delta Lowering.emitCall
  exact match callee.result.definite?.bind ExactKind.value? with
  | some kind =>
    .bind (.emit ("call_" ++ callee.name) fun register =>
      .call (some (register, kind)) callee.handle arguments) fun _ =>
        .still (.pure _)
  | none => .bind (.emitUnnamed (.call none callee.handle arguments)) fun _ => .still (.pure _)

/-- Each sign of arithmetic has its own instruction. -/
def emitArithmetic (sign : String) (left right : Operand) (place : Location) :
    Course (Lowering.emitArithmetic sign left right place) := by
  delta Lowering.emitArithmetic
  exact match operator? sign with
  | none => .still (.refuse _ _)
  | some (operator, base) =>
    .bind (.looking fun _ => .checkNumber sign left place) fun _ =>
      .bind (.looking fun _ => .checkNumber sign right place) fun _ =>
      .bind (.emit base fun register => .arithmetic register operator left right) fun _ =>
        .still (.pure _)

/-- A value that is asked for is computed first, and is refused if there is none. -/
def required {expression : Lowering (Option Operand)} (place : Location)
    (course : Course expression) :
    Course (Lowering.required place expression) :=
  .bind course fun answer =>
    match answer with
    | some _ => .still (.pure _)
    | none => .still (.refuse _ _)

end Course

end Lowering

namespace Tree

open Lowering

mutual

/-- The course of an expression. -/
def expressionCourse : (tree : Tree) → Course (lowerExpression tree)
  | numberLiteral _ _ | booleanLiteral _ _ => .still (.pure _)
  | identifier place name _ =>
    .bind (.looking fun _ => .usedName name) fun name =>
      .bind (.loadVariable name place) fun _ => .still (.pure _)
  | assignmentExpression place left right operator =>
    -- The target is looked up before the value is lowered, and stored to behind it.
    .bind (.looking fun _ => .resolveTarget place operator.shown left) fun (name, kind, slot) =>
      .bind (.required right.place (expressionCourse right)) fun value =>
        .bind (.storeVariable name kind slot value place) fun _ => .still (.pure _)
  | callExpression place callee arguments =>
    -- The callee comes before the arguments, which come before the call.
    .bind (.looking fun _ => .resolveCallee place callee) fun callee =>
      .bind (argumentsCourse callee place arguments) fun values => .emitCall callee values
  | binaryExpression place left right operator =>
    .bind (.required left.place (expressionCourse left)) fun first =>
      .bind (.required right.place (expressionCourse right)) fun second =>
        .bind (.looking fun _ => .usedSign operator) fun sign =>
          .bind (.emitArithmetic sign first second place) fun _ => .still (.pure _)
  -- No other node is an expression.
  | null | boolean _ | integer _ | real _ | text _ | kindValue _ | list _ | node .. | program ..
  | functionDeclaration .. | variableDeclaration ..
  | blockStatement .. | returnStatement .. | expressionStatement .. | ifStatement ..
  | loopStatement .. | breakStatement .. | continueStatement .. => .still (.refuse _ _)
termination_by structural tree => tree

/-- The arguments of a call are looked at after their number has been. -/
def argumentsCourse (callee : Callee) (place : Location) :
    (tree : Tree) → Course (lowerArguments callee place tree)
  | list items =>
    .bind (.looking fun _ => .checkCount _ _ _) fun _ =>
      itemsCourse callee.name 1 callee.parameters items
  -- The letters of a text are counted like arguments, but none of them can be lowered.
  | text _ =>
    .bind (.looking fun _ => .checkCount _ _ _) fun _ =>
      .ite (.still (.pure _)) (.still (.refuse _ _))
  | null | boolean _ | integer _ | real _ | kindValue _ | node .. | program ..
  | functionDeclaration .. | variableDeclaration ..
  | blockStatement .. | returnStatement .. | expressionStatement .. | ifStatement ..
  | loopStatement .. | breakStatement ..
  | continueStatement .. | numberLiteral .. | booleanLiteral .. | identifier ..
  | assignmentExpression .. | callExpression .. | binaryExpression .. => .still (.stop _)
termination_by structural tree => tree

/-- One argument after the other is computed and compared with its parameter. -/
def itemsCourse (callee : String) :
    (position : Nat) → (kinds : List ExactKind) → (items : List Tree) →
    Course (lowerItems callee position kinds items)
  | position, kind :: kinds, item :: rest =>
    .bind (.required item.place (expressionCourse item)) fun value =>
      .bind (.looking fun _ => .checkArgument callee position kind value item.place) fun _ =>
        .bind (itemsCourse callee (position + 1) kinds rest) fun _ => .still (.pure _)
  | _, [], [] | _, _ :: _, [] | _, [], _ :: _ => .still (.pure _)
termination_by structural _ _ items => items

end

end Tree

namespace Lowering

/-- What the end of a function does where nothing is given to be returned. -/
def returnNothing (place : Location) : Lowering Unit := do
  let (function, expected) ← enclosingFunction
  match expected.value? with
  | none => terminate .returnVoid
  | some _ => refuse (.resultMissing function.display expected) place

/-- What it does where a value is given to be returned. -/
def returnGiven (place : Location) (value : Tree) : Lowering Unit := do
  let (function, expected) ← enclosingFunction
  match expected.value? with
  | none =>
    match ← value.lowerExpression with
    | some found => refuse (.resultUnexpected function.display found.kind) place
    | none => terminate .returnVoid
  | some kind =>
    let result ← value.lowerValue
    if result.kind = kind then terminate (.returnValue result)
    else refuse (.resultKind function.display expected result.kind) place

/-- The end of a function is lowered in one of two ways, by what stands there. -/
theorem lowerReturn_null (place : Location) : lowerReturn place .null = returnNothing place := by
  unfold lowerReturn returnNothing
  congr 1
  funext ⟨function, expected⟩
  dsimp only
  cases expected.value? <;> rfl

/-- A return with a value is one of a value. -/
theorem lowerReturn_given (place : Location) {value : Tree} (given : value ≠ .null) :
    lowerReturn place value = returnGiven place value := by
  unfold lowerReturn returnGiven
  congr 1
  funext ⟨function, expected⟩
  -- Only a null is a missing value; all other trees take the second branch of the definition.
  cases value
  case null => contradiction
  all_goals
    dsimp only
    cases expected.value? <;> rfl

namespace Course

/-- A slot is reserved, the first value is stored, and then the name is declared. -/
def declareVariable (name base : String) (kind : ValueKind) (value : Operand) (place : Location) :
    Course (Lowering.declareVariable name base kind value place) :=
  .bind (.looking fun _ => .currentFrame) fun _ =>
    .ite (.bind (.still (.refuse _ _)) fun _ => .bind (.createSlot base kind) fun slot =>
        .bind (.storeVariable name kind slot value place) fun _ => .declare _ _ _)
      (.bind (.createSlot base kind) fun slot => .bind (.storeVariable name kind slot value place)
        fun _ => .declare _ _ _)

/-- The kind of a variable is inferred without any code, and a line is noted about it. -/
def inferKind (name : String) (value : Tree) : Course (Lowering.inferKind name value) :=
  .bind (.still fun _ => rfl) fun scopes =>
    match value.infer scopes with
    | .ok _ => .bind (.note _) fun _ => .still (.pure _)
    | .error _ => .still (.stop _)

/-- A variable of a known kind is declared behind the code of its value; one without a value has no
slot. -/
def declareAs (place : Location) (name value : Tree) (kind : Kind) :
    Course (Lowering.declareAs place name value kind) :=
  .ite (.bind value.expressionCourse fun _ => .bind (.looking fun _ => .declaredName name) fun _ =>
      .declare _ _ _)
    (.bind (.required value.place value.expressionCourse) fun initial =>
      match kind.definite?.bind ExactKind.value? with
      | some kind => .bind (.looking fun _ => .declaredName name) fun name =>
        .declareVariable name name kind initial place
      | none => .still (.refuse _ _))

/-- The kind that a declaration states is taken, or else the inferred one. -/
def lowerDeclaration (place : Location) (name stated value : Tree) :
    Course (Lowering.lowerDeclaration place name stated value) :=
  .of_eq (lowerDeclaration_eq place name stated value).symm (
    .bind (.looking fun _ => .carriedKind stated) fun stated =>
      .bind (.ite (.still (.pure stated)) (.inferKind name.shown value)) fun kind =>
        .declareAs place name value kind)

/-- A return without a value fits a function that promises none. -/
def returnNothing (place : Location) : Course (Lowering.returnNothing place) := by
  refine .bind (.looking fun _ => .enclosingFunction) fun (_, expected) => ?_
  dsimp only
  exact match expected.value? with
    | none => .terminate _
    | some _ => .still (.refuse _ _)

/-- A returned value is computed, compared with what the function promises, and returned. -/
def returnGiven (place : Location) (value : Tree) : Course (Lowering.returnGiven place value) := by
  refine .bind (.looking fun _ => .enclosingFunction) fun (_, expected) => ?_
  dsimp only
  -- In a void function a void value may be returned, so it is lowered before that is known.
  exact match expected.value? with
    | none =>
      .bind value.expressionCourse fun answer =>
        match answer with
        | some _ => .still (.refuse _ _)
        | none => .terminate _
    | some _ =>
      .bind (.required value.place value.expressionCourse) fun _ =>
        .ite (.terminate _) (.still (.refuse _ _))

/-- A return is one of the two. -/
def lowerReturn (place : Location) (value : Tree) : Course (Lowering.lowerReturn place value) := by
  -- Every tree but the missing one is a value that is given.
  cases value
  case null => exact .of_eq (lowerReturn_null place).symm (.returnNothing place)
  all_goals
    refine .of_eq (lowerReturn_given place ?_).symm (.returnGiven place _)
    nofun

/-- A condition is computed, and a number among them is compared with zero. -/
def lowerCondition (condition : Tree) : Course (Lowering.lowerCondition condition) :=
  .bind (.required condition.place condition.expressionCourse) fun value =>
    match value.kind with
    | .bool => .still (.pure _)
    | .num => .bind (.emit "cond" _) fun _ => .still (.pure _)

/-- A branch creates its blocks, ends the current one, and goes on in one arm and then in the
other. -/
def lowerChoice (condition : Tree) {consequent : Lowering Unit} (first : Course consequent) :
    {alternate : Option (Lowering Unit)} → (∀ second ∈ alternate, Course second) →
      Course (Lowering.lowerChoice condition consequent alternate)
  | some alternate, second =>
    .bind .nextSuffix fun suffix => .bind (.lowerCondition condition) fun _ =>
      .bind (.createBlock ("if_then" ++ suffix)) fun thenBlock =>
        .bind (.createBlock ("if_else" ++ suffix)) fun elseBlock =>
          .bind (.createBlock ("if_merge" ++ suffix)) fun mergeBlock =>
            .bind (.terminate _) fun _ =>
              .bind (.moveTo thenBlock) fun _ => .bind first fun _ =>
                .bind (.jumpUnlessTerminated mergeBlock) fun _ =>
                  .bind (.moveTo elseBlock) fun _ => .bind (second alternate rfl) fun _ =>
                    .bind (.jumpUnlessTerminated mergeBlock) fun _ => .moveTo mergeBlock
  -- Without a second arm the condition leads to the end directly.
  | none, _ =>
    .bind .nextSuffix fun suffix => .bind (.lowerCondition condition) fun _ =>
      .bind (.createBlock ("if_then" ++ suffix)) fun thenBlock =>
        .bind (.createBlock ("if_merge" ++ suffix)) fun mergeBlock =>
          .bind (.terminate _) fun _ => .bind (.moveTo thenBlock) fun _ => .bind first fun _ =>
            .bind (.jumpUnlessTerminated mergeBlock) fun _ => .moveTo mergeBlock

/-- A loop creates its three blocks and tests its condition in the first of them; the body stands in
a frame that knows where jumps go. -/
def lowerLoop (condition : Tree) (label : Option String) {body : Lowering Unit}
    (inside : Course body) :
    Course (Lowering.lowerLoop condition label body) :=
  .bind .nextSuffix fun suffix => .bind (.createBlock ("loop_cond" ++ suffix)) fun conditionBlock =>
    .bind (.createBlock ("loop_body" ++ suffix)) fun bodyBlock =>
      .bind (.createBlock ("loop_end" ++ suffix)) fun endBlock =>
        .bind (.terminate _) fun _ => .bind (.moveTo conditionBlock) fun _ =>
          .bind (.lowerCondition condition) fun _ =>
            .bind (.terminate _) fun _ =>
              -- The body has a frame of its own, which jumps find.
              .bind (.withFrame bodyBlock _
                (.bind inside fun _ => .jumpUnlessTerminated conditionBlock)) fun _ =>
                  .moveTo endBlock

/-- A jump ends the current block with a jump to one of the blocks of a loop. -/
def lowerJump (jump : Jump) (place : Location) (label : Option String) :
    Course (Lowering.lowerJump jump place label) :=
  .bind (.looking fun _ => .currentFrame) fun _ => .bind (.still fun _ => rfl) fun scopes =>
    -- The loop that is meant, if there is one, has both of the blocks.
    match scopes.loopFrame? label with
    | none => .still (.refuse _ _)
    | some frame => by
      dsimp only
      exact match jumpTarget? jump frame with
        | some _ => .terminate _
        | none => .still (.stop _)

/-- Each parameter is stored in a slot of its own, as a variable is. -/
def storeParameters : (registers : List (String × ValueKind)) → (parameters : List TypedName) →
    Course (Lowering.storeParameters registers parameters)
  | (register, _) :: registers, ⟨place, name, kind⟩ :: parameters =>
    .bind (.declareVariable name ("argument." ++ name) kind (.register register kind) place)
      fun _ =>
        storeParameters registers parameters
  | [], _ | _ :: _, [] => .still (.pure _)

/-- A function that returns nothing may end without a return, and gets one. -/
def closeFunction (result : ExactKind) : Course (Lowering.closeFunction result) :=
  .bind (.still .isTerminated) fun _ => .ite (.still (.pure _)) (
    match result with
    | .void => .terminate _
    | .num | .bool => .terminate _)

/-- The body of a function stands in a frame of the function, behind its parameters. -/
def lowerFunctionBody (function : Code.Function) (parameters : List TypedName)
    {body : Lowering Unit} (inside : Course body) :
    Course (Lowering.lowerFunctionBody function parameters body) :=
  .bind (.addBlock function.name "entry") fun entry => .withFrame entry _ (
    .bind (.storeParameters function.parameters parameters) fun _ => .bind inside fun _ =>
      .closeFunction function.result)

/-- A function is created with the kinds of its parameters, and a line is noted about it. -/
def createTypedFunction (name : Name) (parameters : List TypedName) (result : ExactKind) :
    Course (Lowering.createTypedFunction name parameters result) :=
  .bind (.createFunction _ _ _) fun _ => .bind (.note _) fun _ => .still (.pure _)

/-- A function is created and declared before its body is lowered. -/
def lowerFunction (place : Location) (name arguments result : Tree) {body : Lowering Unit}
    (inside : Course body) : Course (Lowering.lowerFunction place name arguments result body) :=
  .bind (.looking fun _ => .typedNames arguments) fun parameters =>
    .bind (.looking fun _ => .statedResult name.shown result place) fun result =>
    .bind (.looking fun _ => .declaredName name) fun name =>
    .bind (.looking fun _ => .currentFrame) fun _ =>
      -- A name that is taken is refused; the check stands in front of one and the same computation.
      have declared : Course (do
          let function ← Lowering.createTypedFunction (.text name) parameters result
          let kinds := parameters.map fun parameter => parameter.kind.exact
          Lowering.declare name (.fn function.name (.exact result) kinds) place
          Lowering.lowerFunctionBody function parameters body) :=
        .bind (.createTypedFunction _ _ _) fun function => .bind (.declare _ _ _) fun _ =>
          .lowerFunctionBody function parameters inside
      .ite (.bind (.still (.refuse _ _)) fun _ => declared) declared

/-- The function that a program becomes has no parameters, and is not declared anywhere. -/
def lowerEntry (name : Document) {body : Lowering Unit} (inside : Course body) :
    Course (Lowering.lowerEntry name body) :=
  .bind (.looking fun _ => .readName name) fun read => .bind (.createTypedFunction read [] .void)
    fun function =>
      .bind (.lowerFunctionBody function [] inside) fun _ => .still (.pure _)

end Course

end Lowering

namespace Tree

open Lowering

/-- A declaration without a name, or without a block for its body, is refused. -/
def functionCourse (place at_ : Location) (id arguments content result : Tree)
    (inside : Course (lowerBody content)) :
    Course (lowerStatement
      (functionDeclaration place id arguments (blockStatement at_ content) result)) := by
  cases id
  case identifier named name kind => exact .lowerFunction place name arguments result inside
  all_goals exact .still (.refuse _ _)

/-- A second arm takes its course, if there is one. -/
def secondCourse (arm : Tree) {lowered : Lowering Unit} (course : Course lowered) :
    ∀ second ∈ secondArm? arm lowered, Course second :=
  fun second stands =>
    have same : ∀ second ∈ secondArm? arm lowered, lowered = second := secondArm_forall rfl
    .of_eq (same second stands) course

mutual

/-- The course of a statement; what is no statement is refused at once. -/
def statementCourse : (tree : Tree) → Course (lowerStatement tree)
  | functionDeclaration place id arguments body result => by
    cases body
    case blockStatement at_ content =>
      exact functionCourse place at_ id arguments content result
        (bodyCourse content)
    -- What is no block cannot be a body.
    all_goals exact .still (by cases id <;> exact .refuse _ _)
  | variableDeclaration place id value => by
    cases id
    case identifier _ name stated => exact .lowerDeclaration place name stated value
    all_goals exact .still (.refuse _ _)
  | blockStatement _ content => .inBlock (bodyCourse content)
  | returnStatement place value => .lowerReturn place value
  | ifStatement _ condition consequent alternate =>
    .lowerChoice condition (armCourse consequent) (secondCourse alternate (armCourse alternate))
  | loopStatement place condition body label => by
    cases body
    case blockStatement _ content =>
      exact .lowerLoop condition (labelName? label)
        (bodyCourse content)
    all_goals exact .still (.refuse _ _)
  | breakStatement place label => .lowerJump .break place (labelName? label)
  | continueStatement place label => .lowerJump .continue place (labelName? label)
  | expressionStatement _ expression => .bind expression.expressionCourse fun _ => .still (.pure _)
  -- No other node is a statement.
  | null | boolean _ | integer _ | real _ | text _ | kindValue _ | list _ | node _ | program ..
  | callExpression .. | binaryExpression ..
  | assignmentExpression .. | identifier .. | numberLiteral ..
  | booleanLiteral .. => .still (.refuse _ _)
termination_by structural tree => tree

/-- The course of an arm, which has a frame of its own. -/
def armCourse : (tree : Tree) → Course (lowerArm tree)
  | ifStatement _ condition consequent alternate =>
    .inBlock (.lowerChoice condition (armCourse consequent)
      (secondCourse alternate (armCourse alternate)))
  | blockStatement _ content => .inBlock (bodyCourse content)
  | null | boolean _ | integer _ | real _ | text _ | kindValue _ | list _ | node _ | program ..
  | functionDeclaration ..
  | variableDeclaration .. | returnStatement .. | expressionStatement .. | loopStatement ..
  | breakStatement ..
  | continueStatement .. | callExpression .. | binaryExpression .. | assignmentExpression ..
  | identifier .. | numberLiteral .. | booleanLiteral .. => .still (.refuse _ _)
termination_by structural tree => tree

/-- The course of what a block consists of. -/
def bodyCourse : (tree : Tree) → Course (lowerBody tree)
  | list items => statementsCourse items
  | text _ => .ite (.still (.pure _)) (.bind .ensureOpen fun _ => .still (.refuse _ _))
  | null | boolean _ | integer _ | real _ | kindValue _ | node _ | program ..
  | functionDeclaration .. | variableDeclaration ..
  | blockStatement .. | returnStatement .. | expressionStatement .. | ifStatement ..
  | loopStatement .. | breakStatement ..
  | continueStatement .. | callExpression .. | binaryExpression .. | assignmentExpression ..
  | identifier .. | numberLiteral .. | booleanLiteral .. => .still (.stop _)
termination_by structural tree => tree

/-- The course of statements, with both marks in front of each of them. -/
def statementsCourse : (items : List Tree) → Course (lowerStatements items)
  | [] => .still (.pure _)
  | statement :: rest =>
    .marked (.statements (statement :: rest)) (fun _ => rfl) (.bind .ensureOpen fun _ =>
      .bind (.marked (.statement statement) (fun _ => rfl) (statementCourse statement)) fun _ =>
        statementsCourse rest)
termination_by structural items => items

end

/-- The course of a whole program. -/
def programCourse (entry : Document) : (tree : Tree) → Course (lowerProgram entry tree)
  | program _ body => .lowerEntry entry (bodyCourse body)
  | null | boolean _ | integer _ | real _ | text _ | kindValue _ | list _ | node _
  | functionDeclaration .. | variableDeclaration ..
  | blockStatement .. | returnStatement .. | expressionStatement .. | ifStatement ..
  | loopStatement .. | breakStatement ..
  | continueStatement .. | callExpression .. | binaryExpression .. | assignmentExpression ..
  | identifier .. | numberLiteral .. | booleanLiteral .. => .still (.refuse _ _)

end Tree

end LoopLang
