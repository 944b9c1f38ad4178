import LoopLang.Proofs.Layout.Moments
import LoopLang.Proofs.Lowering.Looks

/-! Lowering goes step by step, whatever the tree is and however it ends. -/

namespace LoopLang

open Code (Operand Instruction)

/-- An instruction that defines nothing can be made under any name. -/
theorem Code.Function.IsPlain.unnamed {instruction : Instruction}
    (reserved : instruction.reserved? = none) (result : instruction.result? = none) :
    IsPlain fun _ => instruction :=
  ⟨fun _ => reserved, fun _ => .inl (by simp [Instruction.defined?, reserved, result])⟩

/-- Whatever is at fault in a tree may be so anywhere. -/
theorem Failure.IsOfTree.arisesAt {failure : Failure} (odd : failure.IsOfTree) (moment : Builder) :
    failure.ArisesAt moment := by
  cases failure with
  | refused => exact odd.elim
  | fault => trivial

namespace Lowering

variable {α β : Type} {allowed : Placement → Prop} {action : Lowering α}

namespace Takes

/-! What changes nothing. -/

/-- A computation that only looks at the open frames may fail where it is. -/
theorem of_looks {answers : Scopes → α → Prop} {fails : Scopes → Failure → Prop}
    (looks : ∀ scopes, action.Looks scopes (answers scopes) (fails scopes))
    (arises : ∀ (start : Builder) failure, fails start.scopes failure → failure.ArisesAt start) :
    Takes allowed action := by
  intro start
  -- A look places nothing, whether it answers or fails.
  refine (looks start.scopes).ends.imp (fun _ finish held => ?_) fun failure finish held => ?_
  · rw [held.2]
    exact .refl start
  · obtain ⟨fails, rfl⟩ := held
    exact ⟨_, .refl _, .refl _, arises _ failure fails⟩

/-- Looking for the innermost frame places nothing. -/
theorem currentFrame : Takes allowed Lowering.currentFrame := by
  refine .of_looks (fun _ => .currentFrame) ?_
  rintro _ _ ⟨rfl, _⟩
  trivial

/-- Nor does looking for the function around it. -/
theorem enclosingFunction : Takes allowed Lowering.enclosingFunction := by
  refine .of_looks (fun _ => .enclosingFunction) ?_
  rintro _ _ rfl
  trivial

/-- Nor does looking for the current block. -/
theorem cursor : Takes allowed Lowering.cursor := by
  refine .of_looks (fun _ => .cursor) ?_
  rintro _ _ rfl
  trivial

/-- Nor does reading a name. -/
theorem usedName (name : Tree) : Takes allowed (Lowering.usedName name) :=
  .of_looks (fun _ => .usedName name) fun start _ held => held.1.arisesAt start

/-- Nor does reading the sign of an operation. -/
theorem usedSign (sign : Tree) : Takes allowed (Lowering.usedSign sign) :=
  .of_looks (fun _ => .usedSign sign) fun start _ held => held.1.arisesAt start

/-- Nor does reading a kind that a tree carries. -/
theorem carriedKind (kind : Tree) : Takes allowed (Lowering.carriedKind kind) :=
  .of_looks (fun _ => .carriedKind kind) fun start _ held => held.1.arisesAt start

/-- Nor does reading a name that is to be declared. -/
theorem declaredName (name : Tree) : Takes allowed (Lowering.declaredName name) := by
  refine .of_looks (fun _ => .declaredName name) ?_
  rintro start failure ⟨odd | ⟨rfl, _⟩, _⟩
  · exact odd.arisesAt start
  · trivial

/-- Nor does asking whether the current block has an end. -/
theorem isTerminated : Takes allowed Lowering.isTerminated :=
  .bind .cursor fun _ start => .refl start

/-- A computation that only looks at the builder may fail where it is. -/
theorem of_outcome {result : Builder → Except Failure α}
    (outcome : ∀ start, action.outcome start = (result start, start))
    (arises : ∀ start failure, result start = .error failure → failure.ArisesAt start) :
    Takes allowed action := by
  intro start
  unfold Ends
  rw [outcome start]
  -- The builder stays as it is in both cases.
  cases failed : result start with
  | ok answer => exact .refl start
  | error failure => exact ⟨start, .refl start, .refl start, arises start failure failed⟩

/-- A variable that is unknown is missed where it is looked up. -/
theorem resolveVariable (name : String) (place : Location) :
    Takes allowed (Lowering.resolveVariable name place) := by
  refine .of_outcome (resolveVariable_outcome name place) fun start failure failed => ?_
  have outcome := resolveVariable_outcome name place start
  rw [failed] at outcome
  cases named : start.scopes.variableNamed name with
  | ok found =>
    rw [named] at failed
    cases failed
  | error cause =>
    rw [named] at failed
    cases failed
    -- The failure names what has been looked up, at the place where it has been used.
    dsimp only [Failure.ArisesAt]
    split
    · obtain ⟨rfl, rfl⟩ := Scopes.variableNamed_lookedUp named ‹_›
      exact outcome
    · trivial

/-- So is a function, wherever the call stands that names it. -/
theorem resolveCallee (place : Location) (callee : Tree) :
    Takes allowed (Lowering.resolveCallee place callee) := by
  have texts (calleePlace : Location) (name : String) (kind : Tree) :
      Takes allowed (Lowering.resolveCallee place (.identifier calleePlace (.text name) kind)) := by
    refine .of_outcome (resolveCallee_outcome place calleePlace name kind)
      fun start failure failed => ?_
    cases named : start.scopes.functionNamed name with
    -- A function that is found is no failure.
    | ok found =>
      rw [named] at failed
      cases failed
    | error cause =>
      have outcome (call : Location) (kind : Tree) :=
        resolveCallee_outcome call calleePlace name kind start
      rw [named] at failed
      simp only [named] at outcome
      cases failed
      dsimp only [Failure.ArisesAt]
      -- A name that nothing is known by arises at the very lookup, and that of a variable as it
      -- stands.
      split
      · obtain ⟨rfl, rfl⟩ := Scopes.functionNamed_lookedUp named ‹_›
        exact outcome
      · trivial
  -- Whatever stands for the name, it is looked up as it is displayed.
  cases callee with
  | identifier calleePlace name kind =>
    exact .bind (.usedName name) fun name => texts calleePlace name kind
  | _ => exact .refuse fun _ => trivial

/-- The target of an assignment is looked up as a variable is. -/
theorem resolveTarget (place : Location) (operator : String) (target : Tree) :
    Takes allowed (Lowering.resolveTarget place operator target) := by
  unfold Lowering.resolveTarget
  split
  · dsimp only
    -- A wrong sign is refused before the target is looked at.
    split
    · exact .bind (.refuse fun _ => trivial) fun _ => .bind (.usedName _) fun _ =>
        .bind (.resolveVariable _ _) fun _ => .pure _
    · exact .bind (.usedName _) fun _ => .bind (.resolveVariable _ _) fun _ => .pure _
  · dsimp only
    split
    · exact .bind (.refuse fun _ => trivial) fun _ => .refuse fun _ => trivial
    · exact .refuse fun _ => trivial

/-- Counting arguments places nothing. -/
theorem checkCount (callee : Callee) (found : Nat) (place : Location) :
    Takes allowed (Lowering.checkCount callee found place) := by
  refine .of_looks (fun _ => .checkCount callee found place) ?_
  rintro _ _ ⟨_, rfl⟩
  trivial

/-- Nor does comparing an argument with its parameter. -/
theorem checkArgument (callee : String) (position : Nat) (expected : ExactKind) (value : Operand)
    (place : Location) :
    Takes allowed (Lowering.checkArgument callee position expected value place) := by
  refine .of_looks (fun _ => .checkArgument callee position expected value place) ?_
  rintro _ _ ⟨_, rfl⟩
  trivial

/-- Nor does asking whether an operand is a number. -/
theorem checkNumber (sign : String) (operand : Operand) (place : Location) :
    Takes allowed (Lowering.checkNumber sign operand place) := by
  refine .of_looks (fun _ => .checkNumber sign operand place) ?_
  rintro _ _ ⟨_, rfl⟩
  trivial

/-- A value that is asked for places what computing it does. -/
theorem required {expression : Lowering (Option Operand)} (place : Location)
    (takes : Takes allowed expression) :
    Takes allowed (Lowering.required place expression) := by
  refine .bind takes fun answer => ?_
  split
  · exact .pure _
  · exact .refuse fun _ => trivial

/-- No parameter is a name that is looked up. -/
theorem parameterFails_arisesAt {scopes : Scopes} {parameter : Tree} {failure : Failure}
    (fails : ParameterFails scopes parameter failure) (moment : Builder) :
    failure.ArisesAt moment := by
  -- Of these only what is wrong with the tree has a condition.
  rcases fails with ⟨rfl, _⟩ | odd | ⟨_, _, rfl⟩ | rfl
  · trivial
  · exact odd.arisesAt moment
  · trivial
  · trivial

/-- Reading parameters places nothing. -/
theorem typedNames (parameters : Tree) : Takes allowed (Lowering.typedNames parameters) := by
  refine .of_looks (fun _ => .typedNames parameters) ?_
  rintro start failure (odd | rfl | ⟨_, _, _, _, fails⟩)
  · exact odd.arisesAt start
  · trivial
  · exact parameterFails_arisesAt fails start

/-- Nor does reading the kind of a result. -/
theorem statedResult (name : String) (result : Tree) (place : Location) :
    Takes allowed (Lowering.statedResult name result place) := by
  refine .of_looks (fun _ => .statedResult name result place) ?_
  rintro start failure (odd | rfl)
  · exact odd.arisesAt start
  · trivial

/-! Steps that put nothing into the code. -/

/-- A line of the debug output places nothing. -/
theorem note (line : String) : Takes allowed (Lowering.note line) :=
  .single (fun _ => rfl) (fun start => .note start line) fun _ => List.forall_mem_nil _

/-- Nor does counting a branch. -/
theorem nextSuffix : Takes allowed Lowering.nextSuffix :=
  .single (fun _ => rfl) .count fun _ => List.forall_mem_nil _

/-- A new block is empty. -/
theorem addBlock (owner : Code.Name) (base : String) :
    Takes allowed (Lowering.addBlock owner base) :=
  .single (fun _ => rfl) (fun start => .addBlock start owner base) fun _ => List.forall_mem_nil _

/-- So is one that is added to the current function. -/
theorem createBlock (base : String) : Takes allowed (Lowering.createBlock base) := by
  refine .scopes fun scopes => ?_
  split
  · exact .addBlock _ _
  · exact .refuse fun _ => trivial

/-- Inferring a kind places nothing. -/
theorem inferKind (name : String) (value : Tree) :
    Takes allowed (Lowering.inferKind name value) := by
  refine .scopes fun scopes => ?_
  split
  · exact .bind (.note _) fun _ => .pure _
  · exact .stop _

/-- Nor does going on in another block. -/
theorem moveTo (block : BlockRef) : Takes allowed (Lowering.moveTo block) := by
  intro start
  show (Lowering.setScopes _ (start.scopes.moveTo block)).Ends start _ _
  cases moved : start.scopes.moveTo block with
  | ok scopes => exact .single (.moveTo moved) (List.forall_mem_nil _)
  | error failure => cases failure <;> exact ⟨start, .refl start, .refl start, trivial⟩

/-- Nor does declaring a name. -/
theorem declare (name : String) (binding : Binding) (place : Location) :
    Takes allowed (Lowering.declare name binding place) := by
  intro start
  show (Lowering.setScopes place (start.scopes.declare name binding)).Ends start _ _
  cases declared : start.scopes.declare name binding with
  | ok scopes => exact .single (.declare declared) (List.forall_mem_nil _)
  | error failure => cases failure <;> exact ⟨start, .refl start, .refl start, trivial⟩

/-- A frame is opened in front of a computation and closed behind it, whether it has succeeded or
failed. -/
theorem withFrame {body : Lowering α} (block : Option BlockRef) (options : FrameOptions)
    (takes : Takes allowed body) : Takes allowed (Lowering.withFrame block options body) := by
  intro start
  have opened : start.ComesTo allowed { start with scopes := start.scopes.push block options } :=
    .single (.push start block options) (List.forall_mem_nil _)
  cases block with
  -- Without a block the frame is opened, and the fault comes behind that step.
  | none =>
    unfold Ends
    rw [withFrame_nowhere]
    exact ⟨_, opened, .refl _, trivial⟩
  | some block =>
    have inside := takes { start with scopes := start.scopes.push (some block) options }
    unfold Ends at inside ⊢
    rw [withFrame_outcome]
    revert inside
    rcases body.outcome
      { start with scopes := start.scopes.push (some block) options } with ⟨result, inner⟩
    intro inside
    -- However it has ended, it has come so far, and to close the frame is one more step.
    have come : start.ComesTo allowed inner := by
      cases result with
      | ok answer => exact opened.trans inside
      | error failure =>
        obtain ⟨moment, before, behind, -⟩ := inside
        exact opened.trans (before.trans behind.comesTo)
    unfold closeFrame
    cases popped : inner.scopes.pop with
    -- A stack that is empty by then cannot be popped, which is a fault as well.
    | error failure => exact ⟨inner, come, .refl inner, trivial⟩
    | ok scopes =>
      have closed : inner.ComesTo allowed { inner with scopes } :=
        .single (.pop popped) (List.forall_mem_nil _)
      dsimp only
      cases scopes.isAdrift with
      -- So is a builder that has lost its block.
      | true => exact ⟨_, come.trans closed, .refl _, trivial⟩
      | false =>
        cases result with
        | ok answer => exact come.trans closed
        | error failure =>
          obtain ⟨moment, before, behind, arises⟩ := inside
          exact ⟨moment, opened.trans before, behind.pop popped, arises⟩

/-- A frame around something places nothing of its own. -/
theorem inBlock {body : Lowering α} (takes : Takes allowed body) :
    Takes allowed (Lowering.inBlock body) :=
  .scopes fun scopes => .withFrame scopes.cursor {} takes

/-- Beginning another block places nothing. -/
theorem ensureOpen : Takes allowed Lowering.ensureOpen := by
  refine .bind .isTerminated fun ended => ?_
  split
  · exact .bind (.createBlock _) fun block => .moveTo block
  · exact .pure _

/-! Steps that emit instructions. -/

/-- One instruction is emitted, under a name that is given to it. -/
theorem emit (base : String) {make : String → Instruction} (plain : Code.Function.IsPlain make)
    (emits : ∀ block name, allowed (.emitted block (make name))) :
    Takes allowed (Lowering.emit base make) := by
  intro start
  cases here : start.scopes.cursor with
  | none =>
    have outcome : (Lowering.emit base make).outcome start = (.error (.fault .noBlock), start) := by
      unfold Lowering.emit Lowering.cursor
      rw [bind_assoc, scopes_bind_outcome, here]
      rfl
    unfold Ends
    rw [outcome]
    exact ⟨start, .refl start, .refl start, trivial⟩
  | some block =>
    refine (emit_ends here).mpr (.single (.emit here base plain) fun placement member => ?_)
    -- If anything is put into the code, it is the instruction.
    unfold Code.Module.emission at member
    split at member
    · rw [List.mem_singleton.mp member]
      exact emits _ _
    · cases member

/-- One without a name is emitted as it is. -/
theorem emitUnnamed {instruction : Instruction}
    (plain : Code.Function.IsPlain fun _ => instruction)
    (emits : ∀ block, allowed (.emitted block instruction)) :
    Takes allowed (Lowering.emitUnnamed instruction) :=
  .bind (.emit _ plain fun block _ => emits block) fun _ => .pure _

/-- So is one that ends a block, if the block has no end yet. -/
theorem terminate {instruction : Instruction} (plain : Code.Function.IsPlain fun _ => instruction)
    (emits : ∀ block, allowed (.emitted block instruction)) :
    Takes allowed (Lowering.terminate instruction) := by
  refine .bind .isTerminated fun ended => ?_
  split
  · exact .bind (.stop _) fun _ => .emitUnnamed plain emits
  · exact .emitUnnamed plain emits

section Calm

variable (emits : ∀ block (instruction : Instruction),
  instruction.callee? = none → allowed (.emitted block instruction))

include emits

/-- A jump at the end of a block is an emission. -/
theorem jumpUnlessTerminated (block : BlockRef) :
    Takes allowed (Lowering.jumpUnlessTerminated block) := by
  refine .bind .isTerminated fun ended => ?_
  split
  · exact .pure _
  · exact .terminate (.unnamed rfl rfl) fun _ => emits _ _ rfl

/-- A variable is loaded by an emission. -/
theorem loadVariable (name : String) (place : Location) :
    Takes allowed (Lowering.loadVariable name place) :=
  .bind (.resolveVariable name place) fun _ =>
    .bind (.emit _ ⟨fun _ => rfl, fun _ => .inr rfl⟩ fun _ _ => emits _ _ rfl) fun _ => .pure _

/-- A value is stored by an emission, too. -/
theorem storeVariable (name : String) (kind : ValueKind) (slot : Slot) (value : Operand)
    (place : Location) :
    Takes allowed (Lowering.storeVariable name kind slot value place) := by
  unfold Lowering.storeVariable
  split
  · exact .emitUnnamed (.unnamed rfl rfl) fun _ => emits _ _ rfl
  · exact .refuse fun _ => trivial

/-- Arithmetic is emitted, whatever its sign. -/
theorem emitArithmetic (sign : String) (left right : Operand) (place : Location) :
    Takes allowed (Lowering.emitArithmetic sign left right place) := by
  unfold Lowering.emitArithmetic
  split
  · exact .refuse fun _ => trivial
  · exact .bind (.checkNumber _ _ _) fun _ => .bind (.checkNumber _ _ _) fun _ =>
      .bind (.emit _ ⟨fun _ => rfl, fun _ => .inr rfl⟩ fun _ _ => emits _ _ rfl) fun _ => .pure _

/-- A jump out of a loop or to its next round is emitted. -/
theorem jump (jump : Jump) (place : Location) (label : Option String) :
    Takes allowed (lowerJump jump place label) := by
  refine .bind .currentFrame fun _ => .scopes fun scopes => ?_
  split
  · exact .refuse fun _ => trivial
  · split
    · exact .terminate (.unnamed rfl rfl) fun _ => emits _ _ rfl
    · exact .stop _

/-- So is the return that a function gets at its end. -/
theorem closeFunction (result : ExactKind) : Takes allowed (Lowering.closeFunction result) := by
  refine .bind .isTerminated fun ended => ?_
  split
  · exact .pure _
  · split <;> exact .terminate (.unnamed rfl rfl) fun _ => emits _ _ rfl

end Calm

section Emission

variable (emits : ∀ block instruction, allowed (.emitted block instruction))

include emits

/-- Where everything may be emitted, what is no call may be. -/
theorem calm (block : BlockRef) (instruction : Instruction) (_ : instruction.callee? = none) :
    allowed (.emitted block instruction) := emits block instruction

/-- So is a call. -/
theorem emitCall (callee : Callee) (arguments : List Operand) :
    Takes allowed (Lowering.emitCall callee arguments) := by
  unfold Lowering.emitCall
  split
  · exact .bind (.emit _ ⟨fun _ => rfl, fun _ => .inr rfl⟩ fun _ _ => emits _ _) fun _ => .pure _
  · exact .bind (.emitUnnamed (.unnamed rfl rfl) fun _ => emits _ _) fun _ => .pure _

/-- Lowering any tree as an expression emits instructions and does nothing else to the code. -/
theorem expression_all :
    (∀ tree : Tree, Takes allowed tree.lowerExpression) ∧
    (∀ callee place (tree : Tree), Takes allowed (tree.lowerArguments callee place)) ∧
    (∀ callee position kinds items,
      Takes allowed (Tree.lowerItems callee position kinds items)) := by
  -- By the recursion of lowering: each step of a case takes, and so does their sequence.
  refine Tree.lowerExpression.mutual_induct
    (fun tree => Takes allowed tree.lowerExpression)
    (fun callee place tree => Takes allowed (tree.lowerArguments callee place))
    (fun callee position kinds items => Takes allowed (Tree.lowerItems callee position kinds items))
    ?number ?boolean ?identifier ?assignment ?call ?binary ?other ?list ?text ?noList ?item
    ?nil ?noKinds
  case number => exact fun _ _ => .pure _
  case boolean => exact fun _ _ => .pure _
  case identifier =>
    intro place name kind
    exact .bind (.usedName name) fun name => .bind (.loadVariable (calm emits) name place)
      fun _ => .pure _
  case assignment =>
    intro place left right operator value_takes
    exact .bind (.resolveTarget _ _ _) fun _ => .bind (.required _ value_takes) fun _ =>
      .bind (.storeVariable (calm emits) _ _ _ _ _) fun _ => .pure _
  case call =>
    intro place callee arguments arguments_take
    exact .bind (.resolveCallee _ _) fun callee => .bind (arguments_take callee) fun _ =>
      .emitCall emits _ _
  case binary =>
    intro place left right operator left_takes right_takes
    exact .bind (.required _ left_takes) fun _ => .bind (.required _ right_takes) fun _ =>
      .bind (.usedSign _) fun _ =>
        .bind (.emitArithmetic (calm emits) _ _ _ _) fun _ => .pure _
  -- All other nodes are refused as they stand.
  case other =>
    intro tree _ _ _ _ _ _
    rw [Tree.lowerExpression] <;> first | assumption | exact .refuse fun _ => trivial
  -- Arguments are counted before the first of them is lowered.
  case list => exact fun _ _ _ items_take => .bind (.checkCount _ _ _) fun _ => items_take
  -- The letters of a text are counted as arguments.
  case text =>
    intro callee place value
    refine .bind (.checkCount _ _ _) fun _ => ?_
    split
    · exact .pure _
    · exact .refuse fun _ => trivial
  case noList =>
    intro callee place tree _ _
    rw [Tree.lowerArguments] <;> first | assumption | exact .stop _
  case item =>
    intro callee position kind kinds item rest item_takes rest_takes
    exact .bind (.required _ item_takes) fun _ => .bind (.checkArgument _ _ _ _ _) fun _ =>
      .bind rest_takes fun _ => .pure _
  case nil =>
    intro callee position kinds
    rw [Tree.lowerItems]
    exact .pure _
  -- More items than kinds have been refused by the count.
  case noKinds =>
    intro items callee position some_items
    rw [Tree.lowerItems]
    · exact .pure _
    · exact some_items

/-- An expression places nothing but emissions. -/
theorem expression (tree : Tree) : Takes allowed tree.lowerExpression :=
  (expression_all emits).1 tree

/-- Nor does an expression whose value is asked for. -/
theorem value (tree : Tree) : Takes allowed tree.lowerValue := .required _ (.expression emits tree)

/-- Nor does a condition, with the comparison that may stand behind it. -/
theorem condition (condition : Tree) : Takes allowed (lowerCondition condition) := by
  refine .bind (.value emits condition) fun value => ?_
  split
  · exact .pure _
  · exact .bind (.emit _ ⟨fun _ => rfl, fun _ => .inr rfl⟩ fun _ _ => emits _ _) fun _ => .pure _

/-- Nor does a return. -/
theorem ending (place : Location) (value : Tree) : Takes allowed (lowerReturn place value) := by
  refine .bind .enclosingFunction fun (function, expected) => ?_
  dsimp only
  -- A value is lowered before it is compared with the result of the function.
  split
  · exact .terminate (.unnamed rfl rfl) fun _ => emits _ _
  · exact .refuse fun _ => trivial
  · refine .bind (.expression emits _) fun answer => ?_
    split
    · exact .refuse fun _ => trivial
    · exact .terminate (.unnamed rfl rfl) fun _ => emits _ _
  · refine .bind (.value emits _) fun result => ?_
    split
    · exact .terminate (.unnamed rfl rfl) fun _ => emits _ _
    · exact .refuse fun _ => trivial

/-- A branch takes the steps of its arms. -/
theorem choice {condition : Tree} {consequent : Lowering Unit} {alternate : Option (Lowering Unit)}
    (first : Takes allowed consequent) (second : ∀ arm ∈ alternate, Takes allowed arm) :
    Takes allowed (lowerChoice condition consequent alternate) := by
  refine .bind .nextSuffix fun _ => .bind (.condition emits _) fun _ => .bind (.createBlock _)
    fun _ => ?_
  split
  · refine .bind (.createBlock _) fun _ => .bind (.createBlock _) fun _ => ?_
    refine .bind (.terminate (.unnamed rfl rfl) fun _ => emits _ _) fun _ => ?_
    refine .bind (.moveTo _) fun _ => .bind first fun _ => ?_
    refine .bind (.jumpUnlessTerminated (calm emits) _) fun _ => .bind (.moveTo _) fun _ => ?_
    refine .bind (second _ rfl) fun _ => .bind (.jumpUnlessTerminated (calm emits) _) fun _ => ?_
    exact .moveTo _
  · refine .bind (.createBlock _) fun _ => ?_
    refine .bind (.terminate (.unnamed rfl rfl) fun _ => emits _ _) fun _ => ?_
    refine .bind (.moveTo _) fun _ => .bind first fun _ => ?_
    exact .bind (.jumpUnlessTerminated (calm emits) _) fun _ => .moveTo _

/-- A loop takes the steps of its body. -/
theorem loop {condition : Tree} {label : Option String} {body : Lowering Unit}
    (inside : Takes allowed body) :
    Takes allowed (lowerLoop condition label body) := by
  refine .bind .nextSuffix fun _ => .bind (.createBlock _) fun _ => .bind (.createBlock _) fun _ =>
    .bind (.createBlock _) fun _ => ?_
  refine .bind (.terminate (.unnamed rfl rfl) fun _ => emits _ _) fun _ =>
    .bind (.moveTo _) fun _ => .bind (.condition emits _) fun _ => ?_
  refine .bind (.terminate (.unnamed rfl rfl) fun _ => emits _ _) fun _ => ?_
  -- The test of the condition comes first, then the body in a frame of its own.
  refine .bind (.withFrame _ _ (.bind inside fun _ => ?_)) fun _ => .moveTo _
  exact .jumpUnlessTerminated (calm emits) _

end Emission

/-! Steps that reserve slots and create functions. -/

/-- A slot is reserved in the function around the current block. -/
theorem createSlot (base : String) (kind : ValueKind)
    (reserves : ∀ owner slot, allowed (.reserved owner slot kind)) :
    Takes allowed (Lowering.createSlot base kind) := by
  intro start
  cases here : start.scopes.function? with
  | none =>
    have outcome : (Lowering.createSlot base kind).outcome start =
        (.error (.fault .noEnclosingFunction), start) := by
      unfold Lowering.createSlot Lowering.currentFunction
      rw [bind_assoc, scopes_bind_outcome, here]
      rfl
    unfold Ends
    rw [outcome]
    exact ⟨start, .refl start, .refl start, trivial⟩
  | some owner =>
    refine (createSlot_ends here).mpr (.single (.reserve here base kind) fun placement member => ?_)
    -- If there is a block to put the slot in, it is reserved.
    unfold Code.Module.reservation at member
    split at member
    · rw [List.mem_singleton.mp member]
      exact reserves _ _
    · cases member

/-- A function is created under a name that is given to it. -/
theorem createFunction (base : Code.Name) (parameters : List (String × ValueKind))
    (result : ExactKind)
    (creates : ∀ names : Code.Names, allowed (.created (names.registerName base).1)) :
    Takes allowed (Lowering.createFunction base parameters result) := by
  refine .single (fun _ => rfl) (fun start => .addFunction start base parameters result)
    fun start _ member => ?_
  -- There is one placement: the function under a fresh name.
  rw [List.mem_singleton.mp member]
  exact creates start.code.names

/-- So is one with the kinds of its parameters. -/
theorem createTypedFunction (name : Code.Name) (parameters : List TypedName) (result : ExactKind)
    (creates : ∀ names : Code.Names, allowed (.created (names.registerName name).1)) :
    Takes allowed (Lowering.createTypedFunction name parameters result) :=
  .bind (.createFunction _ _ _ creates) fun _ => .bind (.note _) fun _ => .pure _

section Admission

variable (admits : Placement.Admits allowed)

include admits

/-- Where texts are admitted as names, so is whatever is registered for one. -/
theorem creates_text (name : String) (names : Code.Names) :
    allowed (.created (names.registerName (.text name)).1) := by
  rw [names.registerName_text]
  exact admits.text _

/-- A variable reserves its slot and stores in it. -/
theorem declareVariable (name base : String) (kind : ValueKind) (value : Operand)
    (place : Location) :
    Takes allowed (Lowering.declareVariable name base kind value place) := by
  have stores : Takes allowed (do
      let slot ← Lowering.createSlot base kind
      Lowering.storeVariable name kind slot value place
      Lowering.declare name (.var kind.exact (some slot)) place) :=
    .bind (.createSlot _ _ fun _ _ => admits.reserved _ _ _) fun slot =>
      .bind (.storeVariable (calm admits.emitted) _ _ _ _ _) fun _ => .declare _ _ _
  refine .bind .currentFrame fun frame => ?_
  dsimp only
  -- A name that is taken is refused before a slot is made for it.
  split
  · exact .bind (.refuse fun _ => trivial) fun _ => stores
  · exact stores

/-- Parameters do, one after the other. -/
theorem storeParameters : ∀ (registers : List (String × ValueKind)) (parameters : List TypedName),
    Takes allowed (Lowering.storeParameters registers parameters)
  | (register, _) :: registers, ⟨place, name, kind⟩ :: parameters =>
    .bind (.declareVariable admits _ _ _ _ _) fun _ => storeParameters registers parameters
  | [], _ => by simpa only [Lowering.storeParameters] using Takes.pure _
  | _ :: _, [] => by simpa only [Lowering.storeParameters] using Takes.pure _

/-- A declaration computes its value and reserves a slot for it. -/
theorem declaration (place : Location) (name stated value : Tree) :
    Takes allowed (lowerDeclaration place name stated value) := by
  rw [lowerDeclaration_eq]
  refine .bind (.carriedKind stated) fun stated => .bind ?_ fun kind => ?_
  -- The kind is stated, or inferred without any code.
  · split
    · exact .pure _
    · exact .inferKind _ _
  · unfold declareAs
    split
    · exact .bind (.expression admits.emitted value) fun _ => .bind (.declaredName name) fun _ =>
        .declare _ _ _
    · refine .bind (.value admits.emitted value) fun initial => ?_
      split
      · exact .bind (.declaredName name) fun _ => .declareVariable admits _ _ _ _ _
      · exact .refuse fun _ => trivial

/-- The body of a function places what it does by itself, and what its parameters do. -/
theorem functionBody {body : Lowering Unit} (function : Code.Function)
    (parameters : List TypedName) (inside : Takes allowed body) :
    Takes allowed (Lowering.lowerFunctionBody function parameters body) :=
  .bind (.addBlock _ _) fun _ => .withFrame _ _ (.bind (.storeParameters admits _ _) fun _ =>
    .bind inside fun _ => .closeFunction (calm admits.emitted) _)

/-- A function places itself first, and then its body. -/
theorem function {body : Lowering Unit} (place : Location) (name arguments result : Tree)
    (inside : Takes allowed body) :
    Takes allowed (lowerFunction place name arguments result body) := by
  refine .bind (.typedNames _) fun parameters => .bind (.statedResult _ _ _) fun exact => ?_
  refine .bind (.declaredName name) fun name => .bind .currentFrame fun frame => ?_
  -- The function is created and declared before its body is lowered.
  have rest : Takes allowed (do
      let function ← Lowering.createTypedFunction (.text name) parameters exact
      Lowering.declare name
        (.fn function.name (.exact exact) (parameters.map fun parameter => parameter.kind.exact))
        place
      lowerFunctionBody function parameters body) :=
    .bind (.createTypedFunction _ _ _ (creates_text admits name)) fun function =>
      .bind (.declare _ _ _) fun _ =>
        .functionBody admits function parameters inside
  dsimp only
  split
  · exact .bind (.refuse fun _ => trivial) fun _ => rest
  · exact rest

/-- The function that a program becomes has the name that is read for it, if there is one. -/
theorem entry {body : Lowering Unit} (name : Document)
    (creates : ∀ read, Lowering.readName name = Pure.pure read →
      ∀ names : Code.Names, allowed (.created (names.registerName read).1))
    (inside : Takes allowed body) : Takes allowed (lowerEntry name body) := by
  have rest (read : Code.Name) (named : Lowering.readName name = Pure.pure read) : Takes allowed
      (lowerEntry name body) := by
    unfold lowerEntry
    rw [named, pure_bind]
    exact .bind (.createTypedFunction _ _ _ (creates read named)) fun function =>
      .bind (.functionBody admits function [] inside) fun _ => .pure _
  cases name with
  -- A list or a table is no name, and nothing follows.
  | list _ | object _ => exact fun start => ⟨start, .refl start, .refl start, trivial⟩
  | _ => exact rest _ rfl

end Admission

end Takes

end Lowering

namespace Tree

open Lowering

section Admission

variable {allowed : Placement → Prop} (admits : Placement.Admits allowed)

include admits

/-- Lowering any tree, as a statement or as a part of one, goes step by step, and names functions by
texts. -/
theorem lower_takes_all :
    (∀ tree, Takes allowed (lowerStatement tree)) ∧ (∀ tree, Takes allowed (lowerArm tree)) ∧
    (∀ tree, Takes allowed (lowerBody tree)) ∧ ∀ items, Takes allowed (lowerStatements items) := by
  have emits := admits.emitted
  -- By the recursion of lowering, with the lemma of each construct in its own case.
  refine lowerStatement.mutual_induct (fun tree => Takes allowed (lowerStatement tree))
    (fun tree => Takes allowed (lowerArm tree)) (fun tree => Takes allowed (lowerBody tree))
    (fun items => Takes allowed (lowerStatements items))
    ?functionDeclaration ?noFunctionBody ?noFunctionName ?variableDeclaration ?noVariableName
    ?blockStatement
    ?returnStatement ?ifStatement ?loopStatement ?noLoopBody ?breakStatement ?continueStatement
    ?expressionStatement ?other ?armIf ?armBlock ?noArm ?list ?emptyText ?text ?noList ?nil ?cons
  case functionDeclaration =>
    exact fun place arguments result _ name _ _ content inside =>
      .function admits _ _ _ _ inside
  -- Nodes of a wrong shape are refused as they stand.
  case noFunctionBody =>
    intro place arguments body result _ name _ noBlock
    rw [lowerStatement] <;> first | assumption | exact .refuse fun _ => trivial
  case noFunctionName =>
    intro place named arguments body result noName _
    rw [lowerStatement] <;> first | assumption | exact .refuse fun _ => trivial
  case variableDeclaration =>
    exact fun place value _ name stated =>
      .declaration admits place name stated value
  case noVariableName =>
    intro place named value noName
    rw [lowerStatement] <;> first | assumption | exact .refuse fun _ => trivial
  case blockStatement => exact fun place content inside => .inBlock inside
  case returnStatement => exact fun place value => .ending emits place value
  case ifStatement =>
    exact fun place condition consequent alternate first second =>
      .choice emits first (secondArm_forall second)
  case loopStatement => exact fun place condition label _ content inside => .loop emits inside
  case noLoopBody =>
    intro place condition body label noBlock
    rw [lowerStatement] <;> first | assumption | exact .refuse fun _ => trivial
  case breakStatement =>
    exact fun place label => .jump (Takes.calm emits) .break place
      (labelName? label)
  case continueStatement =>
    exact fun place label => .jump (Takes.calm emits) .continue place
      (labelName? label)
  case expressionStatement =>
    exact fun place expression => .bind (.expression emits expression)
      fun _ => .pure _
  -- Whatever else there is, is no statement.
  case other =>
    intro tree _ _ _ _ _ _ _ _ _
    rw [lowerStatement] <;> first | assumption | exact .refuse fun _ => trivial
  -- A choice as an arm gets a frame of its own.
  case armIf =>
    exact fun place condition consequent alternate first second =>
      .inBlock (.choice emits first (secondArm_forall second))
  case armBlock => exact fun place content inside => .inBlock inside
  case noArm =>
    intro tree _ _
    rw [lowerArm] <;> first | assumption | exact .refuse fun _ => trivial
  case list => exact fun items inside => inside
  -- An empty text counts as an empty list of statements.
  case emptyText =>
    intro value empty
    simpa only [lowerBody, empty, if_true] using Takes.pure ()
  case text =>
    intro value filled
    simpa only [lowerBody, filled, if_false] using .bind .ensureOpen fun _ => .refuse
      fun _ => trivial
  case noList =>
    intro tree _ _
    rw [lowerBody] <;> first | assumption | exact .stop _
  case nil => exact .pure _
  -- A statement behind a terminator opens a block of its own.
  case cons =>
    exact fun statement rest first others => .bind .ensureOpen fun _ => .bind first fun _ => others

/-- Lowering any tree as a program goes step by step too, where its function may have the name that
is read for it. -/
theorem lowerProgram_takes_of (entry : Document) (tree : Tree)
    (creates : ∀ read, readName entry = pure read → ∀ names : Code.Names,
      allowed (.created (names.registerName read).1)) :
    Takes allowed (lowerProgram entry tree) := by
  unfold lowerProgram
  -- What is no program is refused before anything is placed.
  split
  · exact .entry admits entry creates ((lower_takes_all admits).2.2.1 _)
  · exact .refuse fun _ => trivial

end Admission

/-- Whatever its function is to be called, lowering any tree as a program goes step by step. -/
theorem lowerProgram_takes (entry : Document) (tree : Tree) :
    Takes Placement.Any (lowerProgram entry tree) :=
  lowerProgram_takes_of .any entry tree fun _ _ _ => trivial

end Tree

end LoopLang
