import LoopLang.Proofs.Lowering.Reasons

/-! What lowering an expression leaves alone and never fails with, whatever the tree is and wherever
it is lowered. -/

namespace LoopLang

open Code (Operand)

namespace Lowering

variable {α β : Type} {action : Lowering α} {reasons : Reasons}

/-- A computation that leaves the scopes as they are, and that fails for some of the given reasons
only. -/
def Quiet (reasons : Reasons) (action : Lowering α) : Prop :=
  ∀ start, action.Ends start (fun _ finish => finish.scopes = start.scopes)
    fun failure finish => finish.scopes = start.scopes ∧ reasons.holds failure

namespace Quiet

/-- An answer is quiet. -/
theorem pure (answer : α) : Quiet reasons (Pure.pure answer) := fun _ => rfl

/-- So is a refusal, for a reason that is allowed. -/
theorem refuse {cause : Cause} {place : Location} (held : reasons.holds (.refused cause place)) :
    Quiet (α := α) reasons (Lowering.refuse cause place) := fun _ => ⟨rfl, held⟩

/-- So is a fault that is. -/
theorem stop {fault : Fault} (held : reasons.holds (.fault fault)) :
    Quiet (α := α) reasons (Lowering.stop fault) :=
  fun _ => ⟨rfl, held⟩

/-- Two computations leave the scopes as they are one after the other. -/
theorem bind {next : α → Lowering β} (first : Quiet reasons action)
    (second : ∀ answer, Quiet reasons (next answer)) :
    Quiet reasons (action >>= next) := by
  intro start
  refine bind_ends.mpr ((first start).imp (fun answer middle same => ?_) fun _ _ failed => failed)
  exact (second answer middle).imp (fun _ _ left => left.trans same) fun _ _ left =>
    ⟨left.1.trans same, left.2⟩

/-- What is computed from the scopes may depend on them. -/
theorem scopes {next : Scopes → Lowering α} (second : ∀ scopes, Quiet reasons (next scopes)) :
    Quiet reasons (Lowering.scopes >>= next) :=
  .bind (fun _ => rfl) second

/-- What only looks at the open frames leaves them as they are. -/
theorem of_looks {answers : Scopes → α → Prop} {fails : Scopes → Failure → Prop}
    (looks : ∀ scopes, action.Looks scopes (answers scopes) (fails scopes))
    (known : ∀ scopes failure, fails scopes failure → reasons.holds failure) :
    Quiet reasons action :=
  fun start => (looks start.scopes).ends.imp (fun _ _ held => held.2 ▸ rfl)
    fun failure _ held => ⟨held.2 ▸ rfl, known _ failure held.1⟩

/-- Looking for the innermost frame is quiet; where there is none, something is wrong inside. -/
theorem currentFrame : Quiet reasons Lowering.currentFrame := by
  refine .of_looks (fun _ => .currentFrame) ?_
  rintro _ _ ⟨rfl, _⟩
  exact reasons.internal id

/-- So is looking for the function around it. -/
theorem currentFunction : Quiet reasons Lowering.currentFunction := by
  refine .of_looks (fun _ => .currentFunction) ?_
  rintro _ _ rfl
  exact reasons.internal id

/-- So is looking for the frame of that function. -/
theorem enclosingFunction : Quiet reasons Lowering.enclosingFunction := by
  refine .of_looks (fun _ => .enclosingFunction) ?_
  rintro _ _ rfl
  exact reasons.internal id

/-- So is looking for the current block. -/
theorem cursor : Quiet reasons Lowering.cursor := by
  refine .of_looks (fun _ => .cursor) ?_
  rintro _ _ rfl
  exact reasons.internal id

/-- Emitting an instruction is quiet. -/
theorem emit (base : String) (make : String → Code.Instruction) :
    Quiet reasons (Lowering.emit base make) :=
  .bind .cursor fun _ _ => rfl

/-- So is emitting one without a name. -/
theorem emitUnnamed (instruction : Code.Instruction) :
    Quiet reasons (Lowering.emitUnnamed instruction) :=
  .bind (.emit _ _) fun _ => .pure _

/-- So is asking whether the block has an end. -/
theorem isTerminated : Quiet reasons Lowering.isTerminated := .bind .cursor fun _ _ => rfl

/-- So is ending it. -/
theorem terminate (instruction : Code.Instruction) :
    Quiet reasons (Lowering.terminate instruction) := by
  refine .bind .isTerminated fun ended => ?_
  split
  · exact .bind (.stop (reasons.internal id)) fun _ => .emitUnnamed _
  · exact .emitUnnamed _

/-- So is reserving a slot. -/
theorem createSlot (base : String) (kind : ValueKind) :
    Quiet reasons (Lowering.createSlot base kind) :=
  .bind .currentFunction fun _ _ => rfl

/-- So is creating a block. -/
theorem createBlock (base : String) : Quiet reasons (Lowering.createBlock base) := by
  refine .scopes fun scopes => ?_
  split
  · exact fun _ => rfl
  · exact .refuse (reasons.internal trivial)

/-- So is counting a branch. -/
theorem nextSuffix : Quiet reasons Lowering.nextSuffix := fun _ => rfl

/-- Reading a name is quiet, if a name that is none may be a reason. -/
theorem usedName (name : Tree)
    (odd : (∀ word, name ≠ .text word) → ∀ failure, failure.IsOfTree → reasons.holds failure) :
    Quiet reasons (Lowering.usedName name) :=
  .of_looks (fun _ => .usedName name) fun _ failure held => odd held.2 failure held.1

/-- So is reading a sign. -/
theorem usedSign (sign : Tree)
    (odd : (∀ word, sign ≠ .text word) → ∀ failure, failure.IsOfTree → reasons.holds failure) :
    Quiet reasons (Lowering.usedSign sign) :=
  .of_looks (fun _ => .usedSign sign) fun _ failure held => odd held.2 failure held.1

/-- A name may be unknown, or be that of a function. -/
theorem resolveVariable (name : String) (place : Location) :
    Quiet reasons (Lowering.resolveVariable name place) := by
  refine .of_looks (fun _ => .resolveVariable name place) ?_
  rintro _ _ ⟨cause, rfl, held⟩
  exact reasons.cause held.isRegular

/-- A variable may have no value. -/
theorem loadVariable (name : String) (place : Location) :
    Quiet reasons (Lowering.loadVariable name place) :=
  .bind (.resolveVariable name place) fun _ => .bind (.emit _ _) fun _ => .pure _

/-- A value may be of another kind than the variable. -/
theorem storeVariable (name : String) (kind : ValueKind) (slot : Slot) (value : Operand)
    (place : Location) :
    Quiet reasons (Lowering.storeVariable name kind slot value place) := by
  unfold Lowering.storeVariable
  split
  · exact .emitUnnamed _
  · exact .refuse (reasons.cause trivial)

/-- The target of an assignment is a variable; what else is written may be another reason. -/
theorem resolveTarget (place : Location) (operator : String) (target : Tree)
    (unknown : operator ≠ "=" → reasons.holds (.refused (.assignmentOperator operator) place))
    (odd : target.Unnamed → ∀ failure,
      failure = .refused .targetNotIdentifier target.place ∨ failure.IsOfTree →
        reasons.holds failure) :
    Quiet reasons (Lowering.resolveTarget place operator target) := by
  refine .of_looks (fun _ => .resolveTarget place operator target) ?_
  -- The sign is unknown, the name is wrong, or there is no name.
  rintro _ _ (⟨other, rfl⟩ | ⟨cause, rfl, held⟩ | ⟨unnamed, held⟩)
  · exact unknown other
  · exact reasons.cause held.isRegular
  · exact odd unnamed _ held

/-- What is called is a function; what else is written may be another reason. -/
theorem resolveCallee (place : Location) (callee : Tree)
    (odd : callee.Unnamed → ∀ failure,
      failure = .refused .calleeNotIdentifier place ∨ failure.IsOfTree → reasons.holds failure) :
    Quiet reasons (Lowering.resolveCallee place callee) := by
  refine .of_looks (fun _ => .resolveCallee place callee) ?_
  -- The name is wrong, or there is none.
  rintro _ _ (⟨cause, rfl, held⟩ | ⟨unnamed, held⟩)
  · exact reasons.cause held.isRegular
  · exact odd unnamed _ held

/-- Arguments may be too few or too many. -/
theorem checkCount (callee : Callee) (found : Nat) (place : Location) :
    Quiet reasons (Lowering.checkCount callee found place) := by
  refine .of_looks (fun _ => .checkCount callee found place) ?_
  rintro _ _ ⟨_, rfl⟩
  exact reasons.cause trivial

/-- An argument may be of another kind than its parameter. -/
theorem checkArgument (callee : String) (position : Nat) (expected : ExactKind) (value : Operand)
    (place : Location) :
    Quiet reasons (Lowering.checkArgument callee position expected value place) := by
  refine .of_looks (fun _ => .checkArgument callee position expected value place) ?_
  rintro _ _ ⟨_, rfl⟩
  exact reasons.cause trivial

/-- Emitting a call is quiet. -/
theorem emitCall (callee : Callee) (arguments : List Operand) :
    Quiet reasons (Lowering.emitCall callee arguments) := by
  unfold Lowering.emitCall
  split
  · exact .bind (.emit _ _) fun _ => .pure _
  · exact .bind (.emitUnnamed _) fun _ => .pure _

/-- An operand may be no number. -/
theorem checkNumber (sign : String) (operand : Operand) (place : Location) :
    Quiet reasons (Lowering.checkNumber sign operand place) := by
  refine .of_looks (fun _ => .checkNumber sign operand place) ?_
  rintro _ _ ⟨other, rfl⟩
  exact reasons.cause other

/-- Operands are numbers; an unknown sign may be another reason. -/
theorem emitArithmetic (sign : String) (left right : Operand) (place : Location)
    (unknown : operator? sign = none → reasons.holds (.refused (.binaryOperator sign) place)) :
    Quiet reasons (Lowering.emitArithmetic sign left right place) := by
  unfold Lowering.emitArithmetic
  -- With a known sign only the kinds of the operands can be wrong.
  split
  · exact .refuse (unknown ‹_›)
  · exact .bind (.checkNumber _ _ _) fun _ => .bind (.checkNumber _ _ _) fun _ =>
      .bind (.emit _ _) fun _ => .pure _

/-- Where a value is asked for, there may be none. -/
theorem required {expression : Lowering (Option Operand)} (place : Location)
    (quiet : Quiet reasons expression) :
    Quiet reasons (Lowering.required place expression) := by
  refine .bind quiet fun answer => ?_
  split
  · exact .pure _
  · exact .refuse (reasons.cause trivial)

/-- However such a computation ends, the scopes are the same. -/
theorem same (quiet : Quiet reasons action) (start : Builder) :
    (action.outcome start).2.scopes = start.scopes := by
  have ends := quiet start
  unfold Ends at ends
  -- Both ends are left in the scopes of the start.
  split at ends <;> rename_i ended <;> rw [ended]
  · exact ends
  · exact ends.1

/-- Where such a computation fails, it is for one of the reasons. -/
theorem reason {start finish : Builder} {failure : Failure} (quiet : Quiet reasons action)
    (failed : action.outcome start = (.error failure, finish)) : reasons.holds failure := by
  have ends := quiet start
  unfold Ends at ends
  rw [failed] at ends
  exact ends.2

end Quiet

end Lowering

namespace Tree

open Lowering

/-- Lowering any tree as an expression leaves the scopes as they are, and its kind is no reason to
fail. -/
theorem lowerExpression_quiet_all :
    (∀ tree, Quiet .inferred (lowerExpression tree)) ∧
    (∀ callee place tree, Quiet .inferred (lowerArguments callee place tree)) ∧
    (∀ callee position kinds items, Quiet .inferred (lowerItems callee position kinds items)) := by
  refine lowerExpression.mutual_induct
    (fun tree => Quiet .inferred (lowerExpression tree))
    (fun callee place tree => Quiet .inferred (lowerArguments callee place tree))
    (fun callee position kinds items => Quiet .inferred (lowerItems callee position kinds items))
    ?number ?boolean ?identifier ?assignment ?call ?binary ?other ?list ?text ?noList ?item
    ?nil ?noKinds
  -- Each case is put together as its definition is, part by part.
  case number => exact fun _ _ => .pure _
  case boolean => exact fun _ _ => .pure _
  case identifier =>
    intro place name kind
    exact .bind (.usedName name fun _ _ => Failure.IsOfTree.isInferred) fun name =>
      .bind (.loadVariable name place) fun _ => .pure _
  case assignment =>
    intro place left right operator value_quiet
    -- A target that is found or refused for its name is no fault of inference.
    have target : Quiet .inferred (resolveTarget place operator.shown left) := by
      refine .resolveTarget _ _ _ (fun _ => trivial) ?_
      rintro _ _ (rfl | held)
      · trivial
      · exact held.isInferred
    exact .bind target fun _ => .bind (.required _ value_quiet) fun _ =>
      .bind (.storeVariable _ _ _ _ _) fun _ => .pure _
  case call =>
    intro place callee arguments arguments_quiet
    have function : Quiet .inferred (resolveCallee place callee) := by
      refine .resolveCallee _ _ ?_
      rintro _ _ (rfl | held)
      · trivial
      · exact held.isInferred
    exact .bind function fun callee => .bind (arguments_quiet callee) fun _ => .emitCall _ _
  case binary =>
    intro place left right operator left_quiet right_quiet
    exact .bind (.required _ left_quiet) fun _ => .bind (.required _ right_quiet) fun _ =>
      .bind (.usedSign operator fun _ _ => Failure.IsOfTree.isInferred) fun _ =>
      .bind (.emitArithmetic _ _ _ _ fun _ => trivial) fun _ => .pure _
  -- What is no expression is refused as such.
  case other =>
    intro tree _ _ _ _ _ _
    rw [lowerExpression] <;> first | assumption | exact .refuse trivial
  case list => exact fun _ _ _ items_quiet => .bind (.checkCount _ _ _) fun _ => items_quiet
  case text =>
    intro callee place value
    refine .bind (.checkCount _ _ _) fun _ => ?_
    split
    · exact .pure _
    · exact .refuse trivial
  case noList =>
    intro callee place tree _ _
    rw [lowerArguments] <;> first | assumption | exact .stop trivial
  case item =>
    intro callee position kind kinds item rest item_quiet rest_quiet
    exact .bind (.required _ item_quiet) fun _ => .bind (.checkArgument _ _ _ _ _) fun _ =>
      .bind rest_quiet fun _ => .pure _
  case nil =>
    intro callee position kinds
    rw [lowerItems]
    exact .pure _
  -- Items without kinds are not lowered.
  case noKinds =>
    intro items callee position some_items
    rw [lowerItems]
    · exact .pure _
    · exact some_items

/-- Lowering an expression that must have a value leaves the scopes as they are. -/
theorem lowerValue_quiet (tree : Tree) : Quiet .inferred (lowerValue tree) :=
  .required _ (lowerExpression_quiet_all.1 tree)

end Tree

end LoopLang
