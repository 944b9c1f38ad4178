import LoopLang.Proofs.Blame.Tree
import LoopLang.Proofs.Lowering.Reasons

/-! Lowering an expression whose places are known blames one of them, if it is refused. -/

namespace LoopLang

open Code (Operand)

/-- A tree is refused at a known place, or a rule of building is broken, which is ruled out
elsewhere. -/
def Failure.Blames (known : Location → Prop) (failure : Failure) : Prop :=
  failure.IsInternal ∨ ∃ cause place, failure = .refused cause place ∧ known place

namespace Lowering

variable {α β : Type} {action : Lowering α} {known : Location → Prop} {place : Location}

/-- A computation that refuses trees at known places only. -/
def Blames (known : Location → Prop) (action : Lowering α) : Prop :=
  ∀ start, action.Ends start (fun _ _ => True) fun failure _ => failure.Blames known

namespace Blames

/-- Nothing is to blame for an answer. -/
theorem pure (answer : α) : Blames known (Pure.pure answer) := fun _ => trivial

/-- A refusal blames its own place. -/
theorem refuse {cause : Cause} (here : known place) :
    Blames (α := α) known (Lowering.refuse cause place) :=
  fun _ => .inr ⟨cause, place, rfl, here⟩

/-- A rule of building may be broken. -/
theorem stop {fault : Fault} (internal : (Failure.fault fault).IsInternal) :
    Blames (α := α) known (Lowering.stop fault) := fun _ => .inl internal

/-- Two computations blame known places one after the other. -/
theorem bind {next : α → Lowering β} (first : Blames known action)
    (second : ∀ answer, Blames known (next answer)) :
    Blames known (action >>= next) :=
  fun start => .bind (first start) fun answer middle _ => second answer middle

/-- What is computed from the scopes may depend on them. -/
theorem scopes {next : Scopes → Lowering α} (second : ∀ scopes, Blames known (next scopes)) :
    Blames known (Lowering.scopes >>= next) :=
  .bind (fun _ => trivial) second

/-- What only looks at the open frames blames no more than it may fail for. -/
theorem of_looks {answers : Scopes → α → Prop} {fails : Scopes → Failure → Prop}
    (looks : ∀ scopes, action.Looks scopes (answers scopes) (fails scopes))
    (blamed : ∀ scopes failure, fails scopes failure → failure.Blames known) :
    Blames known action := by
  intro start
  exact (looks start.scopes).ends.imp (fun _ _ _ => trivial) fun failure _ held =>
    blamed _ failure held.1

/-- A cause is blamed on the place at which it is found. -/
theorem «at» {failure : Failure} {cause : Cause} (same : failure = .refused cause place)
    (here : known place) : failure.Blames known :=
  .inr ⟨cause, place, same, here⟩

/-- A rule of building is broken, which is ruled out elsewhere. -/
theorem internal {failure : Failure} {fault : Fault} (same : failure = .fault fault)
    (breach : ¬ fault.IsOfTree) : failure.Blames known :=
  .inl (same ▸ breach)

/-- No text is to blame where no frame is open. -/
theorem currentFrame : Blames known Lowering.currentFrame :=
  .of_looks (fun _ => .currentFrame) fun _ _ held => internal held.1 id

/-- Nor where there is no function around. -/
theorem currentFunction : Blames known Lowering.currentFunction :=
  .of_looks (fun _ => .currentFunction) fun _ _ same => internal same id

/-- Nor where the frame of that function is missing. -/
theorem enclosingFunction : Blames known Lowering.enclosingFunction :=
  .of_looks (fun _ => .enclosingFunction) fun _ _ same => internal same id

/-- Nor where code is emitted nowhere. -/
theorem cursor : Blames known Lowering.cursor :=
  .of_looks (fun _ => .cursor) fun _ _ same => internal same id

/-- A line of the debug output never fails. -/
theorem note (line : String) : Blames known (Lowering.note line) := fun _ => trivial

/-- Emitting an instruction blames nothing. -/
theorem emit (base : String) (make : String → Code.Instruction) :
    Blames known (Lowering.emit base make) :=
  .bind .cursor fun _ _ => trivial

/-- Nor does emitting one without a name. -/
theorem emitUnnamed (instruction : Code.Instruction) :
    Blames known (Lowering.emitUnnamed instruction) :=
  .bind (.emit _ _) fun _ => .pure _

/-- Nor does asking whether a block has an end. -/
theorem isTerminated : Blames known Lowering.isTerminated := .bind .cursor fun _ _ => trivial

/-- Nor does ending it. -/
theorem terminate (instruction : Code.Instruction) :
    Blames known (Lowering.terminate instruction) := by
  refine .bind .isTerminated fun ended => ?_
  split
  · exact .bind (.stop id) fun _ => .emitUnnamed _
  · exact .emitUnnamed _

/-- Nor does reserving a slot. -/
theorem createSlot (base : String) (kind : ValueKind) :
    Blames known (Lowering.createSlot base kind) :=
  .bind .currentFunction fun _ _ => trivial

/-- Only where no function is being built, no block can be added. -/
theorem createBlock (base : String) : Blames known (Lowering.createBlock base) := by
  refine .scopes fun scopes => ?_
  split
  · exact fun _ => trivial
  · exact fun _ => .inl trivial

/-- Nor does counting a branch. -/
theorem nextSuffix : Blames known Lowering.nextSuffix := fun _ => trivial

/-- A name and a sign of the grammar are read as they are. -/
theorem usedName (name : String) : Blames known (Lowering.usedName (.text name)) :=
  .of_looks (fun _ => .usedName _) fun _ _ held => absurd rfl (held.2 name)

/-- A sign in the text is one. -/
theorem usedSign (sign : String) : Blames known (Lowering.usedSign (.text sign)) :=
  .of_looks (fun _ => .usedSign _) fun _ _ held => absurd rfl (held.2 sign)

/-- What a name is bound to is blamed where the name is used. -/
theorem resolveVariable (name : String) (here : known place) :
    Blames known (Lowering.resolveVariable name place) := by
  refine .of_looks (fun _ => .resolveVariable name place) ?_
  rintro _ _ ⟨cause, same, -⟩
  exact Blames.at same here

/-- A variable without a value is blamed on where it is used. -/
theorem loadVariable (name : String) (here : known place) :
    Blames known (Lowering.loadVariable name place) :=
  .bind (.resolveVariable name here) fun _ => .bind (.emit _ _) fun _ => .pure _

/-- A value of another kind is blamed on where it is stored. -/
theorem storeVariable (name : String) (kind : ValueKind) (slot : Slot) (value : Operand)
    (here : known place) :
    Blames known (Lowering.storeVariable name kind slot value place) := by
  unfold Lowering.storeVariable
  split
  · exact .emitUnnamed _
  · exact .refuse here

/-- A target that is unknown is blamed itself, and the operator at the place of the assignment. -/
theorem resolveTarget {target : Identifier} (kind : Kind) (operator : String) (here : known place)
    (target_known : known target.place) :
    Blames known (Lowering.resolveTarget place operator (target.toTree kind)) := by
  refine .of_looks (fun _ => .resolveTarget place operator (target.toTree kind)) ?_
  rintro _ _ (⟨-, same⟩ | ⟨cause, same, -⟩ | ⟨unnamed, -⟩)
  · exact Blames.at same here
  · exact Blames.at same target_known
  -- The target is an identifier, so it cannot be without a name.
  · exact absurd rfl (unnamed _ _ _)

/-- A callee that is unknown is blamed itself. -/
theorem resolveCallee {callee : Identifier} (kind : Kind) (callee_known : known callee.place) :
    Blames known (Lowering.resolveCallee place (callee.toTree kind)) := by
  refine .of_looks (fun _ => .resolveCallee place (callee.toTree kind)) ?_
  rintro _ _ (⟨cause, same, -⟩ | ⟨unnamed, -⟩)
  · exact Blames.at same callee_known
  · exact absurd rfl (unnamed _ _ _)

/-- The number of arguments is blamed on the call. -/
theorem checkCount (callee : Callee) (found : Nat) (here : known place) :
    Blames known (Lowering.checkCount callee found place) :=
  .of_looks (fun _ => .checkCount callee found place) fun _ _ held => Blames.at held.2 here

/-- The kind of an argument is blamed on the argument. -/
theorem checkArgument (callee : String) (position : Nat) (expected : ExactKind) (value : Operand)
    (here : known place) :
    Blames known (Lowering.checkArgument callee position expected value place) :=
  .of_looks (fun _ => .checkArgument callee position expected value place) fun _ _ held =>
    Blames.at held.2 here

/-- Emitting a call blames nothing. -/
theorem emitCall (callee : Callee) (arguments : List Operand) :
    Blames known (Lowering.emitCall callee arguments) := by
  unfold Lowering.emitCall
  split
  · exact .bind (.emit _ _) fun _ => .pure _
  · exact .bind (.emitUnnamed _) fun _ => .pure _

/-- An operand that is no number is blamed on the operation. -/
theorem checkNumber (sign : String) (operand : Operand) (here : known place) :
    Blames known (Lowering.checkNumber sign operand place) :=
  .of_looks (fun _ => .checkNumber sign operand place) fun _ _ held => Blames.at held.2 here

/-- So is an operation on operands that are none. -/
theorem emitArithmetic (sign : String) (left right : Operand) (here : known place) :
    Blames known (Lowering.emitArithmetic sign left right place) := by
  unfold Lowering.emitArithmetic
  split
  · exact .refuse here
  · exact .bind (.checkNumber _ _ here) fun _ => .bind (.checkNumber _ _ here) fun _ =>
      .bind (.emit _ _) fun _ => .pure _

/-- A value that is missing is blamed on where it is asked for. -/
theorem required {expression : Lowering (Option Operand)} (here : known place)
    (blames : Blames known expression) :
    Blames known (Lowering.required place expression) := by
  refine .bind blames fun answer => ?_
  split
  · exact .pure _
  · exact .refuse here

end Blames

end Lowering

/-- The tree of an expression stands where the expression does. -/
@[simp] theorem Expression.toTree_place (expression : Expression) :
    expression.toTree.place = expression.place := by
  cases expression <;> rfl

namespace Lowering.Blames

open LoopLang.Tree

variable {known : Location → Prop}

mutual

/-- An expression is refused at its own place, or at a place in one of its parts. -/
theorem expression : ∀ expression : Expression, expression.StandsAt known →
    Blames known expression.toTree.lowerExpression
  | .number _ _, _ => .pure _
  | .boolean _ _, _ => .pure _
  | .identifier _ name, here =>
    .bind (.usedName name) fun _ => .bind (.loadVariable _ here) fun _ => .pure _
  | .assign place target value, ⟨here, target_known, stands⟩ => by
    -- A value that does not fit is blamed at the assignment, a target that is unknown at its own
    -- place.
    have valued : Blames known
        (Lowering.required value.toTree.place value.toTree.lowerExpression) :=
      .required (value.toTree_place ▸ stands.place) (expression value stands)
    exact .bind (.resolveTarget _ _ here target_known) fun _ => .bind valued fun _ =>
      .bind (.storeVariable _ _ _ _ here) fun _ => .pure _
  | .call place callee arguments, ⟨here, callee_known, stand⟩ => by
    -- The number of arguments is blamed at the call, before any of them is lowered.
    refine .bind (.resolveCallee _ callee_known) fun found => ?_
    have passed : Blames known
        (lowerArguments found place (.list (Expression.toTrees arguments))) :=
      .bind (.checkCount _ _ here) fun _ => items arguments stand _ _ _
    exact .bind passed fun _ => .emitCall _ _
  | .binary place operator left right, ⟨here, left_stands, right_stands⟩ => by
    -- Operands of another kind are blamed at the operator.
    have first : Blames known (Lowering.required left.toTree.place left.toTree.lowerExpression) :=
      .required (left.toTree_place ▸ left_stands.place) (expression left left_stands)
    have second : Blames known
        (Lowering.required right.toTree.place right.toTree.lowerExpression) :=
      .required (right.toTree_place ▸ right_stands.place) (expression right right_stands)
    exact .bind first fun _ => .bind second fun _ => .bind (.usedSign _) fun _ =>
      .bind (.emitArithmetic _ _ _ here) fun _ => .pure _

/-- An argument is refused at its own place, or at a place in it. -/
theorem items : ∀ items : List Expression, Expression.AllStand known items →
    ∀ (callee : String) (position : Nat) (kinds : List ExactKind),
      Blames known (lowerItems callee position kinds (Expression.toTrees items))
  | [], _, _, _, [] => .pure _
  -- Items or kinds that are left over have been refused with the number of arguments.
  | [], _, _, _, _ :: _ => .pure _
  | _ :: _, _, _, _, [] => .pure _
  | item :: rest, ⟨stands, stand⟩, callee, position, _ :: kinds => by
    have here : known item.toTree.place := item.toTree_place ▸ stands.place
    exact .bind (.required here (expression item stands)) fun _ =>
      .bind (.checkArgument _ _ _ _ here) fun _ =>
      .bind (items rest stand callee (position + 1) kinds) fun _ => .pure _

end

/-- A value that is missing is blamed at the place of the expression. -/
theorem value {expression : Expression} (stands : expression.StandsAt known) :
    Blames known expression.toTree.lowerValue :=
  .required (expression.toTree_place ▸ stands.place) (.expression expression stands)

end Lowering.Blames

end LoopLang
