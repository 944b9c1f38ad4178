import LoopLang.Proofs.Lowering.Run
import LoopLang.Proofs.Places.Tree

/-! Lowering expressions without places: the same code, and the same failures at no place. -/

namespace LoopLang

/-- A failure without its place. -/
def Failure.unplaced : Failure → Failure
  | .refused cause _ => .refused cause .unknown
  | .fault breach => .fault breach

/-- What a computation has answered or failed with, without the place of the failure. -/
def unplacedResult {α : Type} (result : Except Failure α) : Except Failure α :=
  result.mapError Failure.unplaced

namespace Lowering

variable {α β γ : Type}

/-- Two computations that answer the same and leave the same, or fail with the same, whatever place
they name. -/
def Agree (first second : Lowering α) : Prop :=
  ∀ start, unplacedResult (first.outcome start).1 = unplacedResult (second.outcome start).1 ∧
    (first.outcome start).2 = (second.outcome start).2

/-! What stands for names, signs and kinds is read alike without places. -/

/-- A name is read without looking at its place. -/
@[simp]
theorem usedName_unplaced (name : Tree) : usedName name.unplaced = usedName name := by
  let look := fun (shown typeName : String) => scopes >>= fun found =>
    if (found.lookup shown).isSome then pure shown else stop (.notIterable typeName)
  -- What is looked up, and what is at fault if it is unknown, are the same.
  have same : look name.unplaced.shown name.unplaced.typeName = look name.shown name.typeName := by
    rw [name.unplaced_shown, name.unplaced_typeName]
  cases name with
  | text | list => rfl
  | _ => exact same

/-- So is a sign. -/
@[simp]
theorem usedSign_unplaced (sign : Tree) : usedSign sign.unplaced = usedSign sign := by
  have shown := sign.unplaced_shown
  cases sign with
  | list => rfl
  | _ => exact congrArg pure shown

/-- So is a name that is to be declared. -/
@[simp]
theorem declaredName_unplaced (name : Tree) : declaredName name.unplaced = declaredName name := by
  have shown := name.unplaced_shown
  cases name with
  | text | list => rfl
  | _ => exact congrArg pure shown

/-- So is a kind. -/
@[simp]
theorem carriedKind_unplaced (kind : Tree) : carriedKind kind.unplaced = carriedKind kind := by
  cases kind <;> simp only [Tree.unplaced, carriedKind]

namespace Agree

variable {first second : Lowering α}

/-- A computation agrees with itself. -/
theorem refl (action : Lowering α) : Agree action action := fun _ => ⟨rfl, rfl⟩

/-- Refusals for one cause agree wherever they are. -/
theorem refuse (cause : Cause) (here there : Location) :
    Agree (α := α) (Lowering.refuse cause here) (Lowering.refuse cause there) :=
  fun _ => ⟨rfl, rfl⟩

/-- Two computations that agree with a third one agree. -/
theorem through {third : Lowering α} (left : Agree third first) (right : Agree third second) :
    Agree first second :=
  fun start => ⟨(left start).1.symm.trans (right start).1,
    (left start).2.symm.trans (right start).2⟩

/-- Computations agree one after the other, if what follows agrees for every answer that they may
share. -/
theorem bind_map {view : α → β} {other : Lowering β} {next : α → Lowering γ}
    {following : β → Lowering γ} (parts : Agree other (view <$> first))
    (rest : ∀ answer, Agree (following (view answer)) (next answer)) :
    Agree (other >>= following) (first >>= next) := by
  intro start
  have same := parts start
  rw [← bind_pure_comp] at same
  simp only [outcome_bind] at same ⊢
  -- Either both first parts fail, or both succeed with what one of them answers.
  rcases left : other.outcome start with ⟨_ | _, _⟩ <;>
    rcases right : first.outcome start with ⟨_ | _, _⟩ <;>
    simp only [left, right] at same ⊢
  · exact ⟨congrArg Except.error (Except.error.inj same.1), same.2⟩
  · cases same.1
  · cases same.1
  · obtain ⟨answers, builders⟩ := same
    cases answers
    cases builders
    exact rest _ _

/-- Computations agree one after the other. -/
theorem bind {next following : α → Lowering β} (parts : Agree first second)
    (rest : ∀ answer, Agree (next answer) (following answer)) :
    Agree (first >>= next) (second >>= following) :=
  bind_map (by simpa using parts) rest

/-- Computations agree behind the same one. -/
theorem after {next following : α → Lowering β} {action : Lowering α}
    (rest : ∀ answer, Agree (next answer) (following answer)) :
    Agree (action >>= next) (action >>= following) :=
  bind (refl action) rest

/-- What decides between computations knows no places. -/
theorem ite {condition : Prop} [Decidable condition] {other another : Lowering α}
    (holds : Agree first second) (fails : Agree other another) :
    Agree (if condition then first else other) (if condition then second else another) := by
  split
  · exact holds
  · exact fails

/-! The steps of lowering expressions agree with themselves at another place. -/

/-- A variable is looked up by its name. -/
theorem resolveVariable (name : String) (here there : Location) :
    Agree (Lowering.resolveVariable name here) (Lowering.resolveVariable name there) := by
  refine .after fun found => ?_
  -- What the name stands for decides, and the scopes know no places.
  split
  · exact .after fun _ => .refuse _ _ _
  · exact .refuse _ _ _
  · split
    · exact .after fun _ => .ite (.refl _) (.refuse _ _ _)
    · exact .refuse _ _ _

/-- It is loaded wherever it stands. -/
theorem loadVariable (name : String) (here there : Location) :
    Agree (Lowering.loadVariable name here) (Lowering.loadVariable name there) :=
  .bind (.resolveVariable _ _ _) fun _ => .refl _

/-- So is it stored to. -/
theorem storeVariable (name : String) (kind : ValueKind) (slot : Slot) (value : Code.Operand)
    (here there : Location) :
    Agree (Lowering.storeVariable name kind slot value here)
      (Lowering.storeVariable name kind slot value there) :=
  .ite (.refl _) (.refuse _ _ _)

/-- The target of an assignment is found by its name. -/
theorem resolveTarget (place : Location) (operator : String) (target : Tree) :
    Agree (Lowering.resolveTarget .unknown operator target.unplaced)
      (Lowering.resolveTarget place operator target) := by
  cases target with
  | identifier here name kind =>
    simp only [Tree.unplaced, Lowering.resolveTarget, usedName_unplaced]
    -- The operator is looked at first, and then the variable.
    split
    · exact .bind (.refuse _ _ _) fun _ => .after fun _ => .bind (.resolveVariable _ _ _)
        fun _ => .refl _
    · exact .after fun _ => .bind (.resolveVariable _ _ _) fun _ => .refl _
  -- Anything else is refused, be it for its operator or for itself.
  | _ => exact .ite (.bind (.refuse _ _ _) fun _ => .refuse _ _ _) (.refuse _ _ _)

/-- So is the function that is called. -/
theorem resolveCallee (place : Location) (callee : Tree) :
    Agree (Lowering.resolveCallee .unknown callee.unplaced)
      (Lowering.resolveCallee place callee) := by
  cases callee with
  | identifier here name kind =>
    simp only [Tree.unplaced, Lowering.resolveCallee, usedName_unplaced]
    refine .after fun name => .after fun found => ?_
    -- Whether a name is known does not depend on where it stands.
    split
    · exact .after fun _ => .refuse _ _ _
    · exact .refuse _ _ _
    · exact .refl _
  | _ => exact .refuse _ _ _

/-- Arguments are counted wherever they stand. -/
theorem checkCount (callee : Callee) (found : Nat) (here there : Location) :
    Agree (Lowering.checkCount callee found here) (Lowering.checkCount callee found there) :=
  .ite (.refl _) (.refuse _ _ _)

/-- So are their kinds compared. -/
theorem checkArgument (callee : String) (position : Nat) (expected : ExactKind)
    (value : Code.Operand) (here there : Location) :
    Agree (Lowering.checkArgument callee position expected value here)
      (Lowering.checkArgument callee position expected value there) :=
  .ite (.refl _) (.refuse _ _ _)

/-- An operand is a number wherever it stands. -/
theorem checkNumber (sign : String) (operand : Code.Operand) (here there : Location) :
    Agree (Lowering.checkNumber sign operand here) (Lowering.checkNumber sign operand there) :=
  .ite (.refl _) (.refuse _ _ _)

/-- Operations are the same everywhere. -/
theorem emitArithmetic (sign : String) (left right : Code.Operand) (here there : Location) :
    Agree (Lowering.emitArithmetic sign left right here)
      (Lowering.emitArithmetic sign left right there) := by
  unfold Lowering.emitArithmetic
  split
  · exact .refuse _ _ _
  · exact .bind (.checkNumber _ _ _ _) fun _ => .bind (.checkNumber _ _ _ _) fun _ => .refl _

/-- A value is asked for everywhere alike. -/
theorem required (here there : Location) {first second : Lowering (Option Code.Operand)}
    (parts : Agree first second) :
    Agree (Lowering.required here first) (Lowering.required there second) := by
  refine .bind parts fun answer => ?_
  split
  · exact .refl _
  · exact .refuse _ _ _

end Agree

end Lowering

namespace Tree

open Lowering

/-- Lowering any tree as an expression, and as arguments, agrees with lowering it without its
places. -/
theorem lowerExpression_agrees_all :
    (∀ tree, Agree (lowerExpression tree.unplaced) (lowerExpression tree)) ∧
    (∀ callee place tree, Agree (lowerArguments callee .unknown tree.unplaced)
      (lowerArguments callee place tree)) ∧
    (∀ callee position kinds items,
      Agree (lowerItems callee position kinds (unplacedAll items))
        (lowerItems callee position kinds items)) := by
  -- By the recursion of the lowering. The place of an argument list is that of its call, so it may
  -- be any.
  refine lowerExpression.mutual_induct
    (fun tree => Agree (lowerExpression tree.unplaced) (lowerExpression tree))
    (fun callee place tree => Agree (lowerArguments callee .unknown tree.unplaced)
      (lowerArguments callee place tree))
    (fun callee position kinds items =>
      Agree (lowerItems callee position kinds (unplacedAll items))
        (lowerItems callee position kinds items))
    ?number ?boolean ?identifier ?assignment ?call ?binary ?other ?list ?text ?noList ?item
      ?nil ?noKinds
  case number => exact fun _ _ => .refl _
  case boolean => exact fun _ _ => .refl _
  -- Names and signs have no place, so they are read in the same way.
  case identifier =>
    intro place name kind
    simp only [unplaced, lowerExpression, usedName_unplaced]
    exact .after fun _ => .bind (.loadVariable _ _ _) fun _ => .refl _
  case assignment =>
    intro place left right operator value_agrees
    simp only [unplaced, lowerExpression, unplaced_shown]
    exact .bind (.resolveTarget _ _ _) fun _ => .bind (.required _ _ value_agrees) fun _ =>
      .bind (.storeVariable _ _ _ _ _ _) fun _ => .refl _
  case call =>
    intro place callee arguments arguments_agree
    exact .bind (.resolveCallee _ _) fun callee => .bind (arguments_agree callee) fun _ => .refl _
  case binary =>
    intro place left right operator left_agrees right_agrees
    simp only [unplaced, lowerExpression, usedSign_unplaced]
    exact .bind (.required _ _ left_agrees) fun _ => .bind (.required _ _ right_agrees) fun _ =>
      .after fun _ =>
        .bind (.emitArithmetic _ _ _ _ _) fun _ => .refl _
  case other =>
    intro tree noNumber noBoolean noIdentifier noAssignment noCall noBinary
    -- What is no expression keeps its shape, which is all that the refusal names.
    cases tree with
    | numberLiteral => exact absurd rfl (noNumber _ _)
    | booleanLiteral => exact absurd rfl (noBoolean _ _)
    | identifier => exact absurd rfl (noIdentifier _ _ _)
    | assignmentExpression => exact absurd rfl (noAssignment _ _ _ _)
    | callExpression => exact absurd rfl (noCall _ _ _)
    | binaryExpression => exact absurd rfl (noBinary _ _ _ _)
    | _ => exact .refuse _ _ _
  case list =>
    intro callee place items items_agree
    -- The arguments are counted before the first of them is lowered.
    simp only [unplaced, lowerArguments, unplacedAll_eq_map, List.length_map] at items_agree ⊢
    exact .bind (.checkCount _ _ _ _) fun _ => items_agree
  case text => exact fun callee place value => .bind (.checkCount _ _ _ _) fun _ => .refl _
  -- What is no list stays none.
  case noList =>
    intro callee place tree noList noText
    cases tree with
    | list => exact absurd rfl (noList _)
    | text => exact absurd rfl (noText _)
    | _ => exact .refl _
  -- An argument that is refused is refused at its own place, or at none.
  case item =>
    intro callee position kind kinds item rest item_agrees rest_agrees
    exact .bind (.required _ _ item_agrees) fun _ => .bind (.checkArgument _ _ _ _ _ _) fun _ =>
      .bind rest_agrees fun _ => .refl _
  case nil =>
    intro callee position kinds
    exact .refl _
  case noKinds =>
    intro items callee position some_items
    cases items with
    | nil => exact .refl _
    | cons => exact .refl _

/-- Lowering an expression that must have a value agrees with lowering it without its places. -/
theorem lowerValue_agrees (tree : Tree) : Agree (lowerValue tree.unplaced) (lowerValue tree) :=
  .required _ _ (lowerExpression_agrees_all.1 tree)

end Tree

end LoopLang
