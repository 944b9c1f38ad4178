import LoopLang.Proofs.Lowering.Run
import LoopLang.Proofs.Scope.Frames

/-! How the statements of the grammar are lowered, which have only what belongs there in every
position. -/

namespace LoopLang

/-- There are as many trees as expressions. -/
theorem Expression.toTrees_length (expressions : List Expression) :
    (toTrees expressions).length = expressions.length := by
  induction expressions with
  | nil => rfl
  | cons first rest ih => exact congrArg (· + 1) ih

/-- A parameter whose kind is checked. -/
def Parameter.typed (parameter : Parameter) : Lowering.TypedName :=
  ⟨parameter.place, parameter.name, parameter.kind⟩

open Lowering in
/-- The parameters of a function of the grammar are accepted as they are. -/
theorem Parameter.typedNames_toTree (parameters : List Parameter) :
    typedNames (.list (parameters.map Parameter.toTree)) = pure
      (parameters.map Parameter.typed) := by
  show (parameters.map Parameter.toTree).mapM typedName = _
  induction parameters with
  | nil => rfl
  | cons parameter rest ih =>
    -- The tree of a parameter holds a text and a kind, so it is read as it was written.
    have first : typedName parameter.toTree = pure parameter.typed := by
      simp [toTree, typed, typedName, Kind.definite?]
    rw [List.map_cons, List.mapM_cons, first, ih]
    rfl

namespace Statement

open Lowering LoopLang.Tree

attribute [local simp] lowerStatement lowerBody toTree Identifier.toTree labelTree labelName?

/-- The body of a function is lowered as its statements are. -/
theorem lower_function (place : Location) (name : Identifier) (parameters : List Parameter)
    (bodyPlace : Location) (body : List Statement) (result : ExactKind) :
    (Statement.function place name parameters bodyPlace body result).toTree.lowerStatement =
      lowerFunction place (.text name.name) (.list (parameters.map Parameter.toTree))
        (.kindValue (.exact result)) (lowerStatements (toTrees body)) := by
  simp

/-- A variable has the kind that is stated, if one is. -/
theorem lower_declare (place : Location) (name : Identifier) (stated : Option ValueKind)
    (value : Expression) :
    (Statement.declare place name stated value).toTree.lowerStatement =
      lowerDeclaration place (.text name.name) (.kindValue (statedKind stated)) value.toTree := by
  simp

/-- A block is lowered in a frame of its own. -/
theorem lower_block (place : Location) (body : List Statement) :
    (Statement.block place body).toTree.lowerStatement = inBlock
      (lowerStatements (toTrees body)) := by
  simp

/-- The arm of a branch is a block. -/
theorem lower_when (place : Location) (condition : Expression) (thenPlace : Location)
    (thenBody : List Statement) :
    (Statement.when place condition thenPlace thenBody).toTree.lowerStatement =
      lowerChoice condition.toTree (inBlock (lowerStatements (toTrees thenBody))) none := by
  simp [lowerArm, secondArm?]

/-- Both arms of a branch are blocks. -/
theorem lower_choose (place : Location) (condition : Expression) (thenPlace : Location)
    (thenBody : List Statement) (elsePlace : Location) (elseBody : List Statement) :
    (Statement.choose place condition thenPlace thenBody elsePlace elseBody).toTree.lowerStatement =
      lowerChoice condition.toTree (inBlock (lowerStatements (toTrees thenBody)))
        (some (inBlock (lowerStatements (toTrees elseBody)))) := by
  simp [lowerArm, secondArm?]

/-- The body of a loop is lowered as its statements are. -/
theorem lower_loop (place : Location) (condition : Expression) (bodyPlace : Location)
    (body : List Statement) (label : Option Identifier) :
    (Statement.loop place condition bodyPlace body label).toTree.lowerStatement =
      lowerLoop condition.toTree (label.map Identifier.name) (lowerStatements (toTrees body)) := by
  cases label <;> simp

/-- A jump looks for the label that it names. -/
theorem lower_break (place : Location) (label : Option Identifier) :
    (Statement.break place label).toTree.lowerStatement = lowerJump .break place
      (label.map Identifier.name) := by
  cases label <;> simp

/-- So does the other jump. -/
theorem lower_continue (place : Location) (label : Option Identifier) :
    (Statement.continue place label).toTree.lowerStatement = lowerJump .continue place
      (label.map Identifier.name) := by
  cases label <;> simp

end Statement

end LoopLang
