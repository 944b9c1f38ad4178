import LoopLang.Lowering.Statement

/-! Trees with bare arms, in which a condition that is all of an arm stands there without a block
around it. -/

namespace LoopLang

namespace Tree

/-- An arm of a branch without its block, if that is all that the block is around: another
branch. -/
def unwrapArm : Tree → Tree
  | blockStatement _ (list [ifStatement place condition consequent alternate]) =>
    ifStatement place condition consequent alternate
  | arm => arm

mutual

/-- A tree with every arm of a branch in it bare, wherever the branch stands. -/
def bareArms : Tree → Tree
  | list items => list (bareItems items)
  | program place body => program place body.bareArms
  | functionDeclaration place id arguments body returnKind =>
    functionDeclaration place id.bareArms arguments.bareArms body.bareArms returnKind
  | variableDeclaration place id init => variableDeclaration place id.bareArms init.bareArms
  | blockStatement place body => blockStatement place body.bareArms
  | returnStatement place argument => returnStatement place argument.bareArms
  | expressionStatement place expression => expressionStatement place expression.bareArms
  -- Only arms are unwrapped; a block elsewhere stays one.
  | ifStatement place condition consequent alternate =>
    ifStatement place condition.bareArms consequent.bareArms.unwrapArm alternate.bareArms.unwrapArm
  | loopStatement place condition body label =>
    loopStatement place condition.bareArms body.bareArms label.bareArms
  | breakStatement place label => breakStatement place label.bareArms
  | continueStatement place label => continueStatement place label.bareArms
  | callExpression place callee arguments => callExpression place callee.bareArms arguments.bareArms
  | binaryExpression place left right operator =>
    binaryExpression place left.bareArms right.bareArms operator
  | assignmentExpression place left right operator =>
    assignmentExpression place left.bareArms right.bareArms operator
  | tree => tree

/-- The items of a list with bare arms. -/
def bareItems : List Tree → List Tree
  | [] => []
  | item :: rest => item.bareArms :: bareItems rest

end

/-- It keeps its place. -/
@[simp] theorem bareArms_place (tree : Tree) : tree.bareArms.place = tree.place := by
  cases tree <;> simp only [bareArms, place]

/-- A tree with bare arms is a node if it was one. -/
@[simp] theorem bareArms_isNode (tree : Tree) : tree.bareArms.isNode = tree.isNode := by
  cases tree <;> simp only [bareArms, isNode]

/-- There are as many items as before. -/
@[simp] theorem bareItems_length : ∀ items : List Tree, (bareItems items).length = items.length
  | [] => rfl
  | _ :: rest => congrArg (· + 1) (bareItems_length rest)

/-- Nothing is settled behind a position that settles nothing. -/
theorem orElseKind_none (settled : Except InferenceError (Option Kind)) :
    orElseKind settled (.ok none) = settled := by
  rcases settled with _ | _ | _ <;> rfl

/-- A block that is all of an arm settles the kind that the branch in it settles. -/
@[simp] theorem unwrapArm_settledKind (scopes : Scopes) (arm : Tree) :
    arm.unwrapArm.settledKind scopes = arm.settledKind scopes := by
  unfold unwrapArm
  split
  · simp [settledKind, settledKindOfItems, isNode, orElseKind_none]
  · rfl

/-- The kind of a position is inferred from the expression in it, whose arms do not matter. -/
@[simp] theorem bareArms_wholeKind (settled : Except InferenceError (Option Kind)) (tree : Tree) :
    wholeKind settled tree.bareArms = wholeKind settled tree := by
  cases tree <;> simp only [bareArms, wholeKind]

/-- A callee is a name, which has no arms. -/
@[simp] theorem bareArms_calleeKind? (scopes : Scopes) (callee : Tree) :
    calleeKind? scopes callee.bareArms = calleeKind? scopes callee := by
  cases callee <;> simp only [bareArms, calleeKind?]

mutual

/-- Bare arms settle the same kinds. -/
theorem bareArms_settledKind (scopes : Scopes) :
    ∀ tree : Tree, tree.bareArms.settledKind scopes = tree.settledKind scopes
  | null | boolean _ | integer _ | real _ | text _ | kindValue _ | node _ | identifier ..
  | numberLiteral .. | booleanLiteral .. => by
    simp only [bareArms]
  | list items => by simp only [bareArms, settledKind, bareItems_settledKind scopes items]
  | callExpression _ callee arguments | binaryExpression _ callee arguments _
  | assignmentExpression _ callee arguments _ | variableDeclaration _ callee arguments => by
    simp only [bareArms, settledKind, bareArms_calleeKind?, bareArms_wholeKind,
      bareArms_settledKind scopes callee, bareArms_settledKind scopes arguments]
  | program _ body | blockStatement _ body | returnStatement _ body | expressionStatement _ body
  | breakStatement _ body
  | continueStatement _ body => by
    simp only [bareArms, settledKind, bareArms_settledKind scopes body]
  -- An arm without its block has the same kind, as neither has one.
  | functionDeclaration _ first second third _ | ifStatement _ first second third
  | loopStatement _ first second third => by
    simp only [bareArms, settledKind, unwrapArm_settledKind, bareArms_settledKind scopes first,
      bareArms_settledKind scopes second, bareArms_settledKind scopes third]

/-- So do the items of a list. -/
theorem bareItems_settledKind (scopes : Scopes) : ∀ items : List Tree,
    settledKindOfItems scopes (bareItems items) = settledKindOfItems scopes items
  | [] => rfl
  | item :: rest => by
    simp only [bareItems, settledKindOfItems, bareArms_isNode, bareArms_settledKind scopes item,
      bareItems_settledKind scopes rest]

end

/-- With bare arms the same kind is inferred. -/
theorem bareArms_infer (scopes : Scopes) (tree : Tree) :
    tree.bareArms.infer scopes = tree.infer scopes := by
  unfold infer
  rw [bareArms_settledKind, bareArms_wholeKind]

open Lowering

/-- So is a label. -/
@[simp] theorem bareArms_labelName? (label : Tree) :
    labelName? label.bareArms = labelName? label := by
  cases label <;> simp only [bareArms, labelName?]

/-- The target of an assignment is an identifier or refused. -/
@[simp] theorem bareArms_resolveTarget (place : Location) (operator : String) (target : Tree) :
    resolveTarget place operator target.bareArms = resolveTarget place operator target := by
  cases target <;> simp only [bareArms, resolveTarget, Tree.place]

/-- So is a callee. -/
@[simp] theorem bareArms_resolveCallee (place : Location) (callee : Tree) :
    resolveCallee place callee.bareArms = resolveCallee place callee := by
  cases callee <;> simp only [bareArms, resolveCallee]

/-- So is a parameter. -/
theorem bareArms_typedName (parameter : Tree) :
    typedName parameter.bareArms = typedName parameter := by
  cases parameter <;> simp only [bareArms, typedName, Tree.place]

/-- Parameters are names, too. -/
theorem bareItems_typedNames : ∀ parameters : List Tree,
    (bareItems parameters).mapM typedName = parameters.mapM typedName
  | [] => rfl
  | parameter :: rest => by
    simp only [bareItems, List.mapM_cons, bareArms_typedName parameter, bareItems_typedNames rest]

/-- With bare arms the same parameters are accepted. -/
@[simp] theorem bareArms_typedNames (parameters : Tree) :
    typedNames parameters.bareArms = typedNames parameters := by
  cases parameters <;> simp only [bareArms, typedNames, bareItems_typedNames, typeName]

mutual

/-- With bare arms an expression is lowered in the same way. -/
theorem bareArms_lowerExpression :
    ∀ tree : Tree, tree.bareArms.lowerExpression = tree.lowerExpression
  | null | boolean _ | integer _ | real _ | text _ | kindValue _ | node _ | identifier ..
  | numberLiteral .. | booleanLiteral .. => by
    simp only [bareArms]
  | assignmentExpression place left right operator => by
    simp only [bareArms, lowerExpression, bareArms_resolveTarget, bareArms_place,
      bareArms_lowerExpression right]
  | callExpression place callee arguments => by
    simp only [bareArms, lowerExpression, bareArms_resolveCallee,
      bareArms_lowerArguments _ _ arguments]
  | binaryExpression place left right operator => by
    simp only [bareArms, lowerExpression, bareArms_place, bareArms_lowerExpression left,
      bareArms_lowerExpression right]
  -- Nothing else is an expression, with bare arms or without.
  | list _ | program .. | blockStatement .. | returnStatement .. | expressionStatement ..
  | breakStatement ..
  | continueStatement .. | variableDeclaration .. | functionDeclaration .. | ifStatement ..
  | loopStatement .. => by
    simp only [bareArms, lowerExpression, typeName, place]

/-- So are arguments. -/
theorem bareArms_lowerArguments (callee : Callee) (place : Location) : ∀ tree : Tree,
    lowerArguments callee place tree.bareArms = lowerArguments callee place tree
  -- There are as many arguments as before, and each is the same.
  | list items => by
    simp only [bareArms, lowerArguments, bareItems_length,
      bareItems_lowerItems callee.name 1 callee.parameters items]
  | null | boolean _ | integer _ | real _ | text _ | kindValue _ | node _ | identifier ..
  | numberLiteral .. | booleanLiteral .. => by
    simp only [bareArms]
  | assignmentExpression .. | callExpression .. | binaryExpression .. | program ..
  | blockStatement .. | returnStatement ..
  | expressionStatement .. | breakStatement .. | continueStatement .. | variableDeclaration ..
  | functionDeclaration .. | ifStatement .. | loopStatement .. => by
    simp only [bareArms, lowerArguments, typeName]

/-- So are the items of a list of arguments. -/
theorem bareItems_lowerItems (callee : String) :
    ∀ (position : Nat) (kinds : List ExactKind) (items : List Tree),
    lowerItems callee position kinds (bareItems items) = lowerItems callee position kinds items
  | _, _, [] => rfl
  | _, [], _ :: _ => by simp only [bareItems, lowerItems]
  | position, _ :: kinds, item :: rest => by
    simp only [bareItems, lowerItems, bareArms_place, bareArms_lowerExpression item,
      bareItems_lowerItems callee (position + 1) kinds rest]

end

/-- With bare arms a value is lowered in the same way. -/
@[simp] theorem bareArms_lowerValue (tree : Tree) : tree.bareArms.lowerValue = tree.lowerValue := by
  simp only [lowerValue, bareArms_place, bareArms_lowerExpression]

/-- So is a condition. -/
@[simp] theorem bareArms_lowerCondition (condition : Tree) :
    lowerCondition condition.bareArms = lowerCondition condition := by
  simp only [lowerCondition, bareArms_lowerValue]

/-- A branch on a condition with bare arms. -/
@[simp] theorem bareArms_lowerChoice (condition : Tree) (consequent : Lowering Unit)
    (alternate : Option (Lowering Unit)) :
    lowerChoice condition.bareArms consequent alternate =
      lowerChoice condition consequent alternate := by
  simp only [lowerChoice, bareArms_lowerCondition]

/-- A loop on a condition with bare arms. -/
@[simp] theorem bareArms_lowerLoop (condition : Tree) (label : Option String)
    (body : Lowering Unit) :
    lowerLoop condition.bareArms label body = lowerLoop condition label body := by
  simp only [lowerLoop, bareArms_lowerCondition]

/-- Parameters with bare arms. -/
@[simp] theorem bareArms_lowerFunction (place : Location) (name arguments result : Tree)
    (body : Lowering Unit) :
    lowerFunction place name arguments.bareArms result body =
      lowerFunction place name arguments result body := by
  simp only [lowerFunction, bareArms_typedNames]

/-- A variable whose value has bare arms. -/
@[simp] theorem bareArms_lowerDeclaration (place : Location) (name stated value : Tree) :
    lowerDeclaration place name stated value.bareArms =
      lowerDeclaration place name stated value := by
  simp only [lowerDeclaration, inferKind, bareArms_infer, bareArms_lowerExpression,
    bareArms_lowerValue]

/-- Of a result that is there, only its value counts. -/
theorem lowerReturn_congr {place : Location} {value other : Tree} (filled : value ≠ null)
    (also : other ≠ null) (lowered : value.lowerExpression = other.lowerExpression)
    (valued : value.lowerValue = other.lowerValue) :
    lowerReturn place value = lowerReturn place other := by
  unfold lowerReturn
  refine congrArg _ (funext fun (function, expected) => ?_)
  dsimp only
  -- A void function lowers the value for its calls only, any other one takes what it stands for.
  cases expected.value? with
  | none => simp only [lowered]
  | some kind => simp only [valued]

/-- A result with bare arms. -/
@[simp] theorem bareArms_lowerReturn (place : Location) (value : Tree) :
    lowerReturn place value.bareArms = lowerReturn place value := by
  by_cases filled : value = null
  · subst filled
    simp only [bareArms]
  -- A tree becomes a null only if it is one.
  · have also : value.bareArms ≠ null := by
      cases value <;> simp_all only [bareArms, ne_eq, not_false_eq_true, reduceCtorEq,
        not_true_eq_false]
    exact lowerReturn_congr also filled (bareArms_lowerExpression value) (bareArms_lowerValue value)

end Tree

end LoopLang
