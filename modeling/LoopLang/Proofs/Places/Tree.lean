import LoopLang.Scope.Inference

/-! Programs and trees without their places, and what does not depend on places: shapes and inferred
kinds. -/

namespace LoopLang

/-- A name without its place. -/
def Identifier.unplaced (identifier : Identifier) : Identifier :=
  { identifier with place := .unknown }

/-- A parameter without its place. -/
def Parameter.unplaced (parameter : Parameter) : Parameter := { parameter with place := .unknown }

mutual

/-- An expression without its places. -/
def Expression.unplaced : Expression → Expression
  | .number _ value => .number .unknown value
  | .boolean _ value => .boolean .unknown value
  | .identifier _ name => .identifier .unknown name
  | .call _ callee arguments => .call .unknown callee.unplaced (Expression.unplacedAll arguments)
  | .binary _ operator left right => .binary .unknown operator left.unplaced right.unplaced
  | .assign _ target value => .assign .unknown target.unplaced value.unplaced

/-- Expressions without their places. -/
def Expression.unplacedAll : List Expression → List Expression
  | [] => []
  | expression :: rest => expression.unplaced :: Expression.unplacedAll rest

end

mutual

/-- A statement without its places. -/
def Statement.unplaced : Statement → Statement
  -- Blocks have a place of their own beside that of the statement.
  | .function _ name parameters _ body result =>
    .function .unknown name.unplaced (parameters.map Parameter.unplaced) .unknown
      (Statement.unplacedAll body) result
  | .declare _ name stated value => .declare .unknown name.unplaced stated value.unplaced
  | .block _ body => .block .unknown (Statement.unplacedAll body)
  | .return _ value => .return .unknown (value.map Expression.unplaced)
  | .when _ condition _ thenBody =>
    .when .unknown condition.unplaced .unknown (Statement.unplacedAll thenBody)
  | .choose _ condition _ thenBody _ elseBody =>
    .choose .unknown condition.unplaced .unknown (Statement.unplacedAll thenBody) .unknown
      (Statement.unplacedAll elseBody)
  | .loop _ condition _ body label =>
    .loop .unknown condition.unplaced .unknown (Statement.unplacedAll body)
      (label.map Identifier.unplaced)
  | .break _ label => .break .unknown (label.map Identifier.unplaced)
  | .continue _ label => .continue .unknown (label.map Identifier.unplaced)
  | .evaluate value => .evaluate value.unplaced

/-- Statements without their places. -/
def Statement.unplacedAll : List Statement → List Statement
  | [] => []
  | statement :: rest => statement.unplaced :: Statement.unplacedAll rest

end

/-- A program without its places. -/
def Program.unplaced (program : Program) : Program := ⟨Statement.unplacedAll program.body⟩

mutual

/-- A tree without its places. -/
def Tree.unplaced : Tree → Tree
  | .null => .null
  | .boolean value => .boolean value
  | .integer value => .integer value
  | .real value => .real value
  | .text value => .text value
  | .kindValue kind => .kindValue kind
  -- Lists have no place, but what is in them has.
  | .list items => .list (Tree.unplacedAll items)
  | .node _ => .node .unknown
  | .program _ body => .program .unknown body.unplaced
  | .functionDeclaration _ id arguments body result =>
    .functionDeclaration .unknown id.unplaced arguments.unplaced body.unplaced result.unplaced
  | .variableDeclaration _ id init => .variableDeclaration .unknown id.unplaced init.unplaced
  | .blockStatement _ body => .blockStatement .unknown body.unplaced
  | .returnStatement _ argument => .returnStatement .unknown argument.unplaced
  | .expressionStatement _ expression => .expressionStatement .unknown expression.unplaced
  | .ifStatement _ condition consequent alternate =>
    .ifStatement .unknown condition.unplaced consequent.unplaced alternate.unplaced
  | .loopStatement _ condition body label =>
    .loopStatement .unknown condition.unplaced body.unplaced label.unplaced
  | .breakStatement _ label => .breakStatement .unknown label.unplaced
  | .continueStatement _ label => .continueStatement .unknown label.unplaced
  | .callExpression _ callee arguments =>
    .callExpression .unknown callee.unplaced arguments.unplaced
  | .binaryExpression _ left right operator =>
    .binaryExpression .unknown left.unplaced right.unplaced operator.unplaced
  | .assignmentExpression _ left right operator =>
    .assignmentExpression .unknown left.unplaced right.unplaced operator.unplaced
  | .identifier _ name kind => .identifier .unknown name.unplaced kind.unplaced
  | .numberLiteral _ value => .numberLiteral .unknown value
  | .booleanLiteral _ value => .booleanLiteral .unknown value
termination_by structural tree => tree

/-- Trees without their places. -/
def Tree.unplacedAll : List Tree → List Tree
  | [] => []
  | tree :: rest => tree.unplaced :: Tree.unplacedAll rest
termination_by structural trees => trees

end

/-- Another expression behind some. -/
theorem Expression.unplacedAll_append (expressions : List Expression) (last : Expression) :
    Expression.unplacedAll (expressions ++ [last]) = Expression.unplacedAll expressions ++
      [last.unplaced] := by
  induction expressions with
  | nil => rfl
  | cons expression rest same => exact congrArg (expression.unplaced :: ·) same

/-- Another statement behind some. -/
theorem Statement.unplacedAll_append (statements : List Statement) (last : Statement) :
    Statement.unplacedAll (statements ++ [last]) = Statement.unplacedAll statements ++
      [last.unplaced] := by
  induction statements with
  | nil => rfl
  | cons statement rest same => exact congrArg (statement.unplaced :: ·) same

/-- Forgetting the places of several trees is forgetting those of each. -/
@[simp] theorem Tree.unplacedAll_eq_map (trees : List Tree) :
    Tree.unplacedAll trees = trees.map Tree.unplaced := by
  induction trees with
  | nil => rfl
  | cons tree rest same => simp only [Tree.unplacedAll, same, List.map_cons]

/-- Nothing without places stands anywhere. -/
@[simp] theorem Expression.unplaced_place (expression : Expression) :
    expression.unplaced.place = .unknown := by
  cases expression <;> rfl

/-! The tree of a program without places. -/

/-- The tree of a label without its place. -/
theorem labelTree_unplaced (label : Option Identifier) :
    labelTree (label.map Identifier.unplaced) = (labelTree label).unplaced := by
  cases label <;> rfl

mutual

/-- The tree of an expression without places. -/
theorem Expression.toTree_unplaced (expression : Expression) :
    expression.unplaced.toTree = expression.toTree.unplaced := by
  -- The tree of an expression has the places of the expression, and no others.
  cases expression with
  | number | boolean | identifier => rfl
  | call place callee arguments =>
    simp only [Expression.unplaced, Expression.toTree, Tree.unplaced,
      Expression.toTrees_unplaced arguments]
    rfl
  | binary place operator left right =>
    simp only [Expression.unplaced, Expression.toTree, Tree.unplaced, left.toTree_unplaced,
      right.toTree_unplaced]
  | assign place target value =>
    simp only [Expression.unplaced, Expression.toTree, Tree.unplaced, value.toTree_unplaced]
    rfl

/-- The trees of expressions without places. -/
theorem Expression.toTrees_unplaced (expressions : List Expression) :
    Expression.toTrees (Expression.unplacedAll expressions) = Tree.unplacedAll
      (Expression.toTrees expressions) := by
  cases expressions with
  | nil => rfl
  | cons expression rest =>
    simp only [Expression.unplacedAll, Expression.toTrees, Tree.unplacedAll,
      expression.toTree_unplaced, Expression.toTrees_unplaced rest]

end

/-- The trees of parameters without places. -/
theorem parameterTrees_unplaced (parameters : List Parameter) :
    (parameters.map Parameter.unplaced).map Parameter.toTree =
      Tree.unplacedAll (parameters.map Parameter.toTree) := by
  induction parameters with
  | nil => rfl
  | cons parameter rest same => simp only [List.map_cons, same, Tree.unplacedAll]; rfl

mutual

/-- The tree of a statement without places. -/
theorem Statement.toTree_unplaced (statement : Statement) :
    statement.unplaced.toTree = statement.toTree.unplaced := by
  -- Each statement gives up its own place, and its parts give up theirs.
  cases statement with
  | function place name parameters bodyPlace body result =>
    simp only [Statement.unplaced, Statement.toTree, Tree.unplaced, parameterTrees_unplaced,
      Statement.toTrees_unplaced body]
    rfl
  | declare place name stated value =>
    simp only [Statement.unplaced, Statement.toTree, Tree.unplaced, value.toTree_unplaced]
    rfl
  | block place body =>
    simp only [Statement.unplaced, Statement.toTree, Tree.unplaced, Statement.toTrees_unplaced body]
  | «return» place value =>
    cases value with
    | none => rfl
    | some value =>
      simp only [Statement.unplaced, Option.map_some, Statement.toTree, Tree.unplaced,
        value.toTree_unplaced]
  | «when» place condition thenPlace thenBody =>
    simp only [Statement.unplaced, Statement.toTree, Tree.unplaced, condition.toTree_unplaced,
      Statement.toTrees_unplaced thenBody]
  | choose place condition thenPlace thenBody elsePlace elseBody =>
    simp only [Statement.unplaced, Statement.toTree, Tree.unplaced, condition.toTree_unplaced,
      Statement.toTrees_unplaced thenBody, Statement.toTrees_unplaced elseBody]
  | loop place condition bodyPlace body label =>
    simp only [Statement.unplaced, Statement.toTree, Tree.unplaced, condition.toTree_unplaced,
      Statement.toTrees_unplaced body, labelTree_unplaced]
  | «break» place label | «continue» place label =>
    simp only [Statement.unplaced, Statement.toTree, Tree.unplaced, labelTree_unplaced]
  | evaluate value =>
    -- The node of an expression on its own stands where the expression does.
    simp only [Statement.unplaced, Statement.toTree, Tree.unplaced, value.toTree_unplaced,
      Expression.unplaced_place]

/-- The trees of statements without places. -/
theorem Statement.toTrees_unplaced (statements : List Statement) :
    Statement.toTrees (Statement.unplacedAll statements) = Tree.unplacedAll
      (Statement.toTrees statements) := by
  cases statements with
  | nil => rfl
  | cons statement rest =>
    simp only [Statement.unplacedAll, Statement.toTrees, Tree.unplacedAll,
      statement.toTree_unplaced, Statement.toTrees_unplaced rest]

end

/-- Programs that differ in places only have trees that differ in places only. -/
theorem Program.toTree_unplaced {first second : Program} (same : first.unplaced = second.unplaced) :
    first.toTree.unplaced = second.toTree.unplaced := by
  have bodies : Statement.unplacedAll first.body = Statement.unplacedAll second.body :=
    congrArg Program.body same
  simp only [Program.toTree, Tree.unplaced, ← Statement.toTrees_unplaced, bodies]

namespace Tree

/-! What the code builder asks a tree does not depend on places. -/

/-- A node stays a node. -/
@[simp] theorem unplaced_isNode (tree : Tree) : tree.unplaced.isNode = tree.isNode := by
  cases tree <;> rfl

/-- It is of the same shape. -/
@[simp] theorem unplaced_typeName (tree : Tree) : tree.unplaced.typeName = tree.typeName := by
  cases tree <;> rfl

mutual

/-- On one line no places are shown. -/
@[simp] theorem unplaced_display : ∀ tree : Tree, tree.unplaced.display = tree.display
  | null | boolean _ | integer _ | real _ | text _ | kindValue _ | node _ | numberLiteral ..
  | booleanLiteral .. => rfl
  -- What is displayed of a node is its name and its fields, never its place.
  | list items => by simp only [unplaced, display, unplacedAll_displays items]
  | program _ body | blockStatement _ body | returnStatement _ body | expressionStatement _ body
  | breakStatement _ body | continueStatement _ body => by
    simp only [unplaced, display, displayNode, typeName, unplaced_display body]
  | variableDeclaration _ first second | callExpression _ first second
  | identifier _ first second => by
    simp only [unplaced, display, displayNode, typeName, unplaced_display first,
      unplaced_display second]
  | ifStatement _ first second third | loopStatement _ first second third
  | binaryExpression _ first second third | assignmentExpression _ first second third => by
    simp only [unplaced, display, displayNode, typeName, unplaced_display first,
      unplaced_display second, unplaced_display third]
  | functionDeclaration _ id arguments body result => by
    simp only [unplaced, display, displayNode, typeName, unplaced_display id,
      unplaced_display arguments, unplaced_display body, unplaced_display result]

/-- Nor are they for the items of a list. -/
theorem unplacedAll_displays : ∀ items : List Tree, displays (unplacedAll items) = displays items
  | [] => rfl
  | item :: rest => by
    simp only [unplacedAll, displays, unplaced_display item, unplacedAll_displays rest]

end

/-- So a tree that stands for a name shows the same name. -/
@[simp] theorem unplaced_shown (name : Tree) : name.unplaced.shown = name.shown := by
  cases name with
  | text => rfl
  | _ => exact unplaced_display _

/-- It is bound to the same. -/
@[simp] theorem boundTo_unplaced (scopes : Scopes) (name : Tree) :
    boundTo scopes name.unplaced = boundTo scopes name := by
  cases name with
  | list => rfl
  | _ => exact congrArg (fun shown => Except.ok (scopes.lookup shown)) (unplaced_shown _)

/-- An identifier settles the same kind. -/
theorem identifierKind?_unplaced (scopes : Scopes) (name kind : Tree) :
    identifierKind? scopes name.unplaced kind.unplaced = identifierKind? scopes name kind := by
  cases kind <;> simp only [unplaced, identifierKind?, boundTo_unplaced]

/-- A callee settles the same kind. -/
theorem calleeKind?_unplaced (scopes : Scopes) (callee : Tree) :
    calleeKind? scopes callee.unplaced = calleeKind? scopes callee := by
  cases callee <;> simp only [unplaced, calleeKind?, boundTo_unplaced]

/-- A whole expression has the same kind. -/
theorem wholeKind_unplaced (settled : Except InferenceError (Option Kind)) (tree : Tree) :
    wholeKind settled tree.unplaced = wholeKind settled tree := by
  cases tree <;> rfl

/-- The nodes of a tree and of its items settle the same kind: inference asks nothing about
places. -/
theorem settledKind_unplaced_all (scopes : Scopes) :
    (∀ tree : Tree, settledKind scopes tree.unplaced = settledKind scopes tree) ∧
      ∀ trees : List Tree, settledKindOfItems scopes
        (unplacedAll trees) = settledKindOfItems scopes trees := by
  -- The induction is the recursion of the inference, through trees and the items of lists in them.
  apply settledKind.mutual_induct
    (fun tree => settledKind scopes tree.unplaced = settledKind scopes tree)
    (fun trees => settledKindOfItems scopes (unplacedAll trees) = settledKindOfItems scopes trees)
  all_goals intros
  all_goals simp only [unplaced, unplacedAll, settledKind, settledKindOfItems, calleeKind?_unplaced,
    identifierKind?_unplaced, wholeKind_unplaced, unplaced_isNode, *]

/-- The kind of an expression does not depend on places. -/
theorem infer_unplaced (scopes : Scopes) (tree : Tree) :
    tree.unplaced.infer scopes = tree.infer scopes := by
  simp only [infer, wholeKind_unplaced, (settledKind_unplaced_all scopes).1]

end Tree

end LoopLang
