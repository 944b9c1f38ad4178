import LoopLang.Tree.Basic

/-! Walking a tree in pre-order, until a visitor has seen enough. -/

namespace LoopLang

namespace Tree

mutual

/-- The nodes that stand in one position, each followed by the nodes below it. -/
def preorder : Tree → List Tree
  | null | boolean _ | integer _ | real _ | text _ | kindValue _ => []
  | list items => preorderItems items
  -- A node comes before everything in its fields.
  | tree@(node _) => [tree]
  | tree@(program _ body) => tree :: preorder body
  | tree@(functionDeclaration _ id arguments body returnKind) =>
    tree :: (preorder id ++ preorder arguments ++ preorder body ++ preorder returnKind)
  | tree@(variableDeclaration _ id init) => tree :: (preorder id ++ preorder init)
  | tree@(blockStatement _ body) => tree :: preorder body
  | tree@(returnStatement _ argument) => tree :: preorder argument
  | tree@(expressionStatement _ expression) => tree :: preorder expression
  | tree@(ifStatement _ condition consequent alternate) =>
    tree :: (preorder condition ++ preorder consequent ++ preorder alternate)
  | tree@(loopStatement _ condition body label) =>
    tree :: (preorder condition ++ preorder body ++ preorder label)
  | tree@(breakStatement _ label) => tree :: preorder label
  | tree@(continueStatement _ label) => tree :: preorder label
  | tree@(callExpression _ callee arguments) => tree :: (preorder callee ++ preorder arguments)
  | tree@(binaryExpression _ left right operator) =>
    tree :: (preorder left ++ preorder right ++ preorder operator)
  | tree@(assignmentExpression _ left right operator) =>
    tree :: (preorder left ++ preorder right ++ preorder operator)
  | tree@(identifier _ name kind) => tree :: (preorder name ++ preorder kind)
  | tree@(numberLiteral _ _) => [tree]
  | tree@(booleanLiteral _ _) => [tree]

/-- The nodes among the items of a list with the nodes below them; a list inside a list holds
none. -/
def preorderItems : List Tree → List Tree
  | [] => []
  | item :: rest => (if item.isNode then preorder item else []) ++ preorderItems rest

end

/-- A visitor sees a node, changes its state, and says whether it has seen enough. -/
abbrev Visitor (σ : Type) := σ → Tree → σ × Bool

/-- A walk in progress: the visitor's state, and whether the visitor has stopped it. -/
abbrev Walk (σ : Type) := σ × Bool

/-- Visits one node, unless the walk is stopped. -/
def visit {σ : Type} (visitor : Visitor σ) (tree : Tree) (walk : Walk σ) : Walk σ :=
  if walk.2 then walk else visitor walk.1 tree

mutual

/-- Walks over what stands in one position; once stopped, the walk passes over everything. -/
def walkField {σ : Type} (visitor : Visitor σ) : Tree → Walk σ → Walk σ
  -- Values are passed over, lists are walked through.
  | null, walk | boolean _, walk | integer _, walk | real _, walk | text _, walk
  | kindValue _, walk => walk
  | list items, walk => walkItems visitor items walk
  | tree@(node _), walk => visit visitor tree walk
  | tree@(program _ body), walk => walkField visitor body (visit visitor tree walk)
  | tree@(functionDeclaration _ id arguments body returnKind), walk =>
    walkField visitor returnKind
      (walkField visitor body
        (walkField visitor arguments (walkField visitor id (visit visitor tree walk))))
  | tree@(variableDeclaration _ id init), walk =>
    walkField visitor init (walkField visitor id (visit visitor tree walk))
  | tree@(blockStatement _ body), walk => walkField visitor body (visit visitor tree walk)
  | tree@(returnStatement _ argument), walk => walkField visitor argument (visit visitor tree walk)
  | tree@(expressionStatement _ expression), walk =>
    walkField visitor expression (visit visitor tree walk)
  | tree@(ifStatement _ condition consequent alternate), walk =>
    walkField visitor alternate
      (walkField visitor consequent (walkField visitor condition (visit visitor tree walk)))
  | tree@(loopStatement _ condition body label), walk =>
    walkField visitor label
      (walkField visitor body (walkField visitor condition (visit visitor tree walk)))
  | tree@(breakStatement _ label), walk => walkField visitor label (visit visitor tree walk)
  | tree@(continueStatement _ label), walk => walkField visitor label (visit visitor tree walk)
  | tree@(callExpression _ callee arguments), walk =>
    walkField visitor arguments (walkField visitor callee (visit visitor tree walk))
  | tree@(binaryExpression _ left right operator), walk =>
    walkField visitor operator
      (walkField visitor right (walkField visitor left (visit visitor tree walk)))
  | tree@(assignmentExpression _ left right operator), walk =>
    walkField visitor operator
      (walkField visitor right (walkField visitor left (visit visitor tree walk)))
  | tree@(identifier _ name kind), walk =>
    walkField visitor kind (walkField visitor name (visit visitor tree walk))
  | tree@(numberLiteral _ _), walk => visit visitor tree walk
  | tree@(booleanLiteral _ _), walk => visit visitor tree walk

/-- Walks over the nodes among the items of a list. -/
def walkItems {σ : Type} (visitor : Visitor σ) : List Tree → Walk σ → Walk σ
  | [], walk => walk
  | item :: rest, walk =>
    walkItems visitor rest (if item.isNode then walkField visitor item walk else walk)

end

/--
Walks over a whole tree: nothing where there is no tree.
A plain value can be visited, but a walk that goes on from it fails, for it has no positions.
-/
def walk? {σ : Type} (visitor : Visitor σ) (start : σ) (tree : Tree) : Option (Walk σ) :=
  match tree with
  | null => some (start, false)
  | tree =>
    if tree.isNode then some (walkField visitor tree (start, false))
    else
      let walk := visitor start tree
      if walk.2 then some walk else none

end Tree

end LoopLang
