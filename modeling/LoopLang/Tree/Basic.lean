import LoopLang.Number.Text
import LoopLang.Program.Basic

/-! Trees: programs with anything in any position, as tools may build them by hand. -/

namespace LoopLang

/--
A node of one of the known shapes, or a plain value. Every field of a node may hold any tree, except
that the constructors of literals turn what they are given into a number or a truth value.
-/
inductive Tree
  /-- No value. -/
  | null
  -- Plain values, of which parsed trees have only texts and kinds.
  | boolean (value : Bool)
  | integer (value : Int)
  | real (value : Float)
  | text (value : String)
  | kindValue (kind : Kind)
  | list (items : List Tree)
  /-- A node without a shape. -/
  | node (place : Location)
  -- The fields of a node come in the order in which they are visited.
  | program (place : Location) (body : Tree)
  | functionDeclaration (place : Location) (id arguments body returnKind : Tree)
  | variableDeclaration (place : Location) (id init : Tree)
  | blockStatement (place : Location) (body : Tree)
  | returnStatement (place : Location) (argument : Tree)
  | expressionStatement (place : Location) (expression : Tree)
  | ifStatement (place : Location) (condition consequent alternate : Tree)
  | loopStatement (place : Location) (condition body label : Tree)
  | breakStatement (place : Location) (label : Tree)
  | continueStatement (place : Location) (label : Tree)
  | callExpression (place : Location) (callee arguments : Tree)
  | binaryExpression (place : Location) (left right operator : Tree)
  | assignmentExpression (place : Location) (left right operator : Tree)
  | identifier (place : Location) (name kind : Tree)
  | numberLiteral (place : Location) (value : Numeral)
  | booleanLiteral (place : Location) (value : Bool)
  deriving Repr, Inhabited

namespace Tree

/-- The name of a shape or of a sort of plain values, as messages give it. -/
def typeName : Tree → String
  | null => "NoneType"
  | boolean _ => "bool"
  | integer _ => "int"
  | real _ => "float"
  | text _ => "str"
  | kindValue kind => kind.typeName
  | list _ => "list"
  | node _ => "Node"
  | program .. => "Program"
  | functionDeclaration .. => "FunctionDeclaration"
  | variableDeclaration .. => "VariableDeclaration"
  | blockStatement .. => "BlockStatement"
  | returnStatement .. => "ReturnStatement"
  | expressionStatement .. => "ExpressionStatement"
  | ifStatement .. => "IfStatement"
  | loopStatement .. => "LoopStatement"
  | breakStatement .. => "BreakStatement"
  | continueStatement .. => "ContinueStatement"
  | callExpression .. => "CallExpression"
  | binaryExpression .. => "BinaryExpression"
  | assignmentExpression .. => "AssignmentExpression"
  | identifier .. => "Identifier"
  | numberLiteral .. => "NumberLiteral"
  | booleanLiteral .. => "BooleanLiteral"

/-- The place of a node; plain values stand nowhere. -/
def place : Tree → Location
  | null | boolean _ | integer _ | real _ | text _ | kindValue _ | list _ => .unknown
  | node place => place
  | program place _ => place
  | functionDeclaration place _ _ _ _ => place
  | variableDeclaration place _ _ => place
  | blockStatement place _ => place
  | returnStatement place _ => place
  | expressionStatement place _ => place
  | ifStatement place _ _ _ => place
  | loopStatement place _ _ _ => place
  | breakStatement place _ => place
  | continueStatement place _ => place
  | callExpression place _ _ => place
  | binaryExpression place _ _ _ => place
  | assignmentExpression place _ _ _ => place
  | identifier place _ _ => place
  | numberLiteral place _ => place
  | booleanLiteral place _ => place

/-- Whether a tree is a node and no plain value. -/
def isNode : Tree → Bool
  | null | boolean _ | integer _ | real _ | text _ | kindValue _ | list _ => false
  | _ => true

/-- What the fields of a node hold, in the order in which its shape lists them. -/
def positions : Tree → List Tree
  -- In the order of the fields; for a loop the label comes last.
  | null | boolean _ | integer _ | real _ | text _ | kindValue _ | list _ | node _ => []
  | program _ body => [body]
  | functionDeclaration _ id arguments body returnKind => [id, arguments, body, returnKind]
  | variableDeclaration _ id init => [id, init]
  | blockStatement _ body => [body]
  | returnStatement _ argument => [argument]
  | expressionStatement _ expression => [expression]
  | ifStatement _ condition consequent alternate => [condition, consequent, alternate]
  | loopStatement _ condition body label => [condition, body, label]
  | breakStatement _ label => [label]
  | continueStatement _ label => [label]
  | callExpression _ callee arguments => [callee, arguments]
  | binaryExpression _ left right operator => [left, right, operator]
  | assignmentExpression _ left right operator => [left, right, operator]
  | identifier _ name kind => [name, kind]
  | numberLiteral _ value => [real value.value]
  | booleanLiteral _ value => [boolean value]

/-- The nodes that stand in one position: a node itself, or the nodes among the items of a list. -/
def nodesIn : Tree → List Tree
  | list items => items.filter isNode
  | tree => if tree.isNode then [tree] else []

/-- The nodes directly below a node, in the order of its fields. -/
def children (tree : Tree) : List Tree := tree.positions.flatMap nodesIn

end Tree

/-- A name as a tree; in expressions its kind is still to be inferred. -/
def Identifier.toTree (identifier : Identifier) (kind : Kind) : Tree :=
  .identifier identifier.place (.text identifier.name) (.kindValue kind)

/-- A label as a tree. -/
def labelTree : Option Identifier → Tree
  | some label => label.toTree .infer
  | none => .null

mutual

/-- An expression as a tree. -/
def Expression.toTree : Expression → Tree
  | .number place value => .numberLiteral place (.ofFloat value)
  | .boolean place value => .booleanLiteral place value
  | .identifier place name => .identifier place (.text name) (.kindValue .infer)
  | .call place callee arguments =>
    .callExpression place (callee.toTree .infer) (.list (Expression.toTrees arguments))
  | .binary place operator left right =>
    .binaryExpression place left.toTree right.toTree (.text operator.sign)
  | .assign place target value =>
    .assignmentExpression place (target.toTree .infer) value.toTree (.text "=")

/-- Expressions as trees. -/
def Expression.toTrees : List Expression → List Tree
  | [] => []
  | expression :: rest => expression.toTree :: Expression.toTrees rest

end

/-- A parameter as a tree. -/
def Parameter.toTree (parameter : Parameter) : Tree :=
  .identifier parameter.place (.text parameter.name) (.kindValue (.exact parameter.kind.exact))

/-- What the tree of a variable says about its kind. -/
def statedKind : Option ValueKind → Kind
  | some kind => .exact kind.exact
  | none => .infer

mutual

/-- A statement as a tree. -/
def Statement.toTree : Statement → Tree
  | .function place name parameters bodyPlace body result =>
    .functionDeclaration place (name.toTree .infer) (.list (parameters.map Parameter.toTree))
      (.blockStatement bodyPlace (.list (Statement.toTrees body))) (.kindValue (.exact result))
  | .declare place name stated value =>
    .variableDeclaration place (name.toTree (statedKind stated)) value.toTree
  | .block place body => .blockStatement place (.list (Statement.toTrees body))
  | .return place none => .returnStatement place .null
  | .return place (some value) => .returnStatement place value.toTree
  | .when place condition thenPlace thenBody =>
    .ifStatement place condition.toTree
      (.blockStatement thenPlace (.list (Statement.toTrees thenBody))) .null
  | .choose place condition thenPlace thenBody elsePlace elseBody =>
    .ifStatement place condition.toTree
      (.blockStatement thenPlace (.list (Statement.toTrees thenBody)))
      (.blockStatement elsePlace (.list (Statement.toTrees elseBody)))
  | .loop place condition bodyPlace body label =>
    .loopStatement place condition.toTree
      (.blockStatement bodyPlace (.list (Statement.toTrees body))) (labelTree label)
  | .break place label => .breakStatement place (labelTree label)
  | .continue place label => .continueStatement place (labelTree label)
  -- The statement stands where its expression does.
  | .evaluate value => .expressionStatement value.place value.toTree

/-- Statements as trees. -/
def Statement.toTrees : List Statement → List Tree
  | [] => []
  | statement :: rest => statement.toTree :: Statement.toTrees rest

end

/-- A program as a tree. -/
def Program.toTree (program : Program) : Tree :=
  .program .start (.list (Statement.toTrees program.body))

end LoopLang
