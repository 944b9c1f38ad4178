import LoopLang.Document.Basic
import LoopLang.Tree.Basic

/-! Trees as documents, and trees displayed on one line. -/

namespace LoopLang

namespace Tree

/-- The object of a node: its shape, its positions, and its place if that is known. -/
def nodeDocument (tree : Tree) (positions : List (String × Document)) : Document :=
  let place :=
    if tree.place.isKnown then
      [("loc", .object [("line", .integer tree.place.line),
        ("column", .integer tree.place.column)])]
    else []
  .object (("type", .text tree.typeName) :: (positions ++ place))

mutual

/-- A tree as a document. -/
def document : Tree → Document
  | null => .null
  | boolean value => .boolean value
  | integer value => .integer value
  | real value => .number value
  | text value => .text value
  | kindValue kind => .text kind.word
  | list items => .list (documents items)
  -- Members come in the order in which they are written.
  | tree@(node _) => tree.nodeDocument []
  | tree@(program _ body) => tree.nodeDocument [("body", body.document)]
  | tree@(functionDeclaration _ id arguments body returnKind) =>
    tree.nodeDocument [("id", id.document), ("arguments", arguments.document),
      ("body", body.document), ("return_kind", returnKind.document)]
  | tree@(variableDeclaration _ id init) =>
    tree.nodeDocument [("id", id.document), ("init", init.document)]
  | tree@(blockStatement _ body) => tree.nodeDocument [("body", body.document)]
  | tree@(returnStatement _ argument) => tree.nodeDocument [("argument", argument.document)]
  | tree@(expressionStatement _ expression) =>
    tree.nodeDocument [("expression", expression.document)]
  | tree@(ifStatement _ condition consequent alternate) =>
    tree.nodeDocument [("condition", condition.document), ("consequent", consequent.document),
      ("alternate", alternate.document)]
  | tree@(loopStatement _ condition body label) =>
    tree.nodeDocument [("condition", condition.document), ("body", body.document),
      ("label", label.document)]
  | tree@(breakStatement _ label) => tree.nodeDocument [("label", label.document)]
  | tree@(continueStatement _ label) => tree.nodeDocument [("label", label.document)]
  | tree@(callExpression _ callee arguments) =>
    tree.nodeDocument [("callee", callee.document), ("arguments", arguments.document)]
  | tree@(binaryExpression _ left right operator) =>
    tree.nodeDocument [("left", left.document), ("right", right.document),
      ("operator", operator.document)]
  | tree@(assignmentExpression _ left right operator) =>
    tree.nodeDocument [("left", left.document), ("right", right.document),
      ("operator", operator.document)]
  | tree@(identifier _ name kind) =>
    tree.nodeDocument [("name", name.document), ("kind", kind.document)]
  | tree@(numberLiteral _ value) => tree.nodeDocument [("value", .number value.value)]
  | tree@(booleanLiteral _ value) => tree.nodeDocument [("value", .boolean value)]

/-- Trees as documents. -/
def documents : List Tree → List Document
  | [] => []
  | tree :: rest => tree.document :: documents rest

end

/-- A node on one line: its shape with its positions in parentheses. -/
def displayNode (tree : Tree) (positions : List (String × String)) : String :=
  let shown := positions.map fun (name, shown) => name ++ "=" ++ shown
  tree.typeName ++ "(" ++ ", ".intercalate shown ++ ")"

mutual

/-- A tree on one line, without places. -/
def display : Tree → String
  | null => "None"
  | boolean value => displayBoolean value
  | integer value => toString value
  | real value => displayNumber value
  | text value => quoted value
  | kindValue kind => kind.word
  | list items => "[" ++ ", ".intercalate (displays items) ++ "]"
  -- Fields are displayed with their names.
  | tree@(node _) => tree.displayNode []
  | tree@(program _ body) => tree.displayNode [("body", body.display)]
  | tree@(functionDeclaration _ id arguments body returnKind) =>
    tree.displayNode [("id", id.display), ("arguments", arguments.display),
      ("body", body.display), ("return_kind", returnKind.display)]
  | tree@(variableDeclaration _ id init) =>
    tree.displayNode [("id", id.display), ("init", init.display)]
  | tree@(blockStatement _ body) => tree.displayNode [("body", body.display)]
  | tree@(returnStatement _ argument) => tree.displayNode [("argument", argument.display)]
  | tree@(expressionStatement _ expression) => tree.displayNode [("expression", expression.display)]
  | tree@(ifStatement _ condition consequent alternate) =>
    tree.displayNode [("condition", condition.display), ("consequent", consequent.display),
      ("alternate", alternate.display)]
  | tree@(loopStatement _ condition body label) =>
    tree.displayNode [("condition", condition.display), ("body", body.display),
      ("label", label.display)]
  | tree@(breakStatement _ label) => tree.displayNode [("label", label.display)]
  | tree@(continueStatement _ label) => tree.displayNode [("label", label.display)]
  | tree@(callExpression _ callee arguments) =>
    tree.displayNode [("callee", callee.display), ("arguments", arguments.display)]
  | tree@(binaryExpression _ left right operator) =>
    tree.displayNode [("left", left.display), ("right", right.display),
      ("operator", operator.display)]
  | tree@(assignmentExpression _ left right operator) =>
    tree.displayNode [("left", left.display), ("right", right.display),
      ("operator", operator.display)]
  | tree@(identifier _ name kind) =>
    tree.displayNode [("name", name.display), ("kind", kind.display)]
  | tree@(numberLiteral _ value) => tree.displayNode [("value", displayNumber value.value)]
  | tree@(booleanLiteral _ value) => tree.displayNode [("value", displayBoolean value)]

/-- Trees on one line each. -/
def displays : List Tree → List String
  | [] => []
  | tree :: rest => tree.display :: displays rest

end

/-- A tree as it stands inside messages and in place of a name: a text as it is. -/
def shown : Tree → String
  | text value => value
  | tree => tree.display

/-- A text is shown as it stands. -/
@[simp]
theorem shown_text (value : String) : (text value).shown = value := rfl

end Tree

end LoopLang
