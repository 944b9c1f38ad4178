import LoopLang.Scope.Stack
import LoopLang.Tree.Document

/-! Inferring the kind of an expression from what its names are bound to, without any effect. -/

namespace LoopLang

/-- Why inference fails on a tree that no program has. -/
inductive InferenceError
  /-- A plain value stands where an expression should. -/
  | notANode
  /-- An identifier carries something else than a kind. -/
  | notAKind
  /-- A list stands where a name should, and nothing is known by a list. -/
  | notAName (found : String)
  deriving DecidableEq, Repr

namespace Tree

/-- What a name is bound to; open frames cannot be asked for a list. -/
def boundTo (scopes : Scopes) (name : Tree) : Except InferenceError (Option Binding) :=
  match name with
  | list _ => if scopes.depth = 0 then .ok none else .error (.notAName name.typeName)
  | name => .ok (scopes.lookup name.shown)

/-- A text is bound to what its name is. -/
@[simp]
theorem boundTo_text (scopes : Scopes) (name : String) :
    boundTo scopes (text name) = .ok (scopes.lookup name) := rfl

/-- The kind that an identifier settles: the one it carries, else that of the variable it names. -/
def identifierKind? (scopes : Scopes) (name kind : Tree) : Except InferenceError (Option Kind) :=
  match kind with
  | kindValue kind =>
    if kind.isExact then .ok (some kind)
    else
      (boundTo scopes name).map fun
        | some (.var kind _) => some (.exact kind)
        | _ => none
  | _ => .error .notAKind

/-- The kind that a call settles: the result of the function that its callee names. -/
def calleeKind? (scopes : Scopes) : Tree → Except InferenceError (Option Kind)
  | identifier _ name _ =>
    (boundTo scopes name).map fun
      | some (.fn _ result _) => some result
      | _ => none
  | _ => .ok none

/-- The first kind that is settled, looking at the second position only if the first settles
none. -/
def orElseKind (first second : Except InferenceError (Option Kind)) :
    Except InferenceError (Option Kind) :=
  match first with
  | .ok none => second
  | settled => settled

/-- The kind of a whole expression, given what the nodes in its position settle, if they do. -/
def wholeKind (settled : Except InferenceError (Option Kind)) : Tree → Except InferenceError Kind
  | null => .ok .none
  | boolean _ | integer _ | real _ | text _ | kindValue _ | list _ => .error .notANode
  | _ => settled.map fun kind => kind.getD .none

mutual

/--
The kind that the nodes in one position settle, in pre-order: literals and known names settle their
own kind, operations and assignments that of their left side.
-/
def settledKind (scopes : Scopes) : Tree → Except InferenceError (Option Kind)
  -- Values and empty nodes say nothing of a kind.
  | null | boolean _ | integer _ | real _ | text _ | kindValue _ | node _ => .ok none
  | list items => settledKindOfItems scopes items
  | callExpression _ callee arguments =>
    orElseKind (calleeKind? scopes callee)
      (orElseKind (settledKind scopes callee) (settledKind scopes arguments))
  | binaryExpression _ left _ _ | assignmentExpression _ left _ _ =>
    -- A left side is inferred on its own and settles the operation in any case.
    (wholeKind (settledKind scopes left) left).map some
  | identifier _ name kind =>
    orElseKind (identifierKind? scopes name kind)
      (orElseKind (settledKind scopes name) (settledKind scopes kind))
  | numberLiteral .. => .ok (some (.exact .num))
  | booleanLiteral .. => .ok (some (.exact .bool))
  -- A node with parts has the kind of the first part that settles it.
  | program _ body | blockStatement _ body => settledKind scopes body
  | functionDeclaration _ id arguments body returnKind =>
    orElseKind (settledKind scopes id) (orElseKind (settledKind scopes arguments)
      (orElseKind (settledKind scopes body) (settledKind scopes returnKind)))
  | variableDeclaration _ id init => orElseKind (settledKind scopes id) (settledKind scopes init)
  | returnStatement _ argument => settledKind scopes argument
  | expressionStatement _ expression => settledKind scopes expression
  | ifStatement _ condition consequent alternate =>
    orElseKind (settledKind scopes condition)
      (orElseKind (settledKind scopes consequent) (settledKind scopes alternate))
  | loopStatement _ condition body label =>
    orElseKind (settledKind scopes condition)
      (orElseKind (settledKind scopes body) (settledKind scopes label))
  | breakStatement _ label | continueStatement _ label => settledKind scopes label
termination_by structural tree => tree

/-- The kind that the nodes among the items of a list settle. -/
def settledKindOfItems (scopes : Scopes) : List Tree → Except InferenceError (Option Kind)
  | [] => .ok none
  | item :: rest =>
    orElseKind (if item.isNode then settledKind scopes item else .ok none)
      (settledKindOfItems scopes rest)
termination_by structural items => items

end

/-- The kind of an expression, which is none when nothing in it settles one. -/
def infer (scopes : Scopes) (tree : Tree) : Except InferenceError Kind :=
  wholeKind (settledKind scopes tree) tree

end Tree

end LoopLang
