import LoopLang.Kind.Annotation
import LoopLang.Program.Basic
import LoopLang.Token.Basic

/-! What a parser knows between two tokens: the phrases that are still open, and its position in the
innermost one. -/

namespace LoopLang.Parser

/-- A type name as it is written; which kind it names is settled only when its phrase is
complete. -/
structure TypeName where
  place : Location
  word : String
  deriving Repr

/-- An arithmetic operation that waits for its right operand. -/
structure Operation where
  place : Location
  operator : Operator
  left : Expression
  deriving Repr

/-- What is open since the last parenthesis: assignments, innermost first, then a sum, then a
product. -/
structure Pending where
  targets : List Identifier
  sum : Option Operation
  product : Option Operation
  deriving Repr

/-- Nothing is open. -/
def Pending.empty : Pending := ⟨[], none, none⟩

/-- What an open parenthesis belongs to: a group, or a call with the arguments that precede. -/
inductive Bracket
  | group
  | call (callee : Identifier) (arguments : List Expression)
  deriving Repr

/-- An unfinished expression: what is open within its innermost parenthesis, and the parentheses
around with what is open outside each. -/
structure OpenExpression where
  pending : Pending
  brackets : List (Bracket × Pending)
  deriving Repr

/-- An expression that has not begun. -/
def OpenExpression.empty : OpenExpression := ⟨.empty, []⟩

/-- A condition whose alternative is another condition: all of it but the nested one. -/
structure OuterChoice where
  place : Location
  condition : Expression
  thenPlace : Location
  thenBody : List Statement
  elsePlace : Location
  deriving Repr

/-- The start of a statement with a condition in parentheses. -/
inductive Head
  /-- A condition, and the conditions whose alternative it is, innermost first. -/
  | choice (place : Location) (outer : List OuterChoice)
  | loop (place : Location) (label : Option Identifier)
  deriving Repr

/-- What an expression is for. -/
inductive Purpose
  | evaluate
  | declare (place : Location) (name : Identifier) (type : Option TypeName)
  | return (place : Location)
  | condition (head : Head)
  deriving Repr

/-- A function whose body has not been read. -/
structure FunctionHead where
  place : Location
  name : Identifier
  parameters : List Parameter
  deriving Repr

/-- What an open block belongs to. -/
inductive Owner
  | plain
  | function (head : FunctionHead) (result : Option TypeName)
  | thenBranch (place : Location) (outer : List OuterChoice) (condition : Expression)
  | elseBranch (place : Location) (outer : List OuterChoice) (condition : Expression)
      (thenPlace : Location) (thenBody : List Statement)
  | loop (place : Location) (label : Option Identifier) (condition : Expression)
  deriving Repr

/-- An open block with the statements before it in the enclosing block. -/
structure OpenBlock where
  place : Location
  owner : Owner
  before : List Statement
  deriving Repr

/-- A statement that has ended, up to the kind that its annotation names. -/
inductive Ended
  | statement (statement : Statement)
  | declaration (place : Location) (name : Identifier) (type : TypeName) (value : Expression)
  deriving Repr

/-- Which identifier has just been read, for that decides what may follow. -/
inductive NameRole
  /-- The first token of a statement, which may turn out to be a label. -/
  | statement
  /-- The first token of an expression, which may be assigned to. -/
  | expression
  /-- An operand. -/
  | operand
  deriving DecidableEq, Repr

/-- Where an expression starts, for that decides what may stand there instead. -/
inductive ExpressionStart
  | plain
  | result
  | argument
  deriving DecidableEq, Repr

/-- The position of a parser between two tokens. -/
inductive Position
  -- Between statements, and behind one that may be complete.
  | blockStart
  | ended (ended : Ended)
  | closed (place : Location) (owner : Owner) (body : List Statement)
  -- Within the head of a function.
  | functionName (place : Location)
  | functionOpen (place : Location) (name : Identifier)
  | parametersStart (head : FunctionHead)
  | parameterName (head : FunctionHead)
  | parameterColon (head : FunctionHead) (name : Identifier)
  | parameterType (head : FunctionHead) (name : Identifier)
  | parameterEnd (head : FunctionHead) (name : Identifier) (type : TypeName)
  | resultStart (head : FunctionHead)
  | resultType (head : FunctionHead)
  | functionBody (head : FunctionHead) (result : TypeName)
  -- Within a declaration, up to its value.
  | variableName (place : Location)
  | variableNext (place : Location) (name : Identifier)
  | variableType (place : Location) (name : Identifier)
  | variableEqual (place : Location) (name : Identifier) (type : TypeName)
  -- Around the condition of a branch or of a loop.
  | conditionOpen (head : Head)
  | bodyOpen (head : Head) (condition : Expression)
  | elseNext (choice : OuterChoice) (outer : List OuterChoice)
  | labelNext (label : Identifier)
  -- Within a jump.
  | jumpNext (isBreak : Bool) (place : Location)
  | jumpEnd (isBreak : Bool) (place : Location) (label : Identifier)
  -- Within an expression, which belongs to some statement.
  | expression (start : ExpressionStart) (purpose : Purpose) (opened : OpenExpression)
  | operand (purpose : Purpose) (opened : OpenExpression)
  | afterName (role : NameRole) (name : Identifier) (purpose : Purpose) (opened : OpenExpression)
  | afterOperand (operand : Expression) (purpose : Purpose) (opened : OpenExpression)
  deriving Repr

/-- The open blocks, innermost first, the complete statements of the innermost one, and the position
after them. -/
structure State where
  blocks : List OpenBlock
  statements : List Statement
  position : Position
  deriving Repr

/-- Nothing has been read. -/
def State.start : State := ⟨[], [], .blockStart⟩

end LoopLang.Parser
