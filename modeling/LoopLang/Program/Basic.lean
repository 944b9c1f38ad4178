import LoopLang.Kind.Basic
import LoopLang.Source.Location

/-! Programs as the grammar builds them: statements, expressions, and the places where they
stand. -/

namespace LoopLang

/-- The arithmetic operators. -/
inductive Operator
  | add
  | subtract
  | multiply
  | divide
  deriving DecidableEq, Repr

/-- The sign of an operator. -/
def Operator.sign : Operator → String
  | .add => "+"
  | .subtract => "-"
  | .multiply => "*"
  | .divide => "/"

/-- A name at its place. -/
structure Identifier where
  place : Location
  name : String
  deriving DecidableEq, Repr

/-- A parameter with the kind of its values. -/
structure Parameter where
  place : Location
  name : String
  kind : ValueKind
  deriving DecidableEq, Repr

/-- Expressions; an arithmetic one stands at its operator, every other one at its first token. -/
inductive Expression
  /-- A number. -/
  | number (place : Location) (value : Float)
  /-- A truth value. -/
  | boolean (place : Location) (value : Bool)
  /-- The value of a variable. -/
  | identifier (place : Location) (name : String)
  /-- A call of a function with arguments. -/
  | call (place : Location) (callee : Identifier) (arguments : List Expression)
  /-- An arithmetic operation on two expressions. -/
  | binary (place : Location) (operator : Operator) (left right : Expression)
  /-- An assignment, whose value is the assigned one. -/
  | assign (place : Location) (target : Identifier) (value : Expression)
  deriving Repr

/-- The place of an expression. -/
def Expression.place : Expression → Location
  | .number place _ => place
  | .boolean place _ => place
  | .identifier place _ => place
  | .call place _ _ => place
  | .binary place _ _ _ => place
  | .assign place _ _ => place

/-- Statements; a block is given by the place of its brace and its statements. -/
inductive Statement
  /-- A function with parameters, result kind, and body. -/
  | function (place : Location) (name : Identifier) (parameters : List Parameter)
      (bodyPlace : Location) (body : List Statement) (result : ExactKind)
  /-- A variable with its initial value; without an annotation its kind is inferred. -/
  | declare (place : Location) (name : Identifier) (stated : Option ValueKind) (value : Expression)
  /-- A nested block. -/
  | block (place : Location) (body : List Statement)
  /-- The end of a function, with its result. -/
  | return (place : Location) (value : Option Expression)
  /-- A condition without an alternative. -/
  | when (place : Location) (condition : Expression) (thenPlace : Location)
      (thenBody : List Statement)
  /-- A condition with an alternative. -/
  | choose (place : Location) (condition : Expression) (thenPlace : Location)
      (thenBody : List Statement)
      (elsePlace : Location) (elseBody : List Statement)
  /-- A loop that runs while its condition holds, optionally with a label. -/
  | loop (place : Location) (condition : Expression) (bodyPlace : Location) (body : List Statement)
      (label : Option Identifier)
  /-- The end of an enclosing loop. -/
  | break (place : Location) (label : Option Identifier)
  /-- The next round of an enclosing loop. -/
  | continue (place : Location) (label : Option Identifier)
  /-- An expression whose value is dropped; it stands where the expression stands. -/
  | evaluate (value : Expression)
  deriving Repr

/-- A whole program, which stands at the start of its text. -/
structure Program where
  body : List Statement
  deriving Repr

end LoopLang
