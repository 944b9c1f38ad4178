import LoopLang.Number.Text
import LoopLang.Program.Basic

/-! Values, and what operators and conditions make of them. -/

namespace LoopLang

/-- The values of programs. -/
inductive Value
  | number (value : Float)
  | boolean (value : Bool)
  deriving DecidableEq, Repr

/-- Whether two numbers are ordered and differ; nothing is ordered with what is not a number. -/
def orderedDiffer (left right : Float) : Bool := left < right || right < left

/-- The result of an arithmetic operation. -/
def Operator.apply : Operator → Float → Float → Float
  | .add, left, right => left + right
  | .subtract, left, right => left - right
  | .multiply, left, right => left * right
  | .divide, left, right => left / right

namespace Value

/-- The kind of a value. -/
def kind : Value → ValueKind
  | number _ => .num
  | boolean _ => .bool

end Value

/-- The arguments that functions are called with from outside: values, and integers of any size. -/
inductive Argument
  | number (value : Float)
  | boolean (value : Bool)
  | integer (value : Int)
  deriving DecidableEq, Repr

/--
An argument as a parameter of the given kind takes it: a truth value counts as one or zero, a number
as true unless it is zero. An integer may be too large for a number.
-/
def Argument.convert? (kind : ValueKind) (argument : Argument) : Option Value :=
  match kind, argument with
  | .num, .number value => some (.number value)
  | .num, .boolean value => some (.number (if value then 1.0 else 0.0))
  | .num, .integer value => (doubleOfInteger? value).map .number
  | .bool, .number value => some (.boolean (value != 0.0))
  | .bool, .boolean value => some (.boolean value)
  | .bool, .integer value => some (.boolean (value != 0))

end LoopLang
