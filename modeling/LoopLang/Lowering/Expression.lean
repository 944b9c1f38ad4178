import LoopLang.Lowering.Builder
import LoopLang.Scope.Inference

/-! Lowering expressions: operands from left to right, each checked where it is used. -/

namespace LoopLang

namespace Lowering

/-- The hint for a name that is not visible. -/
def suggestion (name : String) : Lowering (Option String) :=
  return suggest name (← scopes).visibleNames

/--
The name that an expression uses. What is no text is known by how it is displayed, if it is known;
otherwise there is no name that could be suggested for it. A list is never known.
-/
def usedName (name : Tree) : Lowering String :=
  match name with
  | .text name => return name
  | .list _ => stop (.notAName name.typeName)
  | _ => do
    if ((← scopes).lookup name.shown).isSome then return name.shown
    else stop (.notIterable name.typeName)

/-- The sign of an arithmetic operation; a list cannot be looked for among the signs. -/
def usedSign (sign : Tree) : Lowering String :=
  match sign with
  | .list _ => stop (.notAName sign.typeName)
  | _ => return sign.shown

/-- The slot of a variable of the current function, with the kind of its value. -/
def resolveVariable (name : String) (place : Location) : Lowering (ValueKind × Slot) := do
  match (← scopes).lookup name with
  | none => refuse (.unknownSymbol name (← suggestion name)) place
  | some (.fn ..) => refuse (.functionAsValue name) place
  | some (.var kind slot) =>
    match kind.value?, slot with
    | some kind, some slot =>
      -- The locals of an enclosing function can be found, but its slots cannot be reached.
      if (← scopes).function? = some slot.function then return (kind, slot)
      else refuse (.foreignVariable name slot.function.display) place
    | _, _ => refuse (.voidVariable name) place

/-- The current value of a variable. -/
def loadVariable (name : String) (place : Location) : Lowering Code.Operand := do
  let (kind, slot) ← resolveVariable name place
  let register ← emit name fun register => .load register kind slot.name
  return .register register kind

/-- Stores a value whose kind is that of the variable. -/
def storeVariable (name : String) (kind : ValueKind) (slot : Slot) (value : Code.Operand)
    (place : Location) : Lowering Unit :=
  if value.kind = kind then emitUnnamed (.store value kind slot.name)
  else refuse (.storedKind name kind.exact value.kind) place

/-- The target of an assignment. -/
def resolveTarget (place : Location) (operator : String) :
    Tree → Lowering (String × ValueKind × Slot)
  | .identifier targetPlace name _ => do
    if operator ≠ "=" then refuse (.assignmentOperator operator) place
    let name ← usedName name
    return (name, ← resolveVariable name targetPlace)
  | target => do
    if operator ≠ "=" then refuse (.assignmentOperator operator) place
    refuse .targetNotIdentifier target.place

/-- What a call needs to know about the function that it names. -/
structure Callee where
  name : String
  handle : Code.Name
  result : Kind
  parameters : List ExactKind
  deriving DecidableEq, Repr

/-- The function that a call names. -/
def resolveCallee (place : Location) : Tree → Lowering Callee
  | .identifier calleePlace name _ => do
    let name ← usedName name
    match (← scopes).lookup name with
    | none => refuse (.unknownFunction name (← suggestion name)) calleePlace
    | some (.var ..) => refuse (.variableAsFunction name) calleePlace
    | some (.fn handle result parameters) => return ⟨name, handle, result, parameters⟩
  | _ => refuse .calleeNotIdentifier place

/-- Checks the number of arguments of a call. -/
def checkCount (callee : Callee) (found : Nat) (place : Location) : Lowering Unit :=
  if found = callee.parameters.length then return
  else refuse (.argumentCount callee.name callee.parameters.length found) place

/-- Checks the kind of an argument, counting from one. -/
def checkArgument (callee : String) (position : Nat) (expected : ExactKind) (value : Code.Operand)
    (place : Location) : Lowering Unit :=
  if value.kind.exact = expected then return
  else refuse (.argumentKind position callee expected value.kind) place

/-- Emits a call, which has a value unless the function returns nothing. -/
def emitCall (callee : Callee) (arguments : List Code.Operand) :
    Lowering (Option Code.Operand) := do
  match callee.result.definite?.bind ExactKind.value? with
  | some kind =>
    let register ← emit ("call_" ++ callee.name) fun register =>
      .call (some (register, kind)) callee.handle arguments
    return some (.register register kind)
  | none =>
    emitUnnamed (.call none callee.handle arguments)
    return none

/-- The arithmetic operator with a sign, and the name of its results. -/
def operator? : String → Option (Operator × String)
  | "+" => some (.add, "add")
  | "-" => some (.subtract, "sub")
  | "*" => some (.multiply, "mul")
  | "/" => some (.divide, "div")
  | _ => none

/-- Checks that an operand of arithmetic is a number. -/
def checkNumber (sign : String) (operand : Code.Operand) (place : Location) : Lowering Unit :=
  if operand.kind = .num then return else refuse (.operandKind sign operand.kind) place

/-- Emits an arithmetic operation on two numbers. -/
def emitArithmetic (sign : String) (left right : Code.Operand) (place : Location) :
    Lowering Code.Operand := do
  match operator? sign with
  | none => refuse (.binaryOperator sign) place
  | some (operator, base) =>
    checkNumber sign left place
    checkNumber sign right place
    let register ← emit base fun register => .arithmetic register operator left right
    return .register register .num

/-- The value of an expression, which must have one. -/
def required (place : Location) (expression : Lowering (Option Code.Operand)) :
    Lowering Code.Operand := do
  match ← expression with
  | some value => return value
  | none => refuse .voidAsValue place

end Lowering

namespace Tree

open Lowering

mutual

/-- Lowers an expression; a call of a function that returns nothing has no value. -/
def lowerExpression : Tree → Lowering (Option Code.Operand)
  | numberLiteral _ value => return some (.number value)
  | booleanLiteral _ value => return some (.boolean value)
  | identifier place name _ => do
    let name ← usedName name
    return some (← loadVariable name place)
  | assignmentExpression place left right operator => do
    -- The target is resolved before the value is computed.
    let (name, kind, slot) ← resolveTarget place operator.shown left
    let value ← required right.place (lowerExpression right)
    storeVariable name kind slot value place
    return some value
  | callExpression place callee arguments => do
    let callee ← resolveCallee place callee
    let values ← lowerArguments callee place arguments
    emitCall callee values
  | binaryExpression place left right operator => do
    let first ← required left.place (lowerExpression left)
    let second ← required right.place (lowerExpression right)
    let sign ← usedSign operator
    return some (← emitArithmetic sign first second place)
  | tree => refuse (.unsupportedExpression tree.typeName) tree.place
termination_by structural tree => tree

/-- Lowers the arguments of a call, whose number is checked before any of them is lowered. -/
def lowerArguments (callee : Callee) (place : Location) : Tree → Lowering (List Code.Operand)
  | list items => do
    checkCount callee items.length place
    lowerItems callee.name 1 callee.parameters items
  | text value => do
    -- A text counts as the list of its characters, none of which is an expression.
    checkCount callee value.length place
    if value.isEmpty then return []
      else refuse (.unsupportedExpression (text value).typeName) .unknown
  | tree => stop (.noLength tree.typeName)
termination_by structural tree => tree

/-- Lowers arguments and checks each one against the kind of its parameter before the next. -/
def lowerItems (callee : String) :
    (position : Nat) → List ExactKind → List Tree → Lowering (List Code.Operand)
  | position, kind :: kinds, item :: rest => do
    let value ← required item.place (lowerExpression item)
    checkArgument callee position kind value item.place
    return value :: (← lowerItems callee (position + 1) kinds rest)
  | _, _, [] | _, [], _ => return []
termination_by structural _ _ items => items

end

/-- Lowers an expression that must have a value. -/
def lowerValue (tree : Tree) : Lowering Code.Operand := required tree.place (lowerExpression tree)

end Tree

end LoopLang
