import LoopLang.Diagnostic.Basic
import LoopLang.Kind.Basic

/-! Why a tree cannot be lowered to code, and how that is said. -/

namespace LoopLang

/-- The statements that jump within a loop. -/
inductive Jump
  | break
  | continue
  deriving DecidableEq, Repr

/-- The word that a jump is written with. -/
def Jump.word : Jump → String
  | .break => "break"
  | .continue => "continue"

/-- Why a tree is refused; what was found in place of something else is given by its sort. -/
inductive Cause
  -- Trees of the wrong shape.
  | notAProgram (found : String)
  | unsupportedStatement (found : String)
  | unsupportedExpression (found : String)
  | notABlock (found : String)
  | loopBodyNotBlock
  | functionNeedsIdentifier
  | functionBodyNotBlock
  | parameterNotIdentifier
  | variableNeedsIdentifier
  | targetNotIdentifier
  | calleeNotIdentifier
  -- What a function states.
  | parameterKind (name : String) (kind : Kind)
  | noResultKind (function : String)
  | functionAlreadyDefined (name : String)
  -- Names.
  | alreadyDefined (name : String)
  | unknownSymbol (name : String) (suggestion : Option String)
  | unknownFunction (name : String) (suggestion : Option String)
  | functionAsValue (name : String)
  | variableAsFunction (name : String)
  | voidVariable (name : String)
  | foreignVariable (name owner : String)
  -- Values and their kinds.
  | voidAsValue
  | cannotInfer (name : String)
  | storedKind (name : String) (expected : ExactKind) (found : ValueKind)
  | assignmentOperator (operator : String)
  | binaryOperator (operator : String)
  | operandKind (operator : String) (found : ValueKind)
  -- Arguments.
  | argumentCount (function : String) (expected found : Nat)
  | argumentKind (position : Nat) (function : String) (expected : ExactKind) (found : ValueKind)
  -- What the end of a function gives back.
  | resultMissing (function : String) (expected : ExactKind)
  | resultUnexpected (function : String) (found : ValueKind)
  | resultKind (function : String) (expected : ExactKind) (found : ValueKind)
  -- Jumps and returns out of nothing.
  | noLoop (jump : Jump) (label : Option String)
  | noFunction
  deriving DecidableEq, Repr

namespace Cause

/-- The family that a cause belongs to. -/
def category : Cause → Category
  -- Trees of a shape that the language does not have, and jumps out of nothing.
  | notAProgram _ | unsupportedStatement _ | unsupportedExpression _ | notABlock _
  | loopBodyNotBlock
  | functionNeedsIdentifier | functionBodyNotBlock | parameterNotIdentifier
  | variableNeedsIdentifier
  | targetNotIdentifier | calleeNotIdentifier | noLoop .. => .malformedNode
  -- Kinds that cannot be made out.
  | parameterKind .. | noResultKind _ | cannotInfer _ => .invalidType
  | functionAlreadyDefined _ | alreadyDefined _ => .duplicateSymbol
  -- Names that mean nothing here, or something of another function.
  | unknownSymbol .. | unknownFunction .. | variableAsFunction _
  | foreignVariable .. => .unknownSymbol
  | functionAsValue _ | voidVariable _ | voidAsValue => .voidValue
  | assignmentOperator _ | binaryOperator _ | operandKind .. => .unsupportedOperator
  -- Kinds that do not fit to each other.
  | storedKind .. | argumentCount .. | argumentKind .. | resultMissing .. | resultUnexpected ..
  | resultKind .. => .kindMismatch
  | noFunction => .general

/-- What is wrong. -/
def message : Cause → String
  -- Trees that no text stands for.
  | notAProgram found => s!"Expected a Program at the top level, got {found}"
  | unsupportedStatement found => s!"Unsupported statement: {found}"
  | unsupportedExpression found => s!"Unsupported expression: {found}"
  | notABlock found => s!"Expected a block, got {found}"
  | loopBodyNotBlock => "Loop body must be a block"
  | functionNeedsIdentifier => "Function declaration needs an identifier"
  | functionBodyNotBlock => "Function body must be a block"
  | parameterNotIdentifier => "Function parameter must be an identifier"
  | variableNeedsIdentifier => "Variable declaration needs an identifier"
  | targetNotIdentifier => "Assignment target must be an identifier"
  | calleeNotIdentifier => "Callee must be an identifier"
  -- Functions and names.
  | parameterKind name kind => s!"Parameter '{name}' must be typed num or bool, got {kind.word}"
  | noResultKind function => s!"Function '{function}' has no return type"
  | functionAlreadyDefined name
  | alreadyDefined name => s!"Symbol '{name}' already defined in this scope."
  | unknownSymbol name _ => s!"Unknown symbol '{name}'"
  | unknownFunction name _ => s!"Unknown function '{name}'"
  | functionAsValue name => s!"'{name}' is a function and cannot be used as a value"
  | variableAsFunction name => s!"'{name}' is a variable, not a function"
  | voidVariable name => s!"'{name}' has type void and holds no value"
  | foreignVariable name owner => s!"'{name}' belongs to function '{owner}' and is not visible here"
  | voidAsValue => "This expression has type void and cannot be used as a value"
  | cannotInfer name => s!"Cannot infer a type for '{name}'"
  -- Kinds.
  | storedKind name expected found =>
    s!"Cannot store a {found.word} value in '{name}' of type {expected.word}"
  | assignmentOperator operator => s!"Unsupported assignment operator '{operator}'"
  | binaryOperator operator => s!"Unsupported binary operator '{operator}'"
  | operandKind operator found =>
    s!"Operator '{operator}' is only defined for num operands, got {found.word}"
  | argumentCount function expected found =>
    s!"Function '{function}' expects {expected} argument(s), got {found}"
  | argumentKind position function expected found =>
    s!"Argument {position} of '{function}' must be {expected.word}, got {found.word}"
  | resultMissing function expected => s!"Function '{function}' must return a {expected.word} value"
  | resultUnexpected function found =>
    s!"Function '{function}' returns void but a {found.word} value is returned"
  | resultKind function expected found =>
    s!"Function '{function}' returns {expected.word} but a {found.word} value is returned"
  -- Jumps.
  | noLoop jump none => s!"'{jump.word}' statement found outside of any loop construct."
  | noLoop jump (some label) => s!"'{jump.word} {label}' does not match any enclosing loop."
  | noFunction => "Cannot create block: No function is currently being compiled."

/-- What may help. -/
def hint : Cause → Option String
  | alreadyDefined _ => some "Shadowing is not allowed in the same block."
  | unknownSymbol _ suggestion | unknownFunction _ suggestion => suggestion.map didYouMean
  | functionAsValue name => some s!"Call it instead: {name}(...)"
  | foreignVariable .. => some "Pass it to this function as a parameter."
  | cannotInfer name => some s!"Add a type annotation, e.g. 'var {name}: num = ...;'"
  | _ => none

/-- A cause in words, at the place of what is refused. -/
def diagnostic (cause : Cause) (place : Location) : Diagnostic :=
  ⟨cause.category, cause.message, cause.hint, place⟩

end Cause

end LoopLang
