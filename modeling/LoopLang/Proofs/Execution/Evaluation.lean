import LoopLang.Value.Basic

/-!
What programs do: direct evaluation, in which every expression and every statement does what it
says. Nothing is said here of code, nor of how a program is lowered to it.
-/

namespace LoopLang

/-- A function with the functions that are visible where it is declared, innermost first. -/
structure Closure where
  /-- The name that its own body can call it by; a whole program has none. -/
  name : Option String
  parameters : List Parameter
  body : List Statement
  result : ExactKind
  around : List (String × Closure)

namespace Closure

/-- The functions that are visible at the start of the body. -/
def visible (closure : Closure) : List (String × Closure) :=
  match closure.name with
  | some name => (name, closure) :: closure.around
  | none => closure.around

/-- What a call gives that falls off the end of the body. -/
def fallback (closure : Closure) : Option Value :=
  match closure.result with
  | .void => none
  | .num => some (.number 0.0)
  | .bool => some (.boolean false)

end Closure

namespace Evaluation

/-- Why an evaluation has no result: it is cut short, or what it meets means nothing. -/
inductive Stop
  | outOfFuel
  | meaningless
  deriving DecidableEq, Repr

/-- The variables of the current call, frame by frame, innermost first; a variable of kind `void`
has no value. -/
abbrev Variables := List (List (String × Option Value))

/-- How control leaves a statement. -/
inductive Signal
  | next
  | break (label : Option String)
  | continue (label : Option String)
  | return (result : Option Value)
  deriving DecidableEq, Repr

end Evaluation

/-- An evaluation reads and changes the variables of the current call. -/
abbrev Evaluation := StateT Evaluation.Variables (Except Evaluation.Stop)

namespace Evaluation

/-- The value of the innermost variable of a name. -/
def load (name : String) : Evaluation Value := do
  match (← get).findSome? (·.lookup name) with
  | some (some value) => return value
  | some none | none => throw .meaningless

/-- Variables after the innermost one of a name has got another value. -/
def replace? (name : String) (value : Value) : Variables → Option Variables
  | [] => none
  | frame :: outer =>
    match frame.lookup name with
    | some (some _) =>
      some (frame.map (fun (other, old) => (other, if other = name then some value else old)) ::
        outer)
    -- A variable without a value cannot get one.
    | some none => none
    -- A frame that does not have the name hides nothing.
    | none => (replace? name value outer).map (frame :: ·)

/-- Gives the innermost variable of a name another value. -/
def store (name : String) (value : Value) : Evaluation Unit := do
  match replace? name value (← get) with
  | some locals => set locals
  | none => throw .meaningless

/-- Adds a variable to the innermost frame. -/
def declare (name : String) (value : Option Value) : Evaluation Unit :=
  modify fun
    | [] => []
    | frame :: outer => (frame ++ [(name, value)]) :: outer

/-- Evaluates in a frame of its own, which is gone afterwards. -/
def within (body : Evaluation Signal) : Evaluation Signal := do
  modify ([] :: ·)
  let signal ← body
  -- However the body leaves, its variables are gone behind it.
  modify List.tail
  return signal

/-- Goes on behind, unless control has left to somewhere else. -/
def thereafter (first rest : Evaluation Signal) : Evaluation Signal := do
  match ← first with
  | .next => rest
  | signal => return signal

/-- A value that must be there. -/
def required : Option Value → Evaluation Value
  | some value => return value
  | none => throw .meaningless

/-- A value that must be a number. -/
def number : Option Value → Evaluation Float
  | some (.number value) => return value
  | some (.boolean _) | none => throw .meaningless

/-- Whether a condition holds; a number holds if it is ordered and differs from zero. -/
def truth : Option Value → Evaluation Bool
  | some (.boolean value) => return value
  | some (.number value) => return orderedDiffer value 0.0
  | none => throw .meaningless

/-- How control goes on behind a round of a loop, unless in another round; jumps that mean another
loop are passed on. -/
def Signal.behindRound (label : Option String) : Signal → Option Signal
  | .next => none
  -- A jump that means this loop ends the round, and a break the loop with it.
  | .continue meant => if meant = none ∨ meant = label then none else some (.continue meant)
  | .break meant => if meant = none ∨ meant = label then some .next else some (.break meant)
  | .return result => some (.return result)

/-- Runs at most the given number of rounds of a loop. -/
def rounds (label : Option String) (condition : Evaluation Bool) (body : Evaluation Signal) :
    (limit : Nat) → Evaluation Signal
  | 0 => throw .outOfFuel
  | limit + 1 => do
    -- The condition is evaluated anew in front of each round.
    if ← condition then
      match (← body).behindRound label with
      | none => rounds label condition body limit
      | some signal => return signal
    else return .next

end Evaluation

open Evaluation (Stop Signal)

namespace Expression

/-! Expressions, given the visible functions and how a call of one of them goes. -/

section Calls

variable (functions : List (String × Closure))
  (call : Closure → List Value → Except Stop (Option Value))

mutual

/-- Evaluates an expression; a call of a function that returns nothing has no value. -/
def evaluate : Expression → Evaluation (Option Value)
  | .number _ value => return some (.number value)
  | .boolean _ value => return some (.boolean value)
  | .identifier _ name => return some (← Evaluation.load name)
  | .call _ callee arguments =>
    match functions.lookup callee.name with
    -- The innermost function of the name is meant, and it gets the values of the arguments.
    | some closure => do call closure (← evaluateAll arguments)
    | none => throw .meaningless
  | .binary _ operator left right => do
    -- The left operand comes first, and so do its effects.
    let first ← Evaluation.number (← evaluate left)
    let second ← Evaluation.number (← evaluate right)
    return some (.number (operator.apply first second))
  | .assign _ target value => do
    let stored ← Evaluation.required (← evaluate value)
    Evaluation.store target.name stored
    -- An assignment has the value that it has stored.
    return some stored
termination_by structural expression => expression

/-- Evaluates arguments from left to right. -/
def evaluateAll : List Expression → Evaluation (List Value)
  | [] => return []
  | first :: rest => do
    let value ← Evaluation.required (← evaluate first)
    return value :: (← evaluateAll rest)
termination_by structural expressions => expressions

end

end Calls

end Expression

namespace Statement

/-- The functions that are visible behind a statement: a declaration adds its function. -/
def functionsBehind (functions : List (String × Closure)) : Statement → List (String × Closure)
  | .function _ name parameters _ body result =>
    (name.name, ⟨some name.name, parameters, body, result, functions⟩) :: functions
  | _ => functions

/-! Statements, given how many rounds a loop may have. -/

section Rounds

variable (call : Closure → List Value → Except Stop (Option Value)) (limit : Nat)

mutual

/-- Performs a statement. -/
def perform (functions : List (String × Closure)) : Statement → Evaluation Signal
  | .function .. => return .next
  | .declare _ name _ value => do
    -- The name is not there yet while its value is evaluated.
    Evaluation.declare name.name (← value.evaluate functions call)
    return .next
  | .block _ body => Evaluation.within (performAll functions body)
  -- A call may give nothing, which is what a function without a result returns.
  | .return _ none => return .return none
  | .return _ (some value) => return .return (← value.evaluate functions call)
  | .when _ condition _ thenBody => do
    if ← Evaluation.truth (← condition.evaluate functions call)
      then Evaluation.within (performAll functions thenBody)
    else return .next
  | .choose _ condition _ thenBody _ elseBody => do
    if ← Evaluation.truth (← condition.evaluate functions call)
      then Evaluation.within (performAll functions thenBody)
    else Evaluation.within (performAll functions elseBody)
  | .loop _ condition _ body label =>
    Evaluation.rounds (label.map Identifier.name)
      (do Evaluation.truth (← condition.evaluate functions call))
      (Evaluation.within (performAll functions body)) limit
  | .break _ label => return .break (label.map Identifier.name)
  | .continue _ label => return .continue (label.map Identifier.name)
  | .evaluate value => do
    -- What the value is does not matter, only what evaluating it does.
    let _ ← value.evaluate functions call
    return .next
termination_by structural statement => statement

/-- Performs statements in order, until control leaves one of them other than to the next. -/
def performAll (functions : List (String × Closure)) : List Statement → Evaluation Signal
  | [] => return .next
  | statement :: rest =>
    Evaluation.thereafter (perform functions statement)
      (performAll (statement.functionsBehind functions) rest)
termination_by structural statements => statements

end

end Rounds

mutual

/-- The functions that are declared in a statement, in the order of their declarations. -/
def closures (functions : List (String × Closure)) : Statement → List Closure
  | .function _ name parameters _ body result =>
    let closure : Closure := ⟨some name.name, parameters, body, result, functions⟩
    closure :: closuresAll closure.visible body
  | .block _ body | .loop _ _ _ body _ | .when _ _ _ body => closuresAll functions body
  | .choose _ _ _ thenBody _ elseBody =>
    closuresAll functions thenBody ++ closuresAll functions elseBody
  | .declare .. | .return .. | .break .. | .continue .. | .evaluate _ => []
termination_by structural statement => statement

/-- The functions that are declared in statements. -/
def closuresAll (functions : List (String × Closure)) : List Statement → List Closure
  | [] => []
  | statement :: rest =>
    closures functions statement ++ closuresAll (statement.functionsBehind functions) rest
termination_by structural statements => statements

end

end Statement

/--
Calls a function; the fuel bounds how deep calls nest and how many rounds a loop has. A call has its
own copies of the arguments, and the functions that are visible in its body are those around its
declaration.
-/
def Closure.run : (fuel : Nat) → Closure → List Value → Except Stop (Option Value)
  | 0, _, _ => .error .outOfFuel
  | fuel + 1, closure, arguments => do
    if arguments.length ≠ closure.parameters.length then throw .meaningless
    -- The variables of the caller are not visible, nor are those around the declaration.
    let frame := (closure.parameters.map Parameter.name).zip (arguments.map some)
    let (signal, _) ← Statement.performAll (Closure.run fuel)
      (fuel + 1) closure.visible closure.body [frame]
    match signal with
    | .return result => return result
    -- Control that falls off the end returns, too; no jump leaves a function.
    | .next => return closure.fallback
    | .break _ | .continue _ => throw .meaningless

namespace Program

/-- A program as a function without parameters and without a result. -/
def main (program : Program) : Closure := ⟨none, [], program.body, .void, []⟩

/-- A program, and the functions that are declared in it, in the order of their declarations. -/
def closures (program : Program) : List Closure :=
  program.main :: Statement.closuresAll [] program.body

end Program

end LoopLang
