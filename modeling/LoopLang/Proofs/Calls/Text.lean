import LoopLang.Program.Basic

/-!
The calls of a program as its text gives them: in which function each one stands, and which function
it means. Functions are counted in the order of their declarations, from the program itself on,
which is number zero.
-/

namespace LoopLang

/-- What is declared under a name: a function, given by its number, or a variable. -/
inductive Declaration
  | function (number : Nat)
  | variable
  deriving DecidableEq, Repr

/-- A call: the number of the function that it stands in, its name, and what that is declared as, if
it is declared there. -/
structure CallSite where
  caller : Nat
  callee : String
  meant : Option Declaration
  deriving DecidableEq, Repr

/-- A place in the text. -/
structure Spot where
  /-- The number of the function that the place is in. -/
  caller : Nat
  /-- The number of the function that is declared next. -/
  next : Nat
  /-- The declarations in front of the place that it is in reach of, the innermost and latest one
  first. -/
  declared : List (String × Declaration)
  deriving DecidableEq, Repr

namespace Spot

/-- The start of a program, in front of which nothing is declared. -/
def start : Spot := ⟨0, 1, []⟩

/-- Behind the declaration of a variable. -/
def declare (spot : Spot) (name : String) : Spot :=
  { spot with declared := (name, .variable) :: spot.declared }

/-- Behind the name of a function, which is declared in front of its own body. -/
def announce (spot : Spot) (name : String) : Spot :=
  { spot with next := spot.next + 1, declared := (name, .function spot.next) :: spot.declared }

/-- The start of the body of a function, where its parameters are declared. -/
def enter (spot : Spot) (name : String) (parameters : List String) : Spot :=
  parameters.foldl declare { spot.announce name with caller := spot.next }

/-- Behind some functions that are out of reach. -/
def skip (spot : Spot) (functions : Nat) : Spot := { spot with next := spot.next + functions }

/-- Functions can be skipped one after the other. -/
theorem skip_skip (spot : Spot) (first second : Nat) :
    (spot.skip first).skip second = spot.skip (first + second) := by
  simp [skip, Nat.add_assoc]

/-- Variables are declared without leaving the function, and without creating another one. -/
theorem declare_all (names : List String) (spot : Spot) :
    (names.foldl declare spot).caller = spot.caller ∧ (names.foldl declare spot).next =
      spot.next := by
  induction names generalizing spot with
  | nil => exact ⟨rfl, rfl⟩
  | cons name rest ih => exact ih (spot.declare name)

end Spot

namespace Expression

mutual

/-- The calls in an expression, in the order in which they are made: the arguments of a call come
before it. -/
def calls (spot : Spot) : Expression → List CallSite
  | .number .. | .boolean .. | .identifier .. => []
  | .call _ callee arguments =>
    callsAll spot arguments ++ [⟨spot.caller, callee.name, spot.declared.lookup callee.name⟩]
  | .binary _ _ left right => calls spot left ++ calls spot right
  | .assign _ _ value => calls spot value
termination_by structural expression => expression

/-- The calls in arguments, from left to right. -/
def callsAll (spot : Spot) : List Expression → List CallSite
  | [] => []
  | first :: rest => calls spot first ++ callsAll spot rest
termination_by structural expressions => expressions

end

end Expression

namespace Statement

mutual

/-- How many functions are declared in a statement. -/
def functions : Statement → Nat
  | .function _ _ _ _ body _ => functionsAll body + 1
  | .block _ body | .loop _ _ _ body _ | .when _ _ _ body => functionsAll body
  | .choose _ _ _ thenBody _ elseBody => functionsAll thenBody + functionsAll elseBody
  | .declare .. | .return .. | .break .. | .continue .. | .evaluate _ => 0
termination_by structural statement => statement

/-- How many functions are declared in statements. -/
def functionsAll : List Statement → Nat
  | [] => 0
  | statement :: rest => functions statement + functionsAll rest
termination_by structural statements => statements

end

/-- Behind a statement what it declares itself is in reach, and nothing that is declared within
it. -/
def spotBehind (spot : Spot) : Statement → Spot
  | .function _ name _ _ body _ => (spot.announce name.name).skip (functionsAll body)
  | .declare _ name _ _ => spot.declare name.name
  | statement => spot.skip statement.functions

/-- Behind a statement its functions have been counted. -/
theorem spotBehind_next (statement : Statement) (spot : Spot) :
    (statement.spotBehind spot).next = spot.next + statement.functions := by
  cases statement with
  | function place name parameters bodyPlace body result =>
    show spot.next + 1 + functionsAll body = spot.next + (functionsAll body + 1)
    omega
  | _ => rfl

mutual

/-- The calls in a statement, in the order of the text. -/
def calls (spot : Spot) : Statement → List CallSite
  | .function _ name parameters _ body _ =>
    callsAll (spot.enter name.name (parameters.map Parameter.name)) body
  -- The name is not in reach of its own value.
  | .declare _ _ _ value | .return _ (some value) | .evaluate value => value.calls spot
  | .block _ body => callsAll spot body
  | .when _ condition _ body
  | .loop _ condition _ body _ => condition.calls spot ++ callsAll spot body
  | .choose _ condition _ thenBody _ elseBody =>
    condition.calls spot ++ callsAll spot thenBody ++ callsAll
      (spot.skip (functionsAll thenBody)) elseBody
  | .return _ none | .break .. | .continue .. => []
termination_by structural statement => statement

/-- The calls in statements, in the order of the text. -/
def callsAll (spot : Spot) : List Statement → List CallSite
  | [] => []
  | statement :: rest => calls spot statement ++ callsAll (statement.spotBehind spot) rest
termination_by structural statements => statements

end

end Statement

/-- The calls in a program. -/
def Program.calls (program : Program) : List CallSite := Statement.callsAll .start program.body

end LoopLang
