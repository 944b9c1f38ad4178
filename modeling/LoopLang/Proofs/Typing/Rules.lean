import LoopLang.Program.Basic

/-!
The rules for kinds and names: which programs mean something. They are stated for programs alone,
and nothing is said here of how a program is lowered.
-/

namespace LoopLang.Typing

/-- What a name is declared as; a variable may be `void`. -/
inductive Declared
  | variable (kind : ExactKind)
  | function (result : ExactKind) (parameters : List ExactKind)
  deriving DecidableEq, Repr

/-- What a frame is for. -/
inductive Role
  | function (result : ExactKind)
  | loop (label : Option String)
  | block
  deriving DecidableEq, Repr

/-- One frame: what it is for, and what is declared in it, in order. -/
structure Layer where
  role : Role
  names : List (String × Declared)
  deriving DecidableEq, Repr

/-- The frames around a place in a program, innermost first. -/
abbrev Context := List Layer

namespace Context

/-- What a name means: what it is declared as in the innermost frame that has it. -/
def find? (context : Context) (name : String) : Option Declared :=
  context.findSome? (·.names.lookup name)

/-- The frames of the innermost function. -/
def own : Context → Context
  | [] => []
  | layer :: outer =>
    match layer.role with
    | .function _ => [layer]
    | .loop _ | .block => layer :: own outer

/-- The result that the innermost function promises. -/
def result? : Context → Option ExactKind
  | [] => none
  | layer :: outer =>
    match layer.role with
    | .function result => some result
    | .loop _ | .block => result? outer

/-- A loop of the innermost function encloses the place: any loop without a label, else one of that
label. -/
def HasLoop (context : Context) (label : Option String) : Prop :=
  ∃ layer ∈ context.own, ∃ written, layer.role = .loop written ∧ (label = none ∨ written = label)

/-- The innermost frame does not have a name yet. -/
def Lacks (context : Context) (name : String) : Prop :=
  ∀ layer ∈ context.head?, layer.names.lookup name = none

/-- A name is declared in the innermost frame. -/
def declare (context : Context) (name : String) (declared : Declared) : Context :=
  match context with
  | [] => []
  | layer :: outer => { layer with names := layer.names ++ [(name, declared)] } :: outer

end Context

mutual

/-- An expression has a kind; that of a call without a value is `void`. -/
inductive HasKind (context : Context) : Expression → ExactKind → Prop
  | number (place : Location) (value : Float) : HasKind context (.number place value) .num
  | boolean (place : Location) (value : Bool) : HasKind context (.boolean place value) .bool
  /-- A name that is used as a value means a variable of the same function that has one. -/
  | identifier (place : Location) {name : String} {kind : ValueKind}
      (found : context.own.find? name = some (.variable kind.exact)) :
      HasKind context (.identifier place name) kind.exact
  | call (place : Location) {callee : Identifier} {arguments : List Expression}
      {result : ExactKind} {parameters : List ExactKind}
      (found : context.find? callee.name = some (.function result parameters))
      (fit : HaveKinds context arguments parameters) :
      HasKind context (.call place callee arguments) result
  | binary (place : Location) (operator : Operator) {left right : Expression}
      (left_kind : HasKind context left .num) (right_kind : HasKind context right .num) :
      HasKind context (.binary place operator left right) .num
  | assign (place : Location) {target : Identifier} {value : Expression} {kind : ValueKind}
      (found : context.own.find? target.name = some (.variable kind.exact))
      (fits : HasKind context value kind.exact) :
      HasKind context (.assign place target value) kind.exact

/-- Arguments have the kinds of the parameters, one each. -/
inductive HaveKinds (context : Context) : List Expression → List ExactKind → Prop
  | nil : HaveKinds context [] []
  | cons {first : Expression} {rest : List Expression} {kind : ExactKind} {kinds : List ExactKind}
      (first_kind : HasKind context first kind) (rest_kinds : HaveKinds context rest kinds) :
      HaveKinds context (first :: rest) (kind :: kinds)

end

/-- A condition is a number or a truth value. -/
def IsCondition (context : Context) (condition : Expression) : Prop :=
  ∃ kind : ValueKind, HasKind context condition kind.exact

/-- The parameters of a function as they are declared in its frame. -/
def parameterNames (parameters : List Parameter) : List (String × Declared) :=
  parameters.map fun parameter => (parameter.name, .variable parameter.kind.exact)

/-- A function as it is declared. -/
def signature (parameters : List Parameter) (result : ExactKind) : Declared :=
  .function result (parameters.map fun parameter => parameter.kind.exact)

mutual

/-- A statement may stand where it does, and what stands behind it has another context. -/
inductive Stands : Context → Statement → Context → Prop
  /-- The name of a function is declared in front of its body, which shares a frame with the
  parameters. -/
  | function {context after : Context} (place : Location) {name : Identifier}
      {parameters : List Parameter} (bodyPlace : Location) {body : List Statement}
      {result : ExactKind} (new : context.Lacks name.name)
      (distinct : (parameters.map Parameter.name).Nodup)
      (inside : StandAll (⟨.function result, parameterNames parameters⟩ :: context.declare name.name
        (signature parameters result)) body after) :
      Stands context (.function place name parameters bodyPlace body result)
        (context.declare name.name (signature parameters result))
  /-- The name of a variable is declared behind its first value, whose kind is exactly the stated
  one. -/
  | declare {context : Context} (place : Location) {name : Identifier} {stated : Option ValueKind}
      {value : Expression} {kind : ExactKind} (new : context.Lacks name.name)
      (value_kind : HasKind context value kind) (agrees : ∀ wanted ∈ stated, kind = wanted.exact) :
      Stands context (.declare place name stated value) (context.declare name.name (.variable kind))
  | block {context after : Context} (place : Location) {body : List Statement}
      (inside : StandAll (⟨.block, []⟩ :: context) body after) :
      Stands context (.block place body) context
  | returnNothing {context : Context} (place : Location) (promised : context.result? = some .void) :
      Stands context (.return place none) context
  | return {context : Context} (place : Location) {value : Expression} {result : ExactKind}
      (promised : context.result? = some result) (fits : HasKind context value result) :
      Stands context (.return place (some value)) context
  | when {context after : Context} (place : Location) {condition : Expression}
      (thenPlace : Location) {thenBody : List Statement} (tests : IsCondition context condition)
      (inside : StandAll (⟨.block, []⟩ :: context) thenBody after) :
      Stands context (.when place condition thenPlace thenBody) context
  | choose {context after otherwise : Context} (place : Location) {condition : Expression}
      (thenPlace : Location) {thenBody : List Statement} (elsePlace : Location)
      {elseBody : List Statement} (tests : IsCondition context condition)
      (inside : StandAll (⟨.block, []⟩ :: context) thenBody after)
      (alternative : StandAll (⟨.block, []⟩ :: context) elseBody otherwise) :
      Stands context (.choose place condition thenPlace thenBody elsePlace elseBody) context
  | loop {context after : Context} (place : Location) {condition : Expression}
      (bodyPlace : Location) {body : List Statement} {label : Option Identifier}
      (tests : IsCondition context condition)
      (inside : StandAll (⟨.loop (label.map Identifier.name), []⟩ :: context) body after) :
      Stands context (.loop place condition bodyPlace body label) context
  | break {context : Context} (place : Location) {label : Option Identifier}
      (meant : context.HasLoop (label.map Identifier.name)) :
      Stands context (.break place label) context
  | continue {context : Context} (place : Location) {label : Option Identifier}
      (meant : context.HasLoop (label.map Identifier.name)) :
      Stands context (.continue place label) context
  /-- The value of an expression that stands for itself is dropped, if there is one. -/
  | evaluate {context : Context} {value : Expression} {kind : ExactKind}
      (value_kind : HasKind context value kind) :
      Stands context (.evaluate value) context

/-- Statements may stand one after the other: a name is visible behind its declaration only. -/
inductive StandAll : Context → List Statement → Context → Prop
  | nil (context : Context) : StandAll context [] context
  | cons {context middle after : Context} {statement : Statement} {rest : List Statement}
      (first : Stands context statement middle) (others : StandAll middle rest after) :
      StandAll context (statement :: rest) after

end

end LoopLang.Typing

namespace LoopLang

/-- The statements of a program may stand in a function without parameters and without a result. -/
def Program.WellTyped (program : Program) : Prop :=
  ∃ after, Typing.StandAll [⟨.function .void, []⟩] program.body after

namespace Typing

variable {context : Context}

/-- An expression has one kind at most. -/
theorem HasKind.unique {value : Expression} {one other : ExactKind}
    (first : HasKind context value one) (second : HasKind context value other) : one = other := by
  -- A name has one declaration, so an expression has one kind.
  cases first with
  | number | boolean | binary =>
    cases second
    rfl
  | identifier _ found =>
    cases second with
    | identifier _ also =>
      injection found.symm.trans also with same
      injection same
  | call _ found =>
    cases second with
    | call _ also =>
      injection found.symm.trans also with same
      injection same
  | assign _ found =>
    cases second with
    | assign _ also =>
      injection found.symm.trans also with same
      injection same

/-- A statement leaves one context at most to what follows it. -/
theorem Stands.unique : ∀ {context one other : Context} {statement : Statement},
    Stands context statement one → Stands context statement other → one = other
  | _, _, _, _, .function .., .function .. => rfl
  -- Only a declaration without a stated kind leaves behind what depends on a value.
  | _, _, _, _, .declare _ _ value_kind _, .declare _ _ also _ => by rw [value_kind.unique also]
  | _, _, _, _, .block .., .block .. => rfl
  | _, _, _, _, .returnNothing .., .returnNothing .. => rfl
  | _, _, _, _, .return .., .return .. => rfl
  | _, _, _, _, .when .., .when .. => rfl
  | _, _, _, _, .choose .., .choose .. => rfl
  | _, _, _, _, .loop .., .loop .. => rfl
  | _, _, _, _, .break .., .break .. => rfl
  | _, _, _, _, .continue .., .continue .. => rfl
  | _, _, _, _, .evaluate .., .evaluate .. => rfl

end Typing

end LoopLang
