import LoopLang.Proofs.Scope.Outline

/-!
Plans of slots, read off a tree: one slot for each parameter of a function and for each variable
that is declared in its own body and is not `void`.
-/

namespace LoopLang

/--
The slots that a part of a program asks for: those of the function that it stands in, in the order
of their declarations, and those of the functions within it, in the order of theirs.
-/
structure SlotPlan where
  own : List ValueKind
  nested : List (List ValueKind)
  deriving DecidableEq, Repr

namespace SlotPlan

/-- No slot is asked for. -/
def none : SlotPlan := ⟨[], []⟩

/-- What two parts ask for one after the other. -/
def append (first second : SlotPlan) : SlotPlan :=
  ⟨first.own ++ second.own, first.nested ++ second.nested⟩

/-- Plans in a row are written as lists are. -/
instance : Append SlotPlan := ⟨append⟩

/-- The slots of two plans in a row are those of the one and then those of the other. -/
@[simp] theorem own_append (first second : SlotPlan) :
    (first ++ second).own = first.own ++ second.own :=
  rfl

/-- So are the functions in them. -/
@[simp] theorem nested_append (first second : SlotPlan) :
    (first ++ second).nested = first.nested ++ second.nested :=
  rfl

/-- A plan without slots changes nothing behind it. -/
@[simp] theorem none_append (plan : SlotPlan) : none ++ plan = plan := rfl

/-- Nor does one in front of it. -/
@[simp] theorem append_none (plan : SlotPlan) : plan ++ none = plan := by
  obtain ⟨own, nested⟩ := plan
  show SlotPlan.mk (own ++ []) (nested ++ []) = _
  rw [List.append_nil, List.append_nil]

/-- What a function with some parameters asks for, given what its body does. -/
def function (parameters : List ValueKind) (body : SlotPlan) : SlotPlan :=
  ⟨[], (parameters ++ body.own) :: body.nested⟩

end SlotPlan

namespace Outline

/-- A frame is opened that declares nothing yet. -/
def opened (outline : Outline) : Outline := [] :: outline

/-- Parameters are declared one after the other. -/
def declareAll (outline : Outline) (parameters : List (String × ValueKind)) : Outline :=
  parameters.foldl (fun outline (name, kind) => outline.declare name (.var kind.exact none)) outline

end Outline

namespace Tree

/-- The kind that stands in a field, if it is one. -/
def kind? : Tree → Option Kind
  | kindValue kind => some kind
  | _ => none

/-- The name and the kind of one parameter. -/
def parameter? : Tree → Option (String × ValueKind)
  | identifier _ name kind =>
    ((kind.kind?.bind Kind.definite?).bind ExactKind.value?).map fun kind => (name.shown, kind)
  | _ => none

/-- The names and the kinds of the parameters of a function. -/
def parameters : Tree → List (String × ValueKind)
  | list items => items.filterMap parameter?
  | _ => []

/-- The kind of a variable: the stated one, or else the one that its first value is inferred to
have. -/
def variableKind? (outline : Outline) (stated value : Tree) : Option ExactKind := do
  let stated ← stated.kind?
  if stated.isExact then stated.definite?
  else
    match value.infer outline.scopes with
    | .ok kind => kind.definite?
    | .error _ => none

/-- A function as its declaration announces it. -/
def signature (arguments result : Tree) : Binding :=
  .fn (.text "") (result.kind?.getD .none) (arguments.parameters.map fun (_, kind) => kind.exact)

/-- What is declared behind a statement. -/
def outlineBehind (outline : Outline) : Tree → Outline
  | functionDeclaration _ (identifier _ name _) arguments _ result =>
    outline.declare name.shown (arguments.signature result)
  | variableDeclaration _ (identifier _ name stated) value =>
    match variableKind? outline stated value with
    | some kind => outline.declare name.shown (.var kind none)
    | none => outline
  | _ => outline

mutual

/-- The slots that a statement asks for. -/
def plan (outline : Outline) : Tree → SlotPlan
  | functionDeclaration _ id arguments body result =>
    match id, body with
    | identifier _ name _, blockStatement _ content =>
      -- The function is declared in front of its body, which shares a frame with the parameters.
      let around := (outline.declare name.shown (arguments.signature result)).opened.declareAll
        arguments.parameters
      .function (arguments.parameters.map Prod.snd) (planBody around content)
    | _, _ => .none
  | variableDeclaration _ id value =>
    match id with
    | identifier _ _ stated =>
      ⟨((variableKind? outline stated value).bind ExactKind.value?).toList, []⟩
    | _ => .none
  | blockStatement _ content => planBody outline.opened content
  | ifStatement _ _ consequent alternate => planArm outline consequent ++ planArm outline alternate
  | loopStatement _ _ body _ =>
    match body with
    | blockStatement _ content => planBody outline.opened content
    | _ => .none
  | _ => .none
termination_by structural tree => tree

/-- The slots that an arm of a branch asks for. -/
def planArm (outline : Outline) : Tree → SlotPlan
  | ifStatement _ _ consequent alternate =>
    planArm outline.opened consequent ++ planArm outline.opened alternate
  | blockStatement _ content => planBody outline.opened content
  | _ => .none
termination_by structural tree => tree

/-- The slots that the contents of a block ask for. -/
def planBody (outline : Outline) : Tree → SlotPlan
  | list items => planAll outline items
  | _ => .none
termination_by structural tree => tree

/-- The slots that statements ask for one after the other. -/
def planAll (outline : Outline) : List Tree → SlotPlan
  | [] => .none
  | statement :: rest => plan outline statement ++ planAll (statement.outlineBehind outline) rest
termination_by structural items => items

end

/-- The slots of the function that a program becomes, and of all functions within it in the order of
their declarations. -/
def slotPlans : Tree → List (List ValueKind)
  | program _ content =>
    -- The frame of the program is the only one.
    let inside := planBody [[]] content
    inside.own :: inside.nested
  | _ => []

end Tree

end LoopLang
