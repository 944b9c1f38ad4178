import LoopLang.Proofs.Lowering.Run

/-! What names stand for where they are used: a variable or a function, or why neither. -/

namespace LoopLang

namespace Scopes

/-- What a name stands for where the value of a variable is used. -/
def variableNamed (scopes : Scopes) (name : String) : Except Cause (ValueKind × Slot) :=
  match scopes.lookup name with
  | none => .error (.unknownSymbol name (suggest name scopes.visibleNames))
  | some (.fn ..) => .error (.functionAsValue name)
  | some (.var kind slot) =>
    match kind.value?, slot with
    | some kind, some slot =>
      if scopes.function? = some slot.function then .ok (kind, slot)
      else .error (.foreignVariable name slot.function.display)
    | _, _ => .error (.voidVariable name)

/-- What a name stands for where a function is called. -/
def functionNamed (scopes : Scopes) (name : String) : Except Cause Lowering.Callee :=
  match scopes.lookup name with
  | none => .error (.unknownFunction name (suggest name scopes.visibleNames))
  | some (.var ..) => .error (.variableAsFunction name)
  | some (.fn handle result parameters) => .ok ⟨name, handle, result, parameters⟩

variable {scopes : Scopes} {name found : String} {suggestion : Option String}

end Scopes

namespace Lowering

/-- What is computed from the open frames is computed where they are. -/
theorem scopes_bind_outcome {α : Type} (next : Scopes → Lowering α) (start : Builder) :
    (scopes >>= next).outcome start = (next start.scopes).outcome start := rfl

/-- Resolving a variable only looks at the scopes. -/
theorem resolveVariable_outcome (name : String) (place : Location) (start : Builder) :
    (resolveVariable name place).outcome start =
      ((start.scopes.variableNamed name).mapError (.refused · place), start) := by
  unfold resolveVariable Scopes.variableNamed
  rw [scopes_bind_outcome]
  cases start.scopes.lookup name with
  | none => rfl
  | some binding =>
    -- The name is a variable with a slot or without, or a function.
    rcases binding with ⟨kind, _ | slot⟩ | _
    · cases kind <;> rfl
    -- Whether the slot can be reached is decided where the kind has values.
    · cases kind
      case void => rfl
      all_goals
        dsimp only [ExactKind.value?]
        rw [scopes_bind_outcome]
        split <;> rfl
    · rfl

/-- So does resolving the function that a call names. -/
theorem resolveCallee_outcome (place calleePlace : Location) (name : String) (kind : Tree)
    (start : Builder) :
    (resolveCallee place (.identifier calleePlace (.text name) kind)).outcome start =
      ((start.scopes.functionNamed name).mapError (.refused · calleePlace), start) := by
  unfold resolveCallee Scopes.functionNamed
  dsimp only
  rw [usedName_text, pure_bind, scopes_bind_outcome]
  -- Nothing, a variable, or a function.
  cases start.scopes.lookup name with
  | none => rfl
  | some binding => cases binding <;> rfl

end Lowering

/-- How a name is used. -/
inductive NameUse
  /-- As a variable, which is read or assigned. -/
  | value
  /-- As a function, which is called. -/
  | callee
  deriving DecidableEq, Repr

/-- The name that is looked up in vain, with the use for which it is unknown. -/
def Cause.lookedUp? : Cause → Option (NameUse × String)
  | unknownSymbol name _ | foreignVariable name _ => some (.value, name)
  | unknownFunction name _ | variableAsFunction name => some (.callee, name)
  | _ => none

/-- Only a name that is looked up can be unknown. -/
theorem Cause.lookedUp?_isSome {cause : Cause} (unknown : cause.category = .unknownSymbol) :
    ∃ use name, cause.lookedUp? = some (use, name) := by
  cases cause <;> cases unknown <;> exact ⟨_, _, rfl⟩

namespace Scopes

variable {scopes : Scopes} {name found : String} {use : NameUse} {cause : Cause}

/-- Where a variable is used its own name is looked up, and as that of a variable. -/
theorem variableNamed_lookedUp (named : scopes.variableNamed name = .error cause)
    (looked_up : cause.lookedUp? = some (use, found)) :
    use = .value ∧ found = name := by
  unfold variableNamed at named
  repeat' split at named
  all_goals cases named <;> cases looked_up <;> exact ⟨rfl, rfl⟩

/-- Where a function is called its own name is looked up, and as that of a function. -/
theorem functionNamed_lookedUp (named : scopes.functionNamed name = .error cause)
    (looked_up : cause.lookedUp? = some (use, found)) :
    use = .callee ∧ found = name := by
  unfold functionNamed at named
  split at named <;> cases named <;> cases looked_up <;> exact ⟨rfl, rfl⟩

end Scopes

/-- A name that is used at a place is refused there. -/
def Builder.Refuses (moment : Builder) (use : NameUse) (name : String) (place : Location)
    (cause : Cause) : Prop :=
  match use with
  | .value =>
    (Lowering.resolveVariable name place).outcome moment = (.error (.refused cause place), moment)
  | .callee => ∀ call kind,
    (Lowering.resolveCallee call (.identifier place (.text name) kind)).outcome moment =
    (.error (.refused cause place), moment)

namespace Builder

variable {moment : Builder} {name : String} {place : Location} {cause : Cause}

/-- What is refused at a place is refused for the cause that was found. -/
theorem mapError_refused_iff {α : Type} {found : Except Cause α} :
    (found.mapError (Failure.refused · place), moment) = (.error (.refused cause place), moment) ↔
    found = .error cause := by
  cases found with
  | ok answer => exact ⟨fun same => (by cases same), fun same => (by cases same)⟩
  | error other => exact ⟨fun same => (by cases same; rfl), fun same => (by cases same; rfl)⟩

/-- A variable is refused for what its name stands for. -/
theorem refuses_value :
    moment.Refuses .value name place cause ↔ moment.scopes.variableNamed name = .error cause := by
  unfold Refuses
  dsimp only
  rw [Lowering.resolveVariable_outcome]
  exact mapError_refused_iff

/-- So is a function. -/
theorem refuses_callee :
    moment.Refuses .callee name place cause ↔ moment.scopes.functionNamed name = .error cause := by
  unfold Refuses
  simp only [Lowering.resolveCallee_outcome, forall_const]
  exact mapError_refused_iff

end Builder

end LoopLang
