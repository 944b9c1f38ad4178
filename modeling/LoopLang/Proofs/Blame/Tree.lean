import LoopLang.Program.Basic

/-! Programs all of whose places are known. -/

namespace LoopLang

variable (known : Location → Prop)

mutual

/-- Every place in an expression is a known one. -/
def Expression.StandsAt : Expression → Prop
  | .number place _ => known place
  | .boolean place _ => known place
  | .identifier place _ => known place
  | .call place callee arguments => known place ∧ known callee.place ∧ Expression.AllStand arguments
  | .binary place _ left right => known place ∧ left.StandsAt ∧ right.StandsAt
  | .assign place target value => known place ∧ known target.place ∧ value.StandsAt

/-- Every place in expressions is a known one. -/
def Expression.AllStand : List Expression → Prop
  | [] => True
  | expression :: rest => expression.StandsAt ∧ Expression.AllStand rest

end

/-- Every place in a label is a known one. -/
def Identifier.LabelStands (label : Option Identifier) : Prop := ∀ name ∈ label, known name.place

/-- Every place in parameters is a known one. -/
def Parameter.AllStand (parameters : List Parameter) : Prop :=
  ∀ parameter ∈ parameters, known parameter.place

mutual

/-- Every place in a statement is a known one. -/
def Statement.StandsAt : Statement → Prop
  | .function place name parameters bodyPlace body _ =>
    known place ∧ known name.place ∧ Parameter.AllStand known parameters ∧ known bodyPlace ∧
      Statement.AllStand body
  | .declare place name _ value => known place ∧ known name.place ∧ value.StandsAt known
  | .block place body => known place ∧ Statement.AllStand body
  | .return place none => known place
  | .return place (some value) => known place ∧ value.StandsAt known
  | .when place condition thenPlace thenBody =>
    known place ∧ condition.StandsAt known ∧ known thenPlace ∧ Statement.AllStand thenBody
  | .choose place condition thenPlace thenBody elsePlace elseBody =>
    known place ∧ condition.StandsAt known ∧ known thenPlace ∧ Statement.AllStand thenBody ∧
      known elsePlace ∧ Statement.AllStand elseBody
  | .loop place condition bodyPlace body label =>
    known place ∧ condition.StandsAt known ∧ known bodyPlace ∧ Statement.AllStand body ∧
      Identifier.LabelStands known label
  | .break place label => known place ∧ Identifier.LabelStands known label
  | .continue place label => known place ∧ Identifier.LabelStands known label
  -- A statement that is an expression has no place of its own.
  | .evaluate value => value.StandsAt known

/-- Every place in statements is a known one. -/
def Statement.AllStand : List Statement → Prop
  | [] => True
  | statement :: rest => statement.StandsAt ∧ Statement.AllStand rest

end

variable {known}

/-- An expression stands at a known place. -/
theorem Expression.StandsAt.place {expression : Expression} (stands : expression.StandsAt known) :
    known expression.place := by
  cases expression <;> first | exact stands | exact stands.1

/-- Another expression behind some. -/
theorem Expression.AllStand.append {expressions : List Expression} {last : Expression}
    (stand : Expression.AllStand known expressions) (stands : last.StandsAt known) :
    Expression.AllStand known (expressions ++ [last]) := by
  induction expressions with
  | nil => exact ⟨stands, trivial⟩
  | cons expression rest ih => exact ⟨stand.1, ih stand.2⟩

/-- Another statement behind some. -/
theorem Statement.AllStand.append {statements : List Statement} {last : Statement}
    (stand : Statement.AllStand known statements) (stands : last.StandsAt known) :
    Statement.AllStand known (statements ++ [last]) := by
  induction statements with
  | nil => exact ⟨stands, trivial⟩
  | cons statement rest ih => exact ⟨stand.1, ih stand.2⟩

end LoopLang
