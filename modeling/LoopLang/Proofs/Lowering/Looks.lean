import LoopLang.Proofs.Lowering.Run
import LoopLang.Proofs.Scope.Frames
import Mathlib.Data.List.Forall2

/-!
Computations that look at no more than the open frames. What each of them answers, and for which
reasons it may fail, is said here once.
-/

namespace LoopLang

/-- Faults of a tree that no program has. -/
def Fault.IsOfTree : Fault → Prop
  | .notANode | .notAKind | .notIterable _ | .noLength _ | .notAName _ => True
  | .noFrame | .noBlock | .noEnclosingFunction | .emptyStack | .alreadyTerminated => False

/-- A tree is at fault. -/
def Failure.IsOfTree : Failure → Prop
  | .refused .. => False
  | .fault breach => breach.IsOfTree

/-- Causes that lie in what a name is bound to in the open frames, or in that it is not bound
there. -/
def Cause.IsOfName (scopes : Scopes) (named : String → Prop) : Cause → Prop
  | .unknownSymbol word hint | .unknownFunction word hint =>
    named word ∧ hint = suggest word scopes.visibleNames
  | .functionAsValue word | .variableAsFunction word | .voidVariable word => named word
  | .foreignVariable word owner => named word ∧ ∃ kind slot,
    scopes.lookup word = some (.var kind (some slot)) ∧ owner = slot.function.display
  | _ => False

/-- A cause that lies in one of some names lies in one of more names. -/
theorem Cause.IsOfName.mono {scopes : Scopes} {named wanted : String → Prop} {cause : Cause}
    (held : cause.IsOfName scopes named) (more : ∀ word, named word → wanted word) :
    cause.IsOfName scopes wanted := by
  cases cause <;> first
    | exact more _ held
    | exact ⟨more _ held.1, held.2⟩
    | exact held.elim

/-- A tree is an identifier whose name is displayed in some way. -/
def Tree.Names (word : String) : Tree → Prop
  | .identifier _ name _ => name.shown = word
  | _ => False

/-- A tree is no identifier whose name is a text. -/
def Tree.Unnamed (tree : Tree) : Prop :=
  ∀ place word kind, tree ≠ .identifier place (.text word) kind

namespace Lowering

open Code (Operand)

/--
Where some frames are open, a computation leaves the builder as it is. Its answer, or why it fails,
depends on those frames only.
-/
def Looks {α : Type} (action : Lowering α) (scopes : Scopes) (answers : α → Prop)
    (fails : Failure → Prop) : Prop :=
  ∃ result, (∀ start, start.scopes = scopes → action.outcome start = (result, start)) ∧
    match result with
    | .ok answer => answers answer
    | .error failure => fails failure

/-- A parameter that is accepted is an identifier with this name, and with this kind of values. -/
def TypedName.IsOf (found : TypedName) (parameter : Tree) : Prop :=
  ∃ name, parameter = .identifier found.place name (.kindValue (.exact found.kind.exact)) ∧
    found.name = name.shown

/-- Parameters that are accepted stand in a list, or there are none. -/
def ParametersAre (parameters : Tree) (found : List TypedName) : Prop :=
  (∃ items, parameters = .list items ∧ List.Forall₂ (fun item name => name.IsOf item) items found) ∨
    parameters = .text "" ∧ found = []

/-- Why one parameter is refused. -/
def ParameterFails (scopes : Scopes) (parameter : Tree) (failure : Failure) : Prop :=
  failure = .fault .noFrame ∧ scopes.current? = none ∨ failure.IsOfTree ∨
    (∃ name kind, failure = .refused (.parameterKind name kind) parameter.place) ∨
    failure = .refused .parameterNotIdentifier parameter.place

/-- Why the parameters of a function are refused: one of them is, or they are no list. -/
def ParametersFail (scopes : Scopes) (parameters : Tree) (failure : Failure) : Prop :=
  failure.IsOfTree ∨ failure = .refused .parameterNotIdentifier .unknown ∨
    ∃ items, parameters = .list items ∧ ∃ item ∈ items, ParameterFails scopes item failure

namespace Looks

variable {α β : Type} {scopes : Scopes} {action : Lowering α} {answers wanted : α → Prop}
  {fails refused : Failure → Prop}

/-- An answer is one to the scopes. -/
theorem pure {answer : α} (answered : answers answer) :
    (Pure.pure answer : Lowering α).Looks scopes answers fails :=
  ⟨.ok answer, fun _ _ => rfl, answered⟩

/-- A refusal fails as it says. -/
theorem refuse {cause : Cause} {place : Location} (may : fails (.refused cause place)) :
    (Lowering.refuse cause place : Lowering α).Looks scopes answers fails :=
  ⟨.error (.refused cause place), fun _ _ => rfl, may⟩

/-- So does a fault. -/
theorem stop {fault : Fault} (may : fails (.fault fault)) :
    (Lowering.stop fault : Lowering α).Looks scopes answers fails :=
  ⟨.error (.fault fault), fun _ _ => rfl, may⟩

/-- What is computed from the open frames is computed from those. -/
theorem here {next : Scopes → Lowering α} (rest : (next scopes).Looks scopes answers fails) :
    (Lowering.scopes >>= next).Looks scopes answers fails := by
  obtain ⟨result, same, held⟩ := rest
  refine ⟨result, fun start opened => ?_, held⟩
  subst opened
  exact same start rfl

/-- The second of two computations looks at the same frames. -/
theorem bind {next : α → Lowering β} {answers : β → Prop} (first : action.Looks scopes wanted fails)
    (rest : ∀ answer, wanted answer → (next answer).Looks scopes answers fails) :
    (action >>= next).Looks scopes answers fails := by
  -- A failure of the first part is that of the whole, an answer is handed on in the same scopes.
  obtain ⟨failure | answer, same, held⟩ := first
  · refine ⟨.error failure, fun start opened => ?_, held⟩
    rw [outcome_bind, same start opened]
  · obtain ⟨result, goes_on, told⟩ := rest answer held
    refine ⟨result, fun start opened => ?_, told⟩
    rw [outcome_bind, same start opened]
    exact goes_on start opened

/-- Less may be told of an answer and of a failure. -/
theorem imp (looks : action.Looks scopes answers fails)
    (answered : ∀ answer, answers answer → wanted answer)
    (failed : ∀ failure, fails failure → refused failure) : action.Looks scopes wanted refused := by
  obtain ⟨failure | answer, same, held⟩ := looks
  · exact ⟨_, same, failed failure held⟩
  · exact ⟨_, same, answered answer held⟩

/-- Less may be told of a failure. -/
theorem mono (looks : action.Looks scopes answers fails)
    (failed : ∀ failure, fails failure → refused failure) : action.Looks scopes answers refused :=
  looks.imp (fun _ held => held) failed

/-- The items of a list are looked at one after the other. -/
theorem mapM {step : β → Lowering α} {known : β → α → Prop} {items : List β}
    (steps : ∀ item ∈ items, (step item).Looks scopes (known item) fails) :
    (items.mapM step).Looks scopes (List.Forall₂ known items) fails := by
  -- Item by item, each in the same scopes.
  induction items with
  | nil => exact .pure .nil
  | cons item rest ih =>
    rw [List.mapM_cons]
    refine .bind (steps item List.mem_cons_self) fun answer first => ?_
    refine .bind (ih fun other inside => steps other (List.mem_cons_of_mem _ inside))
      fun _ others => ?_
    exact .pure (.cons first others)

/-- However such a computation ends, the builder is what it was. -/
theorem ends {start : Builder} (looks : action.Looks start.scopes answers fails) :
    action.Ends start (fun answer finish => answers answer ∧ finish = start)
      fun failure finish => fails failure ∧ finish = start := by
  obtain ⟨failure | answer, same, held⟩ := looks
  · rw [Ends, same start rfl]
    exact ⟨held, rfl⟩
  · rw [Ends, same start rfl]
    exact ⟨held, rfl⟩

/-- So what it answers is known of the frames. -/
theorem known {start finish : Builder} {answer : α}
    (looks : action.Looks start.scopes answers fails) (yields : action.Yields start answer finish) :
    answers answer :=
  (looks.ends.of_yields yields).1

/-! Where the computation stands. -/

/-- The innermost frame is looked for, and missed where no frame is open. -/
theorem currentFrame : Lowering.currentFrame.Looks scopes (scopes.current? = some ·)
    fun failure => failure = .fault .noFrame ∧ scopes.current? = none := by
  refine .here ?_
  split
  · exact .pure ‹_›
  · exact .stop ⟨rfl, ‹_›⟩

/-- The function around the current place is looked for, and missed outside of functions. -/
theorem currentFunction : Lowering.currentFunction.Looks scopes (scopes.function? = some ·)
    (· = .fault .noEnclosingFunction) := by
  refine .here ?_
  split
  · exact .pure ‹_›
  · exact .stop rfl

/-- So is the frame of that function. -/
theorem enclosingFunction : Lowering.enclosingFunction.Looks scopes (fun _ => True)
    (· = .fault .noEnclosingFunction) := by
  refine .here ?_
  split
  · exact .pure trivial
  · exact .stop rfl

/-- So is the current block. -/
theorem cursor : Lowering.cursor.Looks scopes (scopes.cursor = some ·) (· = .fault .noBlock) := by
  refine .here ?_
  split
  · exact .pure ‹_›
  · exact .stop rfl

/-! Names, signs and kinds. Only what stands in their place in no program is at fault. -/

/-- What is suggested for a name depends on the visible names. -/
theorem suggestion (name : String) : (Lowering.suggestion name).Looks scopes
    (· = suggest name scopes.visibleNames) fun _ => False :=
  .here (.pure rfl)

/-- A name that is used is known as it is displayed, and a text is always known. -/
theorem usedName (name : Tree) : (Lowering.usedName name).Looks scopes (· = name.shown)
    fun failure => failure.IsOfTree ∧ ∀ word, name ≠ .text word := by
  unfold Lowering.usedName
  split
  · exact .pure rfl
  · exact .stop ⟨trivial, nofun⟩
  -- What is neither a text nor a list is known if something is declared as it is displayed.
  · rename_i other _
    refine .here ?_
    split
    · exact .pure rfl
    · exact .stop ⟨trivial, other⟩

/-- So is the sign of an operation. -/
theorem usedSign (sign : Tree) : (Lowering.usedSign sign).Looks scopes (· = sign.shown)
    fun failure => failure.IsOfTree ∧ ∀ word, sign ≠ .text word := by
  unfold Lowering.usedSign
  split
  · exact .stop ⟨trivial, nofun⟩
  · exact .pure rfl

/-- Where a frame is open, only the tree may be at fault. -/
theorem declaredName (name : Tree) : (Lowering.declaredName name).Looks scopes (· = name.shown)
    fun failure => (failure.IsOfTree ∨ failure = .fault .noFrame ∧ scopes.current? = none) ∧
      ∀ word, name ≠ .text word := by
  unfold Lowering.declaredName
  split
  · exact .pure rfl
  -- A frame cannot take a list for a name, so the frame is looked for first.
  · exact .bind (currentFrame.mono fun _ held => ⟨.inr held, nofun⟩) fun _ _ =>
      .stop ⟨.inl trivial, nofun⟩
  · exact .pure rfl

/-- A kind has to be one, and is missed where a tree carries something else. -/
theorem carriedKind (kind : Tree) : (Lowering.carriedKind kind).Looks scopes
    (kind = .kindValue ·)
    fun failure => failure.IsOfTree ∧ ∀ carried, kind ≠ .kindValue carried := by
  unfold Lowering.carriedKind
  split
  · exact .pure rfl
  · rename_i other
    exact .stop ⟨trivial, other⟩

/-! What names are bound to. -/

/-- A variable is found with a slot of the function at hand, or it is refused for what it is bound
to. -/
theorem resolveVariable (name : String) (place : Location) :
    (Lowering.resolveVariable name place).Looks scopes
      (fun found => scopes.lookup name = some (.var found.1.exact (some found.2)) ∧
        scopes.function? = some found.2.function)
      fun failure => ∃ cause, failure = .refused cause place ∧ cause.IsOfName scopes
        (· = name) := by
  refine .here ?_
  -- The cases are those of the binding, and of the slot where it is that of a variable.
  split
  · exact .bind ((suggestion name).mono nofun) fun _ made => .refuse ⟨_, rfl, rfl, made⟩
  · exact .refuse ⟨_, rfl, rfl⟩
  · rename_i kind slot found
    split
    · rename_i stored slot valued
      refine .here ?_
      split
      · rename_i own
        exact .pure ⟨ExactKind.value?_eq_some.mp valued ▸ found, own⟩
      · exact .refuse ⟨_, rfl, rfl, kind, slot, found, rfl⟩
    · exact .refuse ⟨_, rfl, rfl⟩

/-- What is assigned to is a variable, and nothing is computed on the way. -/
theorem resolveTarget (place : Location) (operator : String) (target : Tree) :
    (Lowering.resolveTarget place operator target).Looks scopes
      (fun found => Tree.Names found.1 target ∧
        scopes.lookup found.1 = some (.var found.2.1.exact (some found.2.2)) ∧
        scopes.function? = some found.2.2.function)
      fun failure => operator ≠ "=" ∧ failure = .refused (.assignmentOperator operator) place ∨
        (∃ cause, failure = .refused cause target.place ∧ cause.IsOfName scopes
          (Tree.Names · target)) ∨
        target.Unnamed ∧
          (failure = .refused .targetNotIdentifier target.place ∨ failure.IsOfTree) := by
  unfold Lowering.resolveTarget
  split
  · dsimp only
    split
    -- Any sign but that of an assignment is refused first.
    · rename_i other
      exact .bind (.refuse (.inl ⟨other, rfl⟩)) fun _ (never : False) => never.elim
    -- The target is an identifier: its name is read, and then looked up.
    · refine .bind ((usedName _).mono fun failure held => .inr (.inr ⟨?_, .inr held.1⟩))
        fun name used => ?_
      · rintro _ word _ ⟨⟩
        exact held.2 word rfl
      · refine .bind ((resolveVariable name _).mono fun _ refused => ?_) fun found held => ?_
        · obtain ⟨cause, same, held⟩ := refused
          exact .inr (.inl ⟨cause, same, held.mono fun _ same => (same.trans used).symm⟩)
        · exact .pure ⟨used.symm, held⟩
  · rename_i other
    -- What is no identifier is refused, behind the check of the sign.
    have unnamed : target.Unnamed := fun place word kind => other place (.text word) kind
    dsimp only
    split
    · rename_i other
      exact .bind (.refuse (.inl ⟨other, rfl⟩)) fun _ (never : False) => never.elim
    · exact .refuse (.inr (.inr ⟨unnamed, .inl rfl⟩))

/-- What is called is a function. -/
theorem resolveCallee (place : Location) (callee : Tree) :
    (Lowering.resolveCallee place callee).Looks scopes
      (fun found => Tree.Names found.name callee ∧
        scopes.lookup found.name = some (.fn found.handle found.result found.parameters))
      fun failure => (∃ cause, failure = .refused cause callee.place ∧
          cause.IsOfName scopes (Tree.Names · callee)) ∨
        callee.Unnamed ∧ (failure = .refused .calleeNotIdentifier place ∨ failure.IsOfTree) := by
  unfold Lowering.resolveCallee
  split
  · refine .bind ((usedName _).mono fun failure held => .inr ⟨?_, .inr held.1⟩) fun name used => ?_
    · rintro _ word _ ⟨⟩
      exact held.2 word rfl
    -- The name means nothing, a variable, or a function.
    · refine .here ?_
      split
      · exact .bind ((suggestion name).mono fun _ never => never.elim) fun _ made =>
          .refuse (.inl ⟨_, rfl, used.symm, made⟩)
      · exact .refuse (.inl ⟨_, rfl, used.symm⟩)
      · exact .pure ⟨used.symm, ‹_›⟩
  · rename_i other
    exact .refuse (.inr ⟨fun place word kind => other place (.text word) kind, .inl rfl⟩)

/-! Checks, each of which refuses for one cause. -/

/-- The number of arguments has to be that of the parameters. -/
theorem checkCount (callee : Callee) (found : Nat) (place : Location) :
    (Lowering.checkCount callee found place).Looks scopes
      (fun _ => found = callee.parameters.length)
      fun failure => found ≠ callee.parameters.length ∧
        failure = .refused (.argumentCount callee.name callee.parameters.length found) place := by
  unfold Lowering.checkCount
  split
  · exact .pure ‹_›
  · exact .refuse ⟨‹_›, rfl⟩

/-- An argument has to be of the kind of its parameter. -/
theorem checkArgument (callee : String) (position : Nat) (expected : ExactKind) (value : Operand)
    (place : Location) :
    (Lowering.checkArgument callee position expected value place).Looks scopes
      (fun _ => value.kind.exact = expected)
      fun failure => value.kind.exact ≠ expected ∧
        failure = .refused (.argumentKind position callee expected value.kind) place := by
  unfold Lowering.checkArgument
  split
  · exact .pure ‹_›
  · exact .refuse ⟨‹_›, rfl⟩

/-- An operand of arithmetic has to be a number. -/
theorem checkNumber (sign : String) (operand : Operand) (place : Location) :
    (Lowering.checkNumber sign operand place).Looks scopes (fun _ => operand.kind = .num)
      fun failure => operand.kind ≠ .num ∧
        failure = .refused (.operandKind sign operand.kind) place := by
  unfold Lowering.checkNumber
  split
  · exact .pure ‹_›
  · exact .refuse ⟨‹_›, rfl⟩

/-! The heads of functions. -/

/-- A parameter has to be a name with an exact kind. -/
theorem typedName (parameter : Tree) :
    (Lowering.typedName parameter).Looks scopes (·.IsOf parameter)
      (ParameterFails scopes parameter) := by
  unfold Lowering.typedName
  split
  · refine .bind ((carriedKind _).mono fun _ held => .inr (.inl held.1)) fun kind carried => ?_
    -- Of the kind a value is asked, of the name that it is a text.
    split
    · rename_i exact
      refine .bind ((declaredName _).mono fun _ held => ?_) fun _ named => .pure ⟨_, ?_, named⟩
      · exact held.1.elim (.inr ∘ .inl) .inl
      · rw [carried, Kind.value_eq_some.mp exact]
    · exact .refuse (.inr (.inr (.inl ⟨_, _, rfl⟩)))
  · exact .refuse (.inr (.inr (.inr rfl)))

/-- Parameters have to be a list of these. -/
theorem typedNames (parameters : Tree) :
    (Lowering.typedNames parameters).Looks scopes (ParametersAre parameters)
      (ParametersFail scopes parameters) := by
  unfold Lowering.typedNames
  split
  -- The first parameter that fails is the one that is reported.
  · refine imp (mapM fun item inside => (typedName item).mono fun failure fails => ?_)
      (fun _ held => .inl ⟨_, rfl, held⟩) fun _ held => held
    exact .inr (.inr ⟨_, rfl, item, inside, fails⟩)
  · split
    · rename_i empty
      exact .pure (.inr ⟨congrArg Tree.text (String.isEmpty_iff.mp empty), rfl⟩)
    · exact .refuse (.inr (.inl rfl))
  · exact .stop (.inl trivial)

/-- The kind of a result has to be exact. -/
theorem statedResult (name : String) (result : Tree) (place : Location) :
    (Lowering.statedResult name result place).Looks scopes
      (fun exact => result = .kindValue (.exact exact))
      fun failure => failure.IsOfTree ∨ failure = .refused (.noResultKind name) place := by
  refine .bind ((carriedKind result).mono fun _ held => .inl held.1) fun kind carried => ?_
  -- Only an exact kind is a result; one that is to be inferred or missing is refused.
  split
  · exact .pure carried
  · exact .refuse (.inr rfl)
  · exact .refuse (.inr rfl)

/-- The name of the function that a program becomes is read off the settings. -/
theorem readName (name : Document) :
    (Lowering.readName name).Looks scopes (fun _ => True) Failure.IsOfTree := by
  cases name with
  | list _ => exact .stop trivial
  | object _ => exact .stop trivial
  | _ => exact .pure trivial

end Looks

end Lowering

end LoopLang
