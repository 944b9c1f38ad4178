import LoopLang.Lowering.Statement

/-! Running the steps of lowering: how each of them ends, and how they follow each other. -/

namespace LoopLang.Lowering

variable {α β : Type} {start finish : Builder}

/-- What a computation answers, and the builder that it leaves. -/
def outcome (action : Lowering α) (start : Builder) : Except Failure α × Builder :=
  action.run.run start

/-- A computation succeeds with an answer and leaves a builder. -/
def Yields (action : Lowering α) (start : Builder) (answer : α) (finish : Builder) : Prop :=
  action.outcome start = (.ok answer, finish)

/-- However a computation ends, its answer or its failure is as wanted, and so is the builder that
it leaves. -/
def Ends (action : Lowering α) (start : Builder) (done : α → Builder → Prop)
    (failed : Failure → Builder → Prop) : Prop :=
  match action.outcome start with
  | (.ok answer, finish) => done answer finish
  | (.error failure, finish) => failed failure finish

variable {action : Lowering α} {next : α → Lowering β} {done wanted : α → Builder → Prop}
  {failed refused : Failure → Builder → Prop}

/-- The second of two computations runs where the first one has succeeded. -/
theorem outcome_bind (action : Lowering α) (next : α → Lowering β) (start : Builder) :
    (action >>= next).outcome start =
      match action.outcome start with
      | (.ok answer, middle) => (next answer).outcome middle
      | (.error failure, middle) => (.error failure, middle) := by
  show (match action.outcome start with
    | (result, middle) => (ExceptT.bindCont next result).run middle) = _
  rcases action.outcome start with ⟨_ | _, _⟩ <;> rfl

/-- Within a new frame a computation ends as it does there, and the frame is closed behind it. -/
theorem withFrame_outcome (block : BlockRef) (options : FrameOptions) (action : Lowering α)
    (start : Builder) :
    (withFrame (some block) options action).outcome start =
      closeFrame (action.outcome { start with scopes := start.scopes.push (some block) options }).1
        (action.outcome { start with scopes := start.scopes.push (some block) options }).2 := rfl

/-- Without a block for its frame a computation does not run. -/
theorem withFrame_nowhere (options : FrameOptions) (action : Lowering α) (start : Builder) :
    (withFrame none options action).outcome start =
      (.error (.fault .noBlock), { start with scopes := start.scopes.push none options }) := rfl

/-- A nested block emits where code is emitted. -/
theorem inBlock_outcome (action : Lowering α) (start : Builder) :
    (inBlock action).outcome start = (withFrame start.scopes.cursor {} action).outcome start := rfl

/-- What holds however a computation ends holds where it succeeds. -/
theorem Ends.of_yields {answer : α} (ends : action.Ends start done failed)
    (yields : action.Yields start answer finish) : done answer finish := by
  unfold Ends at ends
  rw [yields] at ends
  exact ends

/-- A computation ends in some way. -/
theorem Ends.any : action.Ends start (fun _ _ => True) fun _ _ => True := by
  unfold Ends
  split <;> trivial

/-- Less may be wanted of both ends. -/
theorem Ends.imp (ends : action.Ends start done failed)
    (succeeds : ∀ answer finish, done answer finish → wanted answer finish)
    (fails : ∀ failure finish, failed failure finish → refused failure finish) :
    action.Ends start wanted refused := by
  unfold Ends at *
  split <;> simp_all

/-- Two things that hold however a computation ends hold together. -/
theorem Ends.and (first : action.Ends start done failed)
    (second : action.Ends start wanted refused) :
    action.Ends start (fun answer finish => done answer finish ∧ wanted answer finish)
      (fun failure finish => failed failure finish ∧ refused failure finish) := by
  unfold Ends at *
  split <;> simp_all

/-- A computation succeeds after another one if both succeed. -/
theorem bind_yields {answer : β} : (action >>= next).Yields start answer finish ↔
    ∃ first middle, action.Yields start first middle ∧
    (next first).Yields middle answer finish := by
  simp only [Yields, outcome_bind]
  rcases action.outcome start with ⟨_ | _, _⟩ <;> simp [and_assoc]

/-- How two computations end, one after the other. -/
theorem bind_ends {done : β → Builder → Prop} : (action >>= next).Ends start done failed ↔
    action.Ends start (fun first middle => (next first).Ends middle done failed) failed := by
  simp only [Ends, outcome_bind]
  rcases action.outcome start with ⟨_ | _, _⟩ <;> simp

/-- Two computations end as wanted, if the second one does behind whatever the first one leaves. -/
theorem Ends.bind {done : β → Builder → Prop} (first : action.Ends start wanted failed)
    (second : ∀ answer middle, wanted answer middle → (next answer).Ends middle done failed) :
    (action >>= next).Ends start done failed :=
  bind_ends.mpr (first.imp second fun _ _ failure => failure)

/-! How each of the small steps ends. -/

section Steps

variable {done : α → Builder → Prop}

/-- An answer ends where it begins. -/
@[simp] theorem pure_ends {answer : α} :
    (pure answer : Lowering α).Ends start done failed ↔ done answer start :=
  Iff.rfl

/-- A refusal fails where it stands. -/
@[simp] theorem refuse_ends {cause : Cause} {place : Location} :
    (refuse cause place : Lowering α).Ends start done failed ↔
    failed (.refused cause place) start :=
  Iff.rfl

/-- So does a fault. -/
@[simp] theorem stop_ends {fault : Fault} :
    (stop fault : Lowering α).Ends start done failed ↔ failed (.fault fault) start :=
  Iff.rfl

/-- A changed answer ends where the answer does. -/
@[simp] theorem map_ends {change : α → β} {done : β → Builder → Prop} :
    (change <$> action).Ends start done failed ↔
      action.Ends start (fun answer finish => done (change answer) finish) failed := by
  rw [← bind_pure_comp, bind_ends]
  exact Iff.rfl

/-- The scopes are those of the builder. -/
@[simp] theorem scopes_ends {done : Scopes → Builder → Prop} :
    scopes.Ends start done failed ↔ done start.scopes start :=
  Iff.rfl

/-- A line is added to the debug output. -/
@[simp] theorem note_ends {line : String} {done : Unit → Builder → Prop} :
    (note line).Ends start done failed ↔ done () { start with scopes := start.scopes.note line } :=
  Iff.rfl

/-- The innermost frame is found where there is one. -/
theorem currentFrame_ends {frame : Frame} {done : Frame → Builder → Prop}
    (current : start.scopes.current? = some frame) :
    currentFrame.Ends start done failed ↔ done frame start := by
  simp [currentFrame, bind_ends, current]

/-- So is the function around it. -/
theorem currentFunction_ends {function : Code.Name} {done : Code.Name → Builder → Prop}
    (current : start.scopes.function? = some function) :
    currentFunction.Ends start done failed ↔ done function start := by
  simp [currentFunction, bind_ends, current]

/-- So is the current block. -/
theorem cursor_ends {block : BlockRef} {done : BlockRef → Builder → Prop}
    (here : start.scopes.cursor = some block) :
    cursor.Ends start done failed ↔ done block start := by
  simp [cursor, bind_ends, here]

/-- An instruction is put at the end of the current block. -/
theorem emit_ends {block : BlockRef} {base : String} {make : String → Code.Instruction}
    {done : String → Builder → Prop} (here : start.scopes.cursor = some block) :
    (emit base make).Ends start done failed ↔
      done (start.code.append block base make).1
        { start with code := (start.code.append block base make).2 } := by
  simp only [emit, bind_ends, cursor_ends here]
  exact Iff.rfl

/-- A block is added to a function. -/
@[simp] theorem addBlock_ends {function : Code.Name} {base : String}
    {done : BlockRef → Builder → Prop} :
    (addBlock function base).Ends start done failed ↔
      done ⟨function, (start.code.addBlock function base).1⟩
        { start with code := (start.code.addBlock function base).2 } :=
  Iff.rfl

/-- A slot is reserved in the function around the current place. -/
theorem createSlot_ends {function : Code.Name} {base : String} {kind : ValueKind}
    {done : Slot → Builder → Prop} (current : start.scopes.function? = some function) :
    (createSlot base kind).Ends start done failed ↔
      done ⟨function, (start.code.addSlot function base kind).1⟩
        { start with code := (start.code.addSlot function base kind).2 } := by
  simp only [createSlot, bind_ends, currentFunction_ends current]
  exact Iff.rfl

/-- A function is added to the module. -/
@[simp] theorem createFunction_ends {base : Code.Name} {parameters : List (String × ValueKind)}
    {result : ExactKind} {done : Code.Function → Builder → Prop} :
    (createFunction base parameters result).Ends start done failed ↔
      done (start.code.addFunction base parameters result).1
        { start with code := (start.code.addFunction base parameters result).2 } :=
  Iff.rfl

/-- The suffix is made from the counter, which goes on by one. -/
@[simp] theorem nextSuffix_ends {done : String → Builder → Prop} :
    nextSuffix.Ends start done failed ↔
      done ("." ++ toString start.blockCount) { start with blockCount := start.blockCount + 1 } :=
  Iff.rfl

end Steps

/-! What stands for names, signs and kinds in every program is read without more ado. -/

/-- A text is a name as it stands. -/
@[simp]
theorem usedName_text (name : String) : usedName (.text name) = pure name := rfl

/-- It is a sign as well. -/
@[simp]
theorem usedSign_text (sign : String) : usedSign (.text sign) = pure sign := rfl

/-- And it may be declared. -/
@[simp]
theorem declaredName_text (name : String) : declaredName (.text name) = pure name := rfl

/-- A kind is carried as it stands. -/
@[simp]
theorem carriedKind_kindValue (kind : Kind) : carriedKind (.kindValue kind) = pure kind := rfl

/-- What else stands in place of a kind breaks a rule. -/
theorem carriedKind_eq_stop {kind : Tree} (other : ∀ carried, kind ≠ .kindValue carried) :
    carriedKind kind = stop .notAKind := by
  unfold carriedKind
  split
  · exact absurd rfl (other _)
  · rfl

/-- Nothing runs behind a broken rule. -/
theorem stop_bind {fault : Fault} {next : α → Lowering β} : stop fault >>= next = stop fault := rfl

/-- A name that is declared is what its tree displays, whatever is done with it. -/
theorem declaredName_bind (name : Tree) (next : String → Lowering β) :
    declaredName name >>= next = declaredName name >>= fun _ => next name.shown := by
  unfold declaredName
  split
  · rfl
  · simp only [bind_assoc, stop_bind]
  · rfl

/-- What the declaration of a variable does once its kind is known. -/
def declareAs (place : Location) (name value : Tree) (kind : Kind) : Lowering Unit :=
  if kind = .exact .void then do
    let _ ← value.lowerExpression
    declare (← declaredName name) (.var .void none) place
  else do
    let initial ← value.lowerValue
    match kind.definite?.bind ExactKind.value? with
    | some kind =>
      let name ← declaredName name
      declareVariable name name kind initial place
    | none => refuse (.cannotInfer name.shown) place

/-- The kind of what lowering an expression answers, which is `void` where that is no value. -/
def answerKind : Option Code.Operand → ExactKind
  | some value => value.kind.exact
  | none => .void

/-- Only where there is no value, the kind is `void`. -/
theorem answerKind_eq_void {answer : Option Code.Operand} :
    answerKind answer = .void ↔ answer = none := by
  cases answer with
  | none => simp [answerKind]
  | some value => cases kind : value.kind <;> simp [answerKind, ValueKind.exact, kind]

/-- The kind of a variable is stated or inferred before anything is lowered. -/
theorem lowerDeclaration_eq (place : Location) (name stated value : Tree) :
    lowerDeclaration place name stated value =
      carriedKind stated >>= fun stated =>
        (if stated.isExact then pure stated else inferKind name.shown value) >>=
          declareAs place name value := by
  unfold lowerDeclaration
  congr 1
  funext stated
  cases stated.isExact <;> rfl

/-- The second arm of a branch is lowered as what stands there is, if something does. -/
theorem secondArm_forall {motive : Lowering Unit → Prop} {arm : Tree} {lowered : Lowering Unit}
    (held : motive lowered) :
    ∀ second ∈ secondArm? arm lowered, motive second := by
  intro second stands
  unfold secondArm? at stands
  -- A null is no second arm, any other tree is.
  split at stands
  · cases stands
  · cases stands
    exact held

end LoopLang.Lowering
