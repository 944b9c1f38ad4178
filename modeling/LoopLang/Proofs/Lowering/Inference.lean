import LoopLang.Proofs.Lowering.Nesting
import LoopLang.Proofs.Scope.Frames

/-! Inference agrees with lowering: an expression is inferred to have the kind of what lowering it
answers. -/

namespace LoopLang

open Code (Operand)

/-- Where every binding fits the code, every name is bound definitely. -/
theorem Builder.Sound.definite {builder : Builder} (sound : builder.Sound) :
    builder.scopes.Definite := by
  intro frame member (name, binding) listed
  have fits := (sound.fits frame member).bindings (name, binding) listed
  -- A variable with a slot has the kind of its slot, one without is void, and a function has an
  -- exact result.
  match binding, fits with
  | .var _ (some _), ⟨_, stored, _, kind, _, _⟩ =>
    show true = _
    rw [kind, ValueKind.value?_exact]
    rfl
  | .var _ none, void =>
    show false = _
    rw [void]
    rfl
  | .fn _ _ _, ⟨_, _, result, _⟩ =>
    show Kind.isExact _ = true
    rw [result]
    rfl

/-- What a name is bound to in definite scopes is definite. -/
theorem Scopes.Definite.lookup {scopes : Scopes} (definite : scopes.Definite) {name : String}
    {binding : Binding} (found : scopes.lookup name = some binding) : binding.IsDefinite := by
  obtain ⟨frame, member, listed⟩ := Scopes.mem_of_lookup found
  exact definite frame member (name, binding) listed

namespace Lowering

variable {α β : Type} {action : Lowering α} {start : Builder}

/-- Wherever a computation succeeds, its answer is as wanted. -/
def Answers (action : Lowering α) (start : Builder) (wanted : α → Prop) : Prop :=
  ∀ answer finish, action.Yields start answer finish → wanted answer

namespace Answers

/-- A computation that gives an answer right away answers so. -/
theorem pure {answer : α} {wanted : α → Prop} (held : wanted answer) :
    Answers (Pure.pure answer) start wanted := by
  intro found finish yields
  cases yields
  exact held

/-- A refusal never answers. -/
theorem refuse (cause : Cause) (place : Location) {wanted : α → Prop} :
    Answers (Lowering.refuse cause place) start wanted := by
  intro found finish yields
  cases yields

/-- What the second computation answers may depend on what the first one has answered. -/
theorem bind {next : α → Lowering β} {middle : α → Prop} {wanted : β → Prop}
    (first : Answers action start middle)
    (second : ∀ answer builder, middle answer → Answers (next answer) builder wanted) :
    Answers (action >>= next) start wanted := by
  intro answer finish yields
  obtain ⟨between, builder, begun, ended⟩ := bind_yields.mp yields
  exact second between builder (first between builder begun) answer finish ended

/-- What is wanted of an answer is known of it where there is one. -/
theorem ends {wanted : α → Prop} (answers : Answers action start wanted) :
    action.Ends start (fun answer _ => wanted answer) fun _ _ => True := by
  unfold Ends
  split
  · exact answers _ _ ‹_›
  · trivial

/-- What is computed from the open frames only answers what is said of it. -/
theorem of_looks {answers wanted : α → Prop} {fails : Failure → Prop}
    (looks : action.Looks start.scopes answers fails)
    (known : ∀ answer, answers answer → wanted answer) :
    Answers action start wanted :=
  fun answer _ yields => known answer (looks.ends.of_yields yields).1

/-- Nothing need be known of an answer. -/
theorem any : Answers action start fun _ => True := fun _ _ _ => trivial

end Answers

/-- A variable that resolves is bound with the kind of its slot. -/
theorem resolveVariable_answers (name : String) (place : Location) :
    (resolveVariable name place).Answers start fun (kind, _) =>
      ∃ slot, start.scopes.lookup name = some (.var kind.exact slot) :=
  .of_looks (.resolveVariable name place) fun _ held => ⟨_, held.1⟩

/-- The value of a variable has the kind that the variable is bound with. -/
theorem loadVariable_answers (name : String) (place : Location) :
    (loadVariable name place).Answers start fun value =>
      ∃ slot, start.scopes.lookup name = some (.var value.kind.exact slot) :=
  .bind (resolveVariable_answers name place) fun _ _ bound => .bind .any fun _ _ _ => .pure bound

/-- The target of an assignment is bound with the kind of its slot. -/
theorem resolveTarget_answers (place targetPlace : Location) (name : String) (kind : Tree) :
    (resolveTarget place "=" (.identifier targetPlace (.text name) kind)).Answers start
      fun (_, kind, _) => ∃ slot, start.scopes.lookup name = some (.var kind.exact slot) := by
  refine .of_looks (.resolveTarget _ _ _) fun found held => ?_
  obtain ⟨named, bound, _⟩ := held
  have same : name = found.1 := named
  rw [same]
  exact ⟨_, bound⟩

/-- A function that a call names is bound with the result that the call expects. -/
theorem resolveCallee_answers (place calleePlace : Location) (name : String) (kind : Tree) :
    (resolveCallee place (.identifier calleePlace (.text name) kind)).Answers start fun callee =>
      start.scopes.lookup name = some (.fn callee.handle callee.result callee.parameters) := by
  refine .of_looks (.resolveCallee _ _) fun found held => ?_
  obtain ⟨named, bound⟩ := held
  have same : name = found.name := named
  rw [same]
  exact bound

/-- A call has a value of the kind of the result, and none where that is `void`. -/
theorem emitCall_answers {callee : Callee} {result : ExactKind}
    (exact : callee.result = .exact result) (arguments : List Operand) :
    (emitCall callee arguments).Answers start fun answer => answerKind answer = result := by
  unfold emitCall
  rw [exact]
  -- A call has a value unless its result is void.
  split
  · rename_i valued
    exact .bind .any fun _ _ _ => .pure (ExactKind.value?_eq_some.mp valued).symm
  · rename_i nothing
    exact .bind .any fun _ _ _ => .pure (ExactKind.value?_eq_none.mp nothing).symm

/-- A value is stored only where it has the kind of the variable. -/
theorem storeVariable_answers (name : String) (kind : ValueKind) (slot : Slot) (value : Operand)
    (place : Location) :
    (storeVariable name kind slot value place).Answers start fun _ => value.kind = kind := by
  unfold storeVariable
  -- A value of another kind is refused.
  split
  · rename_i same
    exact fun _ _ _ => same
  · exact .refuse _ _

/-- Arithmetic has a number as its result, and as its left operand. -/
theorem emitArithmetic_answers (sign : String) (left right : Operand) (place : Location) :
    (emitArithmetic sign left right place).Answers start fun result =>
      left.kind = .num ∧ result.kind = .num := by
  -- The sign is numeric, and its operands are checked to be numbers.
  have left_checked : (checkNumber sign left place).Answers start fun _ => left.kind = .num :=
    .of_looks (.checkNumber sign left place) fun _ held => held
  unfold emitArithmetic
  split
  · exact .refuse _ _
  · exact .bind left_checked fun _ _ left_num => .bind .any fun _ _ _ => .bind .any fun _ _ _ =>
      .pure ⟨left_num, rfl⟩

/-- A value that must be there is what the expression answers. -/
theorem required_answers {expression : Lowering (Option Operand)} {place : Location}
    {inferred : Except InferenceError Kind}
    (answers : expression.Answers start fun answer => inferred = .ok (.exact (answerKind answer))) :
    (required place expression).Answers start fun value =>
      inferred = .ok (.exact value.kind.exact) := by
  refine .bind answers fun answer builder held => ?_
  -- Without a value there is a refusal, which answers nothing.
  split
  · exact .pure held
  · exact .refuse _ _

end Lowering

namespace Tree

/-- A variable is inferred to have the kind that it is bound with. -/
theorem infer_variable {scopes : Scopes} {name : String} {kind : ExactKind} {slot : Option Slot}
    (bound : scopes.lookup name = some (.var kind slot)) (place : Location) :
    infer scopes (.identifier place (.text name) (.kindValue .infer)) = .ok (.exact kind) := by
  have settled : identifierKind? scopes (.text name) (.kindValue .infer) = .ok
      (some (.exact kind)) := by
    simp [identifierKind?, boundTo, bound, Kind.isExact, Kind.definite?, Except.map]
  simp only [infer, wholeKind, settledKind, settled, orElseKind, Except.map, Option.getD]

/-- A call is inferred to have the kind of the result of the function that it names. -/
theorem infer_call {scopes : Scopes} {name : String} {handle : Code.Name} {result : Kind}
    {parameters : List ExactKind} (bound : scopes.lookup name = some (.fn handle result parameters))
    (place calleePlace : Location) (kind arguments : Tree) :
    infer scopes (.callExpression place (.identifier calleePlace (.text name) kind) arguments) =
      .ok result := by
  -- The callee decides alone, and its result is looked up.
  have settled : calleeKind? scopes (.identifier calleePlace (.text name) kind) = .ok
      (some result) := by
    simp [calleeKind?, boundTo, bound, Except.map]
  simp only [infer, wholeKind, settledKind, settled, orElseKind, Except.map, Option.getD]

/-- An operation is inferred to have the kind of its left side. -/
theorem infer_binary (scopes : Scopes) (place : Location) (left right operator : Tree) :
    infer scopes (.binaryExpression place left right operator) = infer scopes left := by
  -- The left operand decides, and its answer stands for the whole.
  have settled : settledKind scopes (.binaryExpression place left right operator) =
      (infer scopes left).map some := by
    simp only [settledKind, infer]
  show (settledKind scopes (.binaryExpression place left right operator)).map _ = _
  rw [settled]
  cases infer scopes left <;> rfl

/-- An assignment is inferred to have the kind of its left side. -/
theorem infer_assignment (scopes : Scopes) (place : Location) (left right operator : Tree) :
    infer scopes (.assignmentExpression place left right operator) = infer scopes left := by
  -- The target decides, and its answer stands for the whole.
  have settled : settledKind scopes (.assignmentExpression place left right operator) =
      (infer scopes left).map some := by
    simp only [settledKind, infer]
  show (settledKind scopes (.assignmentExpression place left right operator)).map _ = _
  rw [settled]
  cases infer scopes left <;> rfl

end Tree

namespace Expression

open Lowering

/-- In definite scopes an expression is inferred to have the kind of what lowering it answers. -/
theorem lowerExpression_answers {scopes : Scopes} (definite : scopes.Definite) {start : Builder}
    (same : ∀ name, start.scopes.lookup name = scopes.lookup name) :
    ∀ expression : Expression, expression.toTree.lowerExpression.Answers start fun answer =>
      expression.toTree.infer scopes = .ok (.exact (answerKind answer))
  | .number _ _ => .pure rfl
  | .boolean _ _ => .pure rfl
  | .identifier place name => by
    show Lowering.Answers (do return some (← loadVariable name place)) start _
    -- A variable has the kind that it was declared with.
    refine .bind (loadVariable_answers name place) fun value _ found => .pure ?_
    obtain ⟨slot, bound⟩ := found
    exact Tree.infer_variable ((same name).symm.trans bound) place
  | .call place callee arguments => by
    -- A call has the result that its function promises.
    refine .bind (resolveCallee_answers place callee.place callee.name (.kindValue .infer))
      fun found _ bound => ?_
    rw [same] at bound
    obtain ⟨result, exact⟩ : ∃ result, found.result = .exact result := by
      have known := definite.lookup bound
      cases shape : found.result <;> simp_all [Binding.IsDefinite, Kind.isExact, Kind.definite?]
    refine .bind .any fun values _ _ => fun answer finish yields => ?_
    rw [emitCall_answers exact values answer finish yields, ← exact]
    exact Tree.infer_call bound place callee.place (.kindValue .infer) _
  | .binary place operator left right => by
    -- The left operand must be a number, which the right one has no part in.
    refine .bind (required_answers (lowerExpression_answers definite same left))
      fun first _ inferred => ?_
    refine .bind .any fun second _ _ => .bind .any fun _ _ _ =>
      .bind (emitArithmetic_answers _ _ _ _) fun result _ numbers => .pure ?_
    obtain ⟨left_num, num⟩ := numbers
    show Tree.infer scopes
      (.binaryExpression place left.toTree right.toTree (.text operator.sign)) = _
    rw [Tree.infer_binary, inferred, left_num, answerKind, num]
  | .assign place target value => by
    -- An assignment has the kind of its target, which its value must have too.
    refine .bind (resolveTarget_answers place target.place target.name (.kindValue .infer))
      fun resolved _ found => ?_
    obtain ⟨_, kind, _⟩ := resolved
    obtain ⟨slot, bound⟩ := found
    refine .bind .any fun stored _ _ => .bind (storeVariable_answers _ _ _ _ _)
      fun _ _ fits => .pure ?_
    show Tree.infer scopes (.assignmentExpression place (target.toTree .infer) _ (.text "=")) = _
    rw [Tree.infer_assignment, answerKind, fits]
    exact Tree.infer_variable ((same target.name).symm.trans bound) target.place

end Expression

/-- A name is declared already, or a rule of building is broken; neither has to do with kinds. -/
def Failure.IsClash (name : String) (place : Location) (failure : Failure) : Prop :=
  failure = .refused (.alreadyDefined name) place ∨ ∃ fault, failure = .fault fault

namespace Lowering

variable {α β : Type} {action : Lowering α} {start : Builder} {name : String} {place : Location}

/-- If a computation fails, then for no reason that has to do with kinds. -/
def Clashes (name : String) (place : Location) (action : Lowering α) : Prop :=
  ∀ start, action.Ends start (fun _ _ => True) fun failure _ => failure.IsClash name place

namespace Clashes

/-- An answer clashes with nothing. -/
theorem pure (answer : α) : Clashes name place (Pure.pure answer) := fun _ => trivial

/-- A fault is no clash. -/
theorem stop (fault : Fault) : Clashes (α := α) name place (Lowering.stop fault) :=
  fun _ => .inr ⟨fault, rfl⟩

/-- A refusal of the name is the clash itself. -/
theorem refuse : Clashes (α := α) name place (Lowering.refuse (.alreadyDefined name) place) :=
  fun _ => .inl rfl

/-- Two computations fail for no other reason if none of them does. -/
theorem bind {next : α → Lowering β} (first : Clashes name place action)
    (second : ∀ answer, Clashes name place (next answer)) : Clashes name place (action >>= next) :=
  fun start => Ends.bind (first start) fun answer middle _ => second answer middle

/-- Looking for the innermost frame clashes with nothing. -/
theorem currentFrame : Clashes name place Lowering.currentFrame := by
  refine fun _ => (Looks.currentFrame).ends.imp (fun _ _ _ => trivial) ?_
  rintro _ _ ⟨⟨rfl, _⟩, _⟩
  exact .inr ⟨_, rfl⟩

/-- Nor does reserving a slot. -/
theorem createSlot (base : String) (kind : ValueKind) :
    Clashes name place (Lowering.createSlot base kind) := by
  refine .bind (.bind (fun _ => trivial) fun scopes => ?_) fun _ _ => trivial
  split
  · exact .pure _
  · exact .stop _

/-- Nor does emitting an instruction. -/
theorem emitUnnamed (instruction : Code.Instruction) :
    Clashes name place (Lowering.emitUnnamed instruction) := by
  refine .bind (.bind (.bind (fun _ => trivial) fun scopes => ?_) fun _ _ => trivial)
    fun _ => .pure _
  split
  · exact .pure _
  · exact .stop _

/-- A name clashes where it has been declared in the same frame. -/
theorem declare (binding : Binding) : Clashes name place (Lowering.declare name binding place) := by
  intro start
  show (setScopes _ (start.scopes.declare name binding)).Ends start _ _
  unfold Scopes.declare
  -- Without a frame there is an internal failure; else the name clashes or is new.
  split
  · exact .inr ⟨_, rfl⟩
  · split
    · exact .inl rfl
    · trivial

/-- A variable whose first value has its kind is refused only where its name is taken. -/
theorem declareVariable (base : String) (value : Operand) :
    Clashes name place (Lowering.declareVariable name base value.kind value place) := by
  -- The value has the kind of the name, so only the name can clash.
  have stores : Clashes name place (do
      let slot ← Lowering.createSlot base value.kind
      Lowering.storeVariable name value.kind slot value place
      Lowering.declare name (.var value.kind.exact (some slot)) place) := by
    refine .bind (.createSlot _ _) fun slot => .bind ?_ fun _ => .declare _
    unfold Lowering.storeVariable
    rw [if_pos rfl]
    exact .emitUnnamed _
  refine .bind .currentFrame fun frame => ?_
  dsimp only
  split
  · exact .bind .refuse fun _ => stores
  · exact stores

end Clashes

end Lowering

namespace Lowering

/-- Where a value lowers to what its inferred kind says, only a taken name can stop the declaration
behind it. -/
theorem declareAs_ends {start : Builder} (place : Location) (name : String) {value : Tree}
    {kind : Kind}
    (answers : value.lowerExpression.Answers start fun answer =>
      kind = .exact (answerKind answer)) :
    (declareAs place (.text name) value kind).Ends start
      (fun _ _ => kind = .exact .void → ∃ finish, value.lowerExpression.Yields start none finish)
      (fun failure _ => failure.IsClash name place ∨ failure.IsInferred ∧
        ∃ finish, value.lowerExpression.outcome start = (.error failure, finish)) := by
  unfold declareAs Tree.lowerValue required
  rcases ran : value.lowerExpression.outcome start with ⟨failure | answer, middle⟩
  -- The value itself is refused, whatever kind is inferred for it.
  · have other := (Tree.lowerExpression_quiet_all.1 value).reason ran
    split <;> simp only [bind_ends] <;> unfold Ends <;> rw [ran] <;> exact .inr ⟨other, _, rfl⟩
  have known := answers answer middle ran
  split
  · rename_i void
    -- Inferred to be void: the value is lowered, and has no value.
    rw [void] at known
    obtain rfl : answer = none := answerKind_eq_void.mp (Kind.exact.inj known).symm
    rw [bind_ends]
    unfold Ends
    rw [ran]
    exact (Clashes.declare (.var .void none) middle).imp (fun _ _ _ _ => ⟨middle, ran⟩)
      fun _ _ clash => .inl clash
  · rename_i valued
    cases answer with
    | none => exact absurd known valued
    -- Inferred to have a value: it is the one that is stored.
    | some initial =>
      subst known
      simp only [bind_ends]
      unfold Ends
      rw [ran]
      show Ends _ middle _ _
      simp only [answerKind, Kind.definite?, Option.bind, ValueKind.value?_exact]
      exact (Clashes.declareVariable name initial middle).imp (fun _ _ _ void => absurd void valued)
        fun _ _ clash => .inl clash

end Lowering

namespace Expression

open Lowering

/-- A declaration without a stated kind is refused only with its value or for its name. -/
theorem declare_ends {builder : Builder} (definite : builder.scopes.Definite) (place : Location)
    (name : Identifier) (value : Expression) :
    (Statement.declare place name none value).toTree.lowerStatement.Ends builder
      (fun _ _ => value.toTree.infer builder.scopes = .ok (.exact .void) → ∃ line finish,
        value.toTree.lowerExpression.Yields
          { builder with scopes := builder.scopes.note line } none finish)
      (fun failure _ => failure.IsClash name.name place ∨ failure.IsInferred ∧ ∃ line finish,
        value.toTree.lowerExpression.outcome { builder with scopes := builder.scopes.note line } =
          (.error failure, finish)) := by
  show (lowerDeclaration place (.text name.name) (.kindValue .infer) value.toTree).Ends builder _ _
  rw [lowerDeclaration_eq, carriedKind_kindValue, pure_bind, if_neg (by decide), bind_ends]
  unfold inferKind
  rw [bind_ends, scopes_ends]
  split
  · rename_i kind inferred
    rw [bind_ends, note_ends]
    -- Between inferring and lowering only a debug line is added.
    have answers := @lowerExpression_answers _ definite
      { builder with scopes := builder.scopes.note s!"inferred '{name.name}' as {kind.word}" }
      (fun _ => rfl) value
    refine (declareAs_ends place name.name fun answer finish yields => ?_).imp
      (fun _ _ held void => ?_) fun _ _ held => ?_
    · exact Except.ok.inj (inferred.symm.trans (answers answer finish yields))
    · obtain ⟨finish, yields⟩ := held (Except.ok.inj (inferred.symm.trans void))
      exact ⟨_, finish, yields⟩
    · exact held.imp id fun ⟨other, finish, failed⟩ => ⟨other, _, finish, failed⟩
  -- What cannot be inferred is refused before it is lowered.
  · exact .inl (.inr ⟨_, rfl⟩)

/--
In scopes that lowering can reach, and that it keeps reachable, an expression that lowers to a value
is inferred to have exactly the kind of that value, and one that lowers to none to be `void`. So a
declaration without a stated kind fails only with its value or for its name, and where it infers
`void`, no value is lost.
-/
theorem infer_agrees {builder : Builder} (reachable : builder.scopes.Reachable)
    (expression : Expression) :
    (∀ value finish, expression.toTree.lowerExpression.Yields builder (some value) finish →
      expression.toTree.infer builder.scopes = .ok (.exact value.kind.exact)) ∧
    (∀ finish, expression.toTree.lowerExpression.Yields builder none finish →
      expression.toTree.infer builder.scopes = .ok (.exact .void)) ∧
    (∀ place name, (Statement.declare place name none expression).toTree.lowerStatement.Ends builder
      (fun _ _ => expression.toTree.infer builder.scopes = .ok (.exact .void) → ∃ line finish,
        expression.toTree.lowerExpression.Yields
          { builder with scopes := builder.scopes.note line } none finish)
      (fun failure _ => failure.IsClash name.name place ∨ failure.IsInferred ∧ ∃ line finish,
        expression.toTree.lowerExpression.outcome
        { builder with scopes := builder.scopes.note line } =
          (.error failure, finish))) ∧
    ∀ tree : Tree, (tree.lowerStatement.outcome builder).2.scopes.Reachable := by
  -- Inference and lowering say the same of every expression, in the scopes of a reachable state.
  have answers := lowerExpression_answers reachable.definite (fun _ => rfl) expression
  refine ⟨fun value finish yields => ?_, fun finish yields => ?_, fun place name => ?_,
    fun tree => ?_⟩
  · exact answers (some value) finish yields
  · exact answers none finish yields
  · exact declare_ends reachable.definite place name expression
  · exact Tree.lowerStatement_keeps_all.1 tree builder reachable

/-- One frame, in which a function without a result is declared. -/
def oneFunction : Scopes where
  frames := [{ Frame.opened (some ⟨.text "main", "entry"⟩) {} none with
    symbols := [("run", .fn (.text "run") (.exact .void) [])] }]
  cursor := some ⟨.text "main", "entry"⟩
  log := []

/-- A call of that function lowers to no value and is inferred to be `void`. -/
theorem call_agrees :
    oneFunction.Reachable ∧
      (Expression.call .start ⟨.start, "run"⟩ []).toTree.infer oneFunction = .ok
        (.exact .void) := by
  -- One frame with one function in it, and the debug lines of nothing.
  have reachable : oneFunction.Reachable :=
    .log (.declare (.push .empty (some ⟨.text "main", "entry"⟩) {})
      (by rfl : (Binding.fn (.text "run") (.exact .void) []).IsDefinite)
      (by rfl : _ = Except.ok _)) []
  have agrees := @infer_agrees ⟨.empty, oneFunction, 0⟩ reachable (.call .start ⟨.start, "run"⟩ [])
  exact ⟨reachable, agrees.2.1 _ rfl⟩

end Expression

end LoopLang
