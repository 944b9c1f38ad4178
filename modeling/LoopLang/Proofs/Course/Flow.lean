import LoopLang.Proofs.Course.Passage

/-!
The courses of what lies between marks, where expressions, declarations, and the ends of blocks do
only what they may; and the parts that the passage of a statement is put together from.
-/

namespace LoopLang

open Code (Instruction Name Operand Unended)

namespace Lowering

variable {α β : Type} {action : Lowering α} {start : Builder}

namespace Course

variable {course : Course action}

/-- Looking flows on anywhere. -/
theorem Flows.still (stays : IsStill action) : (Course.still stays).Flows start :=
  fun _ _ meets => absurd meets Act.not_meets_nil

/-- Computations that are the same flow on alike. -/
theorem Flows.of_eq {other : Lowering α} {same : action = other} (flows : course.Flows start) :
    (Course.of_eq same course).Flows start := flows

/-- A single act flows on where it is proper and no mark. -/
theorem Flows.single {act : Act}
    {performs : ∀ start, act.perform start = (action.outcome start).2} (proper : act.Proper start)
    (unmarked : ∀ items, act ≠ .statements items) : (Course.single act performs).Flows start := by
  intro moment next meets
  obtain ⟨rfl, rfl⟩ := Act.meets_single.mp meets
  exact ⟨proper, unmarked⟩

/-- Of two courses the one that is taken has to flow. -/
theorem Flows.ite {condition : Prop} [decided : Decidable condition] {other : Lowering α}
    {second : Course other} (first : condition → course.Flows start)
    (otherwise : ¬ condition → second.Flows start) :
    (Course.ite course second : Course (if condition then action else other)).Flows start := by
  cases decided with
  | isTrue held => exact first held
  | isFalse absent => exact otherwise absent

/-- The second of two computations flows on where the first one has ended well. -/
theorem Flows.bind {next : α → Lowering β} {second : ∀ answer, Course (next answer)}
    {done : α → Builder → Prop} {failed : Failure → Builder → Prop} (first : course.Flows start)
    (ends : action.Ends start done failed)
    (rest : ∀ answer middle, done answer middle → (second answer).Flows middle) :
    (course.bind second).Flows start := by
  intro moment act meets
  rw [bind_acts] at meets
  -- A moment of the whole is one of the first computation or one of the second.
  rcases Act.meets_append.mp meets with earlier | later
  · exact first moment act earlier
  -- The second computation begins where the first one has ended, or not at all.
  · rw [course.reaches] at later
    unfold Ends at ends
    split at later <;> rename_i ended <;> rw [ended] at ends later
    · exact rest _ _ ends moment act later
    · exact absurd later Act.not_meets_nil

/-- What follows a look at the builder begins where that began. -/
theorem Flows.look {stays : IsStill action} {next : α → Lowering β}
    {second : ∀ answer, Course (next answer)} (rest : ∀ answer, (second answer).Flows start) :
    ((Course.still stays).bind second).Flows start := by
  -- A look leaves the builder as it was.
  have kept : action.Ends start (fun _ finish => finish = start) fun _ _ => True := by
    have same := stays start
    unfold Ends
    split <;> rename_i ended <;> rw [ended] at same
    · exact same
    · trivial
  exact .bind (.still stays) kept fun answer middle same => same ▸ rest answer

/-- Behind a computation nothing more need be done than to look. -/
theorem Flows.last {next : α → Lowering β} {stays : ∀ answer, IsStill (next answer)}
    (first : course.Flows start) :
    (course.bind fun answer => .still (stays answer)).Flows start :=
  .bind first .any fun _ _ _ => .still _

/-! Single acts. -/

section Steps

variable (sound : start.Sound)

include sound

/-- A line may be noted anywhere. -/
theorem note_flows (line : String) : (note line).Flows start := .single ⟨sound, False.elim⟩ nofun

/-- An instruction is emitted where a block is open. -/
theorem emit_flows (ready : start.Ready) (base : String) (make : String → Instruction) :
    (emit base make).Flows start :=
  .single ⟨sound, fun _ => ready⟩ nofun

/-- So is a slot reserved. -/
theorem createSlot_flows (ready : start.Ready) (base : String) (kind : ValueKind) :
    (createSlot base kind).Flows start :=
  .single ⟨sound, fun _ => ready⟩ nofun

/-- A block may be added to any function. -/
theorem addBlock_flows (owner : Name) (base : String) : (addBlock owner base).Flows start :=
  .single ⟨sound, False.elim⟩ nofun

/-- A function may be created anywhere. -/
theorem createFunction_flows (base : Name) (parameters : List (String × ValueKind))
    (result : ExactKind) :
    (createFunction base parameters result).Flows start :=
  .single ⟨sound, False.elim⟩ nofun

/-- So may a branch be counted. -/
theorem nextSuffix_flows : nextSuffix.Flows start := .single ⟨sound, False.elim⟩ nofun

/-- Code may be emitted in any block from then on. -/
theorem moveTo_flows (block : BlockRef) : (moveTo block).Flows start :=
  .single ⟨sound, False.elim⟩ nofun

/-- A name may be declared anywhere, or refused. -/
theorem declare_flows (name : String) (binding : Binding) (place : Location) :
    (declare name binding place).Flows start :=
  .single ⟨sound, False.elim⟩ nofun

/-! What is made of them. -/

/-- An instruction without a name is emitted where a block is open. -/
theorem emitUnnamed_flows (ready : start.Ready) (instruction : Instruction) :
    (emitUnnamed instruction).Flows start :=
  .last (emit_flows sound ready _ _)

/-- So is one that ends the block. -/
theorem terminate_flows (ready : start.Ready) (instruction : Instruction) :
    (terminate instruction).Flows start :=
  .look fun _ => .ite (fun _ => .look fun _ => emitUnnamed_flows sound ready _) fun _ =>
    emitUnnamed_flows sound ready _

/-- A block is added to the current function, if there is one. -/
theorem createBlock_flows (base : String) : (createBlock base).Flows start := by
  refine .look fun scopes => ?_
  generalize scopes.function? = function
  cases function with
  | some owner => exact addBlock_flows sound _ _
  | none => exact .still _

/-- What is done only in a block without its terminator finds the current one open. -/
theorem unlessTerminated_flows {here : BlockRef} (current : start.block? = some here)
    {other : Lowering Unit} {course : Course other} (flows : start.Ready → course.Flows start) :
    (Course.bind (.still .isTerminated) fun ended =>
      (Course.ite (.still (.pure ())) course : Course (if ended then pure () else other))).Flows
        start := by
  have seen : Lowering.isTerminated.Ends start
      (fun ended finish => ended = start.code.isTerminated here ∧ finish = start)
      fun _ _ => True := (isTerminated_ends sound current).mpr ⟨rfl, rfl⟩
  refine .bind (.still _) seen ?_
  rintro ended _ ⟨rfl, rfl⟩
  -- In a block that has ended nothing is done, else it is ready.
  refine .ite (fun _ => .still _) fun goes_on =>
    flows ⟨here, current, (hasOpen_iff sound current).mpr ?_⟩
  simpa using goes_on

/-- A jump is emitted only where the block is still open. -/
theorem jumpUnlessTerminated_flows {here : BlockRef} (current : start.block? = some here)
    (block : BlockRef) :
    (jumpUnlessTerminated block).Flows start :=
  unlessTerminated_flows sound current fun ready => terminate_flows sound ready _

/-- So is the return that a function gets at its end. -/
theorem closeFunction_flows {here : BlockRef} (current : start.block? = some here)
    (result : ExactKind) :
    (closeFunction result).Flows start := by
  refine unlessTerminated_flows sound current fun ready => ?_
  cases result <;> exact terminate_flows sound ready _

/-- A variable is loaded in the open block. -/
theorem loadVariable_flows (ready : start.Ready) (name : String) (place : Location) :
    (loadVariable name place).Flows start :=
  .look fun _ => .last (emit_flows sound ready _ _)

/-- A value is stored there, too. -/
theorem storeVariable_flows (ready : start.Ready) (name : String) (kind : ValueKind) (slot : Slot)
    (value : Operand) (place : Location) : (storeVariable name kind slot value place).Flows start :=
  .ite (fun _ => emitUnnamed_flows sound ready _) fun _ => .still _

/-- A call is emitted there, whether it has a result or not. -/
theorem emitCall_flows (ready : start.Ready) (callee : Callee) (arguments : List Operand) :
    (emitCall callee arguments).Flows start := by
  unfold emitCall
  delta Lowering.emitCall
  generalize callee.result.definite?.bind ExactKind.value? = valued
  cases valued with
  | some kind => exact .last (emit_flows sound ready _ _)
  | none => exact .last (emitUnnamed_flows sound ready _)

/-- So is arithmetic, whatever its sign. -/
theorem emitArithmetic_flows (ready : start.Ready) (sign : String) (left right : Operand)
    (place : Location) :
    (emitArithmetic sign left right place).Flows start := by
  unfold emitArithmetic
  delta Lowering.emitArithmetic
  generalize operator? sign = known
  cases known with
  | none => exact .still (.refuse _ _)
  | some known => exact .look fun _ => .look fun _ => .last (emit_flows sound ready _ _)

end Steps

/-- Asking for a value adds a refusal at most. -/
theorem required_flows {expression : Lowering (Option Operand)} {course : Course expression}
    (flows : course.Flows start) (place : Location) : (required place course).Flows start := by
  refine .bind flows .any fun answer _ _ => ?_
  cases answer <;> exact .still _

end Course

end Lowering

namespace Tree

open Lowering

mutual

/-- An expression flows on: between its parts emission goes on in the block in which it began. -/
theorem expressionCourse_flows : (tree : Tree) →
    ∀ {start : Builder}, start.Sound → start.Ready → tree.expressionCourse.Flows start
  | numberLiteral _ _ | booleanLiteral _ _ => fun _ _ => .still _
  | identifier place name _ => fun sound ready =>
    .look fun name => .last (Course.loadVariable_flows sound ready name place)
  -- Behind the value the target still holds what it held, and the builder is still ready.
  | assignmentExpression place left right operator => fun sound ready => by
    refine .bind (.still _) (resolveTarget_reads sound ready place operator.shown left) ?_
    rintro ⟨name, kind, slot⟩ _ ⟨has, rfl⟩
    refine .bind (Course.required_flows (expressionCourse_flows right sound ready) _)
      (required_computes (lowerExpression_computes_all.1 right _ sound ready)) ?_
    rintro value middle ⟨sound, more, -⟩
    exact .last (Course.storeVariable_flows sound (more.ready ready) _ _ _ _ _)
  -- The callee is looked up, and the call is emitted behind all arguments.
  | callExpression place callee arguments => fun sound ready => by
    refine .bind (.still _) (resolveCallee_reads sound place callee) ?_
    rintro callee _ ⟨has, rfl⟩
    refine .bind (argumentsCourse_flows callee place arguments sound ready)
      (lowerExpression_computes_all.2.1 callee place arguments _ sound ready) ?_
    rintro values middle ⟨sound, more, -⟩
    exact Course.emitCall_flows sound (more.ready ready) _ _
  -- Both operands are computed before the sign is looked at.
  | binaryExpression place left right operator => fun sound ready => by
    refine .bind (Course.required_flows (expressionCourse_flows left sound ready) _)
      (required_computes (lowerExpression_computes_all.1 left _ sound ready)) ?_
    rintro first middle ⟨sound, more, -⟩
    have ready := more.ready ready
    refine .bind (Course.required_flows (expressionCourse_flows right sound ready) _)
      (required_computes (lowerExpression_computes_all.1 right _ sound ready)) ?_
    rintro second last ⟨sound, more, -⟩
    exact .look fun sign => .last (Course.emitArithmetic_flows sound (more.ready ready) sign _ _ _)
  -- No other node is an expression, so nothing is done for it.
  | null | boolean _ | integer _ | real _ | text _ | kindValue _ | list _ | node .. | program ..
  | functionDeclaration .. | variableDeclaration ..
  | blockStatement .. | returnStatement .. | expressionStatement .. | ifStatement ..
  | loopStatement .. | breakStatement .. | continueStatement .. => fun _ _ => .still _
termination_by structural tree => tree

/-- Arguments are computed in the open block, if they are as many as the parameters. -/
theorem argumentsCourse_flows (callee : Callee) (place : Location) : (tree : Tree) →
    ∀ {start : Builder}, start.Sound → start.Ready → (argumentsCourse callee place tree).Flows start
  -- Arguments are lowered only when there are as many as the callee takes.
  | list items => fun sound ready => by
    refine .bind (.still _) (checkCount_reads callee items.length place) ?_
    rintro _ _ ⟨count, rfl⟩
    exact itemsCourse_flows callee.name 1 callee.parameters items sound ready count
  | text _ => fun _ _ => .look fun _ => .ite (fun _ => .still _) fun _ => .still _
  | null | boolean _ | integer _ | real _ | kindValue _ | node .. | program ..
  | functionDeclaration .. | variableDeclaration ..
  | blockStatement .. | returnStatement .. | expressionStatement .. | ifStatement ..
  | loopStatement .. | breakStatement ..
  | continueStatement .. | numberLiteral .. | booleanLiteral .. | identifier ..
  | assignmentExpression .. | callExpression .. | binaryExpression .. => fun _ _ => .still (.stop _)
termination_by structural tree => tree

/-- An argument leaves the block open for the next one. -/
theorem itemsCourse_flows (callee : String) :
    (position : Nat) → (kinds : List ExactKind) → (items : List Tree) →
    ∀ {start : Builder}, start.Sound → start.Ready → items.length = kinds.length →
      (itemsCourse callee position kinds items).Flows start
  | position, kind :: kinds, item :: rest => fun sound ready count => by
    -- An item leaves the builder ready for the items behind it.
    refine .bind (Course.required_flows (expressionCourse_flows item sound ready) _)
      (required_computes (lowerExpression_computes_all.1 item _ sound ready)) ?_
    rintro value middle ⟨sound, more, -⟩
    exact .look fun _ => .last
      (itemsCourse_flows callee (position + 1) kinds rest sound (more.ready ready)
        (Nat.succ.inj count))
  | _, [], [] | _, _ :: _, [] | _, [], _ :: _ => fun _ _ _ => .still _
termination_by structural _ _ items => items

end

end Tree

namespace Lowering.Course

open LoopLang.Tree

variable {start : Builder} {here : BlockRef}

/-- A value flows on like the expression that gives it. -/
theorem value_flows (sound : start.Sound) (ready : start.Ready) (tree : Tree) :
    (required tree.place tree.expressionCourse).Flows start :=
  required_flows (expressionCourse_flows tree sound ready) _

/-- A value is computed in the block that is open. -/
theorem value_computes (sound : start.Sound) (ready : start.Ready) (tree : Tree) :
    (Lowering.required tree.place tree.lowerExpression).Computes start fun operand finish =>
      finish.Holds operand :=
  required_computes (lowerExpression_computes_all.1 tree start sound ready)

/-- A condition is computed in the open block, and compared with zero there. -/
theorem lowerCondition_flows (sound : start.Sound) (ready : start.Ready) (condition : Tree) :
    (lowerCondition condition).Flows start := by
  refine .bind (value_flows sound ready condition) (value_computes sound ready condition) ?_
  rintro value middle ⟨sound, more, -⟩
  have ready := more.ready ready
  generalize value.kind = kind
  -- Only a number has to be compared, in the block where it was computed.
  cases kind with
  | bool => exact .still _
  | num => exact .last (emit_flows sound ready _ _)

/-- Going on in a new block makes it first, and then moves to it. -/
theorem ensureOpen_flows (sound : start.Sound) (current : start.block? = some here) :
    ensureOpen.Flows start := by
  refine .look fun _ => .ite (fun _ => ?_) fun _ => .still _
  have makes : (Lowering.createBlock "unreachable").Ends start (fun _ finish => finish.Sound)
      fun _ _ => True :=
    (createBlock_makes sound current _).imp (fun _ _ held => held.1) fun _ _ held => held
  exact .bind (createBlock_flows sound _) makes fun block _ sound => moveTo_flows sound block

/-- The slot of a variable is reserved and stored in before its name is declared. -/
theorem declareVariable_flows (sound : start.Sound) (current : start.block? = some here)
    (here_open : start.HasOpen here) (name slot : String) (kind : ValueKind) {value : Operand}
    (holds : start.Holds value) (place : Location) :
    (declareVariable name slot kind value place).Flows start := by
  have ready : start.Ready := ⟨here, current, here_open⟩
  -- The slot comes first, then the value is stored in it, and only then the name is declared.
  have declares : (Course.bind (createSlot slot kind) fun slot =>
      .bind (storeVariable name kind slot value place) fun _ =>
      declare name (.var kind.exact (some slot)) place).Flows start := by
    have reserves : (Lowering.createSlot slot kind).Ends start
        (fun slot finish => finish.Sound ∧ start.Adds finish [] ∧ finish.HasSlot slot.name kind)
        fun _ _ => True :=
      (createSlot_adds sound current slot kind).imp
        (fun _ _ held => ⟨held.1, held.2.1, held.2.2.2.1⟩) fun _ _ held => held
    refine .bind (createSlot_flows sound ready slot kind) reserves ?_
    rintro slot reserved ⟨sound, adds, has⟩
    have ready := (Builder.Extends.ready ⟨_, adds, .nil⟩ ready)
    refine .bind (storeVariable_flows sound ready _ _ _ _ _)
      (storeVariable_computes sound ready name has
        (Builder.Extends.holds ⟨_, adds, .nil⟩ holds) place) ?_
    exact fun _ stored held => declare_flows held.1 _ _ _
  exact .look fun _ => .ite (fun _ => .look fun _ => declares) fun _ => declares

/-- Inferring a kind emits nothing. -/
theorem inferKind_flows (sound : start.Sound) (name : String) (value : Tree) :
    (inferKind name value).Flows start := by
  refine .look fun scopes => ?_
  generalize value.infer scopes = inferred
  obtain failure | kind := inferred
  · exact .still (.stop _)
  · exact .last (note_flows sound _)

/-- A variable of a known kind is declared behind the code of its value. -/
theorem declareAs_flows (sound : start.Sound) (current : start.block? = some here)
    (here_open : start.HasOpen here) (place : Location) (name value : Tree) (kind : Kind) :
    (declareAs place name value kind).Flows start := by
  have ready : start.Ready := ⟨here, current, here_open⟩
  refine .ite (fun _ => ?_) fun _ => ?_
  -- A void value is lowered, but no slot is made for it.
  · refine .bind (expressionCourse_flows value sound ready)
      (lowerExpression_computes_all.1 value start sound ready) ?_
    exact fun _ middle held => .look fun name => declare_flows held.1 _ _ _
  -- The slot is made where the block is still open, behind the value.
  · refine .bind (value_flows sound ready value) (value_computes sound ready value) ?_
    rintro initial middle ⟨sound, more, holds⟩
    have middle_ready := more.ready ready
    have current := more.block?.trans current
    generalize kind.definite?.bind ExactKind.value? = valued
    cases valued with
    | some kind =>
      exact .look fun name => declareVariable_flows sound current
        (middle_ready.hasOpen current) _ _ _ holds _
    | none => exact .still (.refuse _ _)

/-- Whether the kind is stated or inferred, the declaration flows. -/
theorem lowerDeclaration_flows (sound : start.Sound) (current : start.block? = some here)
    (here_open : start.HasOpen here) (place : Location) (name stated value : Tree) :
    (lowerDeclaration place name stated value).Flows start := by
  refine .of_eq (.look fun stated => ?_)
  -- The line that is noted changes neither the code nor the frames.
  have notes : (if stated.isExact then pure stated
      else Lowering.inferKind name.shown value).Ends start
      (fun _ finish => ∃ log, finish = start.logged log) fun _ _ => True := by
    split
    · exact ⟨start.scopes.log, rfl⟩
    · rw [inferKind_ends]
      split
      · exact ⟨_, rfl⟩
      · trivial
  refine .bind (.ite (fun _ => .still _) fun _ => inferKind_flows sound _ _) notes ?_
  rintro kind _ ⟨log, rfl⟩
  exact declareAs_flows ((Stage.refl sound current).logged log).sound current here_open _ _ _ _

/-- A return without a value ends the open block. -/
theorem returnNothing_flows (sound : start.Sound) (ready : start.Ready) (place : Location) :
    (returnNothing place).Flows start := by
  refine .look fun (function, expected) => ?_
  dsimp only
  generalize expected.value? = valued
  cases valued with
  | none => exact terminate_flows sound ready _
  | some _ => exact .still (.refuse _ _)

/-- So does one with a value, behind the code of the value. -/
theorem returnGiven_flows (sound : start.Sound) (ready : start.Ready) (place : Location)
    (value : Tree) :
    (returnGiven place value).Flows start := by
  refine .look fun (function, expected) => ?_
  dsimp only
  generalize expected.value? = valued
  -- In both cases the return ends the block that the value has been lowered in.
  cases valued with
  | none =>
    refine .bind (expressionCourse_flows value sound ready)
      (lowerExpression_computes_all.1 value start sound ready) ?_
    rintro answer middle ⟨sound, more, -⟩
    cases answer with
    | some _ => exact .still _
    | none => exact terminate_flows sound (more.ready ready) _
  | some _ =>
    refine .bind (value_flows sound ready value) (value_computes sound ready value) ?_
    rintro result middle ⟨sound, more, -⟩
    exact .ite (fun _ => terminate_flows sound (more.ready ready) _) fun _ => .still _

/-- A return ends the open block in either case. -/
theorem lowerReturn_flows (sound : start.Sound) (ready : start.Ready) (place : Location)
    (value : Tree) :
    (lowerReturn place value).Flows start := by
  -- The course was made by the same cases.
  cases value
  case null => exact returnNothing_flows sound ready place
  all_goals exact returnGiven_flows sound ready place _

/-- So does a jump. -/
theorem lowerJump_flows (sound : start.Sound) (ready : start.Ready) (jump : Jump)
    (place : Location) (label : Option String) :
    (lowerJump jump place label).Flows start := by
  refine .look fun _ => .look fun scopes => ?_
  generalize scopes.loopFrame? label = found
  -- A jump ends the block only when there is a loop that it can mean.
  cases found with
  | none => exact .still (.refuse _ _)
  | some frame =>
    dsimp only
    generalize jumpTarget? jump frame = target
    cases target with
    | some _ => exact terminate_flows sound ready _
    | none => exact .still (.stop _)

/-- A function with the kinds of its parameters may be created anywhere. -/
theorem createTypedFunction_flows (sound : start.Sound) (name : Name)
    (parameters : List TypedName) (result : ExactKind) :
    (createTypedFunction name parameters result).Flows start := by
  -- The function is created in sound code, and then noted down.
  have creates : (Lowering.createFunction name
      (parameters.map fun parameter => (parameter.name, parameter.kind)) result).Ends
      start (fun _ finish => finish.Sound) fun _ _ => True :=
    createFunction_ends.mpr
      (sound.withCode (sound.tidy.addFunction_grows _ _ _) (sound.tidy.addFunction _ _ _)
      (sound.valid.addFunction sound.tidy _ _ _))
  exact .bind (createFunction_flows sound _ _ _) creates fun _ _ sound => .last (note_flows sound _)

/-- Each parameter is stored where the function is open. -/
theorem storeParameters_flows (sound : start.Sound) (current : start.block? = some here)
    (here_open : start.HasOpen here) {registers : List (String × ValueKind)}
    {parameters : List TypedName} (kinds : registers.map Prod.snd = parameters.map TypedName.kind)
    (holds : ∀ entry ∈ registers, start.Holds (.register entry.1 entry.2)) :
    (storeParameters registers parameters).Flows start := by
  -- The induction goes on from the builder behind the first parameter, where the other registers
  -- are still there.
  induction registers generalizing parameters start with
  | nil => exact .still (.pure _)
  | cons entry registers ih =>
    cases parameters with
    | nil => cases kinds
    | cons parameter parameters =>
      obtain ⟨register, kind⟩ := entry
      obtain ⟨place, name, wanted⟩ := parameter
      obtain ⟨same, rest_kinds⟩ := List.cons.inj kinds
      have same : kind = wanted := same
      subst same
      refine .bind (declareVariable_flows sound current here_open _ _ _
        (holds _ List.mem_cons_self) _)
        ((Stage.refl sound current).declareVariable here_open name ("argument." ++ name) kind
          (holds _ List.mem_cons_self) place) ?_
      rintro _ stored ⟨stage, here_open, -, -, binds⟩
      exact ih stage.sound stage.current here_open rest_kinds fun entry member =>
        binds.holds (holds entry (List.mem_cons_of_mem _ member))

end Lowering.Course

/-- Nothing follows a terminator. -/
theorem Code.Module.Valid.finished {module : Code.Module} (valid : module.Valid)
    {block : BlockRef} {body more : List Instruction}
    (found : module.body? block = some (body ++ more)) (ended : ¬ Unended body) : more = [] := by
  obtain ⟨function, owner, -⟩ := Option.bind_eq_some_iff.mp found
  cases more with
  | nil => rfl
  -- An instruction behind the end would not be valid.
  | cons next rest =>
    exact absurd (valid block function _ owner found body next rest rfl).unended ended

namespace Builder

/-- Declaring a variable goes nowhere. -/
theorem Binds.aims {builder later : Builder} {name : String} {kind : Kind}
    {answer : Option Operand} (binds : builder.Binds later name kind answer)
    {allowed : BlockRef → Prop} : builder.code.Aims allowed later.code := by
  cases binds with
  | void declares => exact declares.code ▸ .refl _
  | stored _ _ _ adds declares => exact declares.code ▸ Extends.aims ⟨_, adds, .single rfl⟩

/-- Declaring a variable only adds to the code. -/
theorem Binds.code {builder later : Builder} {name : String} {kind : Kind} {answer : Option Operand}
    (binds : builder.Binds later name kind answer) : builder.code.Grows later.code := by
  cases binds with
  | void declares => exact declares.code ▸ .refl _
  | stored _ _ _ adds declares => exact declares.code ▸ adds.code

/-- Storing parameters goes nowhere. -/
theorem Stores.aims {builder later : Builder} {registers : List (String × ValueKind)}
    {parameters : List Lowering.TypedName} (stores : builder.Stores registers parameters later)
    {allowed : BlockRef → Prop} :
    builder.code.Aims allowed later.code := by
  induction stores with
  | nil => exact .refl _
  | cons _ binds _ _ ih => exact binds.aims.trans binds.code ih fun _ => .inl

/-- A block that an instruction goes to is there. -/
theorem Sound.target_placed {builder : Builder} (sound : builder.Sound) {block : BlockRef}
    {body : List Instruction} (found : builder.code.body? block = some body)
    {instruction : Instruction} (member : instruction ∈ body) {target : String}
    (leads : target ∈ instruction.targets) :
    ∃ body, builder.code.body? ⟨block.function, target⟩ = some body := by
  obtain ⟨function, owner, -⟩ := Option.bind_eq_some_iff.mp found
  obtain ⟨before, after, rfl⟩ := List.append_of_mem member
  -- Validity says of every instruction that its targets are blocks of the same function.
  obtain ⟨⟨inner, inside⟩, -⟩ :=
    (sound.valid block function _ owner found before instruction after rfl).targets target leads
  exact ⟨inner, by simp [Code.Module.body?, owner, inside]⟩

/-- Behind a terminator nothing is added, and elsewhere an instruction goes where it may. -/
theorem Adds.aims_unless {builder later : Builder} {more : List Instruction}
    (adds : builder.Adds later more) (begun : builder.Sound) (sound : later.Sound)
    {here : BlockRef} (current : builder.block? = some here) {instruction : Instruction}
    (falls : builder.HasOpen here → more = [instruction]) {allowed : BlockRef → Prop}
    (goes : ∀ target ∈ instruction.targets, allowed ⟨here.function, target⟩) :
    builder.code.Aims allowed later.code := by
  obtain ⟨body, found⟩ := begun.body? current
  refine adds.aims fun block at_ other member target leads => ?_
  cases at_.symm.trans current
  by_cases body_open : Unended body
  -- Only an open block can have got anything, and that is the one instruction.
  · rw [falls ⟨body, found, body_open⟩, List.mem_singleton] at member
    exact goes target (member ▸ leads)
  -- A finished block has got nothing, so no jump either.
  · rw [sound.valid.finished (adds.current current found) body_open] at member
    cases member

end Builder

namespace Lowering

variable {α β : Type} {action : Lowering α} {base start finish : Builder} {before acts : List Act}
  {here : BlockRef} {waiting targets : List BlockRef}

/-- Where a part of the way has come to, loops are open that were open before. -/
theorem Stage.loopTarget (stage : Stage base start here waiting) {block : BlockRef} :
    start.LoopTarget block ↔ base.LoopTarget block := by
  obtain ⟨_, continues⟩ := stage.kept.frames
  exact continues.loopTarget

/-- A statement that begins in an open block is a passage. -/
def Course.Travels {action : Lowering Unit} (course : Course action) : Prop :=
  ∀ start here, Stage start start here [] → start.HasOpen here →
    course.Leads [] start (fun _ finish acts => Passage start acts finish []) fun _ acts =>
      Act.AllProper start acts

/-- Statements are a passage that begins in an open block or behind a terminator. -/
def Course.TravelsAll {action : Lowering Unit} (course : Course action) : Prop :=
  ∀ start here, Stage start start here [] →
    course.Leads [] start (fun _ finish acts => Passage start acts finish []) fun _ acts =>
      Act.AllProper start acts

namespace Passage

variable {course : Course action}

/-- What leaves the builder as it is is no way at all. -/
theorem looks (passage : Passage base before start targets) (stays : IsStill action)
    {done : α → Builder → Prop} (ends : action.Ends start done fun _ _ => True) :
    (Course.still stays).Leads before start
      (fun answer finish acts => Passage base acts finish targets ∧ start = finish ∧
      done answer start) fun _ acts => Act.AllProper base acts := by
  refine passage.leads (.still stays) ?_
  have same := stays start
  unfold Ends at *
  -- The builder that a look leaves is the one it has found.
  revert same ends
  rcases action.outcome start with ⟨failure | answer, finish⟩
  · exact fun _ _ => trivial
  · rintro ends rfl
    exact ⟨.refl _, .refl _, rfl, ends⟩

/-- A group of blocks is counted. -/
theorem counts (passage : Passage base before start targets) (sound : start.Sound) :
    Course.nextSuffix.Leads before start
      (fun _ finish acts =>
        Passage base acts finish targets ∧ finish.Sound ∧ start.Adds finish [])
      fun _ acts => Act.AllProper base acts := by
  -- Counting names emits nothing and moves nothing.
  refine passage.leads (Course.nextSuffix_flows sound)
    ((nextSuffix_adds sound).imp (fun _ finish held => ?_) fun _ _ held => held)
  obtain ⟨sound, adds⟩ := held
  exact ⟨adds.code, adds.aims fun _ _ _ member => absurd member List.not_mem_nil, sound, adds⟩

/-- A condition is tested. -/
theorem tests (passage : Passage base before start targets)
    (stage : Stage base start here waiting) (here_open : start.HasOpen here) (condition : Tree) :
    (Course.lowerCondition condition).Leads before start
      (fun value finish acts => Passage base acts finish targets ∧
        Stage base finish here waiting ∧ finish.HasOpen here ∧ start.code.Grows finish.code ∧
        finish.Holds value ∧ value.kind = .bool)
      fun _ acts => Act.AllProper base acts := by
  have ready := stage.ready here_open
  -- The condition is lowered in an open block, which stays open and is the one in which to branch.
  refine passage.leads (Course.lowerCondition_flows stage.sound ready condition)
    ((stage.computes here_open (lowerCondition_computes stage.sound ready condition)).imp
      (fun value finish held => ?_) fun _ _ _ => trivial)
  obtain ⟨stage, here_open, more, holds⟩ := held
  exact ⟨more.code, more.aims, stage, here_open, more.code, holds⟩

/-- A block is made, which waits from now on. -/
theorem creates (passage : Passage base before start targets)
    (stage : Stage base start here waiting) (here_open : start.HasOpen here) (name : String) :
    (Course.createBlock name).Leads before start
      (fun block finish acts => Passage base acts finish (block :: targets) ∧
        Stage base finish here (block :: waiting) ∧ finish.HasOpen here ∧ start.Makes finish block)
      fun _ acts => Act.AllProper base acts := by
  refine passage.leads_more (Course.createBlock_flows stage.sound name) (· :: targets)
    ((stage.createBlock name).imp (fun block finish held => ?_) fun _ _ held => held)
  obtain ⟨stage, makes, opens⟩ := held
  refine ⟨makes.code, makes.aims, fun other member => ?_, stage, opens.mpr here_open, makes⟩
  -- The new block waits, as do those from before.
  rcases List.mem_cons.mp member with rfl | old
  · exact .inr ⟨makes.fresh, [], by rw [makes.bodies, if_pos rfl]⟩
  · exact .inl old

/-- A block ends in a jump or a branch to where it may go. -/
theorem ends_in (passage : Passage base before start targets)
    (stage : Stage base start here waiting) (here_open : start.HasOpen here)
    {instruction : Instruction} (stops : instruction.isTerminator = true)
    (ends : (terminate instruction).Ends start
      (fun _ finish => finish.Sound ∧ start.Adds finish [instruction]) fun _ _ => True)
    (goes : ∀ target ∈ instruction.targets,
      ⟨here.function, target⟩ ∈ targets ∨ base.LoopTarget ⟨here.function, target⟩) :
    (Course.terminate instruction).Leads before start
      (fun _ finish acts => Passage base acts finish targets ∧
        Stage base finish here waiting ∧ ¬ finish.HasOpen here ∧ start.code.Grows finish.code)
      fun _ acts => Act.AllProper base acts := by
  refine passage.leads (Course.terminate_flows stage.sound (stage.ready here_open) instruction)
    (ends.imp (fun _ finish held => ?_) fun _ _ held => held)
  obtain ⟨sound, adds⟩ := held
  -- The one instruction that was added is the terminator, which also ends the block.
  refine ⟨adds.code, adds.aims fun block at_ other member => ?_, stage.adds sound adds,
    adds.finished stage.current (List.mem_singleton_self _) stops, adds.code⟩
  cases at_.symm.trans stage.current
  cases List.mem_singleton.mp member
  exact goes

/-- A block ends in a jump. -/
theorem jumps (passage : Passage base before start targets)
    (stage : Stage base start here waiting) (here_open : start.HasOpen here) {block : BlockRef}
    (target : block.IsTarget start.code here.function) (goes : block ∈ targets) :
    (Course.terminate (.jump block.label)).Leads before start
      (fun _ finish acts => Passage base acts finish targets ∧
        Stage base finish here waiting ∧ ¬ finish.HasOpen here ∧ start.code.Grows finish.code)
      fun _ acts => Act.AllProper base acts := by
  -- The block is ended by a jump to one of the blocks that the passage may leave to.
  refine passage.ends_in stage here_open rfl (jump_adds stage.sound stage.current here_open target)
    fun label leads => ?_
  cases List.mem_singleton.mp leads
  exact .inl (target.1 ▸ goes)

/-- A block ends in a branch. -/
theorem branches (passage : Passage base before start targets)
    (stage : Stage base start here waiting) (here_open : start.HasOpen here) {condition : Operand}
    (holds : start.Holds condition) (kind : condition.kind = .bool) {first second : BlockRef}
    (one : first.IsTarget start.code here.function)
    (other : second.IsTarget start.code here.function) (one_goes : first ∈ targets)
    (other_goes : second ∈ targets) :
    (Course.terminate (.branch condition first.label second.label)).Leads before start
      (fun _ finish acts => Passage base acts finish targets ∧
        Stage base finish here waiting ∧ ¬ finish.HasOpen here ∧ start.code.Grows finish.code)
      fun _ acts => Act.AllProper base acts := by
  refine passage.ends_in stage here_open rfl
    (branch_adds stage.sound stage.current here_open holds kind one other) fun label leads => ?_
  simp only [Instruction.targets, List.mem_cons, List.not_mem_nil, or_false] at leads
  -- Both ways lead to blocks that are waited for.
  rcases leads with rfl | rfl
  · exact .inl (one.1 ▸ one_goes)
  · exact .inl (other.1 ▸ other_goes)

/-- Emission moves on to the first block that waits. -/
theorem turns (passage : Passage base before start targets) {block : BlockRef}
    (stage : Stage base start here (block :: waiting)) (finished : ¬ start.HasOpen here) :
    (Course.moveTo block).Leads before start
      (fun _ finish acts => Passage base acts finish targets ∧
        Stage base finish block waiting ∧ finish.HasOpen block ∧ finish.code = start.code)
      fun _ acts => Act.AllProper base acts := by
  -- Only where code goes is changed: from a finished block to one that waits.
  refine passage.leads (Course.moveTo_flows stage.sound block)
    ((stage.moveTo finished).imp (fun _ finish held => ?_) fun _ _ held => held)
  obtain ⟨stage, block_open, moves⟩ := held
  exact ⟨moves.code ▸ .refl _, moves.code ▸ .refl _, stage, block_open, moves.code⟩

/-- Wherever emission moves, the code stays as it is. -/
theorem moves (passage : Passage base before start targets) (sound : start.Sound)
    (block : BlockRef) :
    (Course.moveTo block).Leads before start (fun _ finish acts => Passage base acts finish targets)
      fun _ acts => Act.AllProper base acts := by
  -- A move changes where code is put, not the code.
  have same : (Lowering.moveTo block).Ends start (fun _ finish => finish.code = start.code)
      fun _ _ => True := by
    unfold Lowering.moveTo
    rw [bind_ends, scopes_ends]
    cases start.scopes.moveTo block with
    | ok scopes => exact rfl
    | error failure => cases failure <;> trivial
  exact passage.leads_on (Course.moveTo_flows sound block) (same.imp
    (fun _ _ held => ⟨held ▸ .refl _, held ▸ .refl _⟩) fun _ _ held => held)

/-- An open block ends in a jump to where it may go. -/
theorem closes (passage : Passage base before start targets)
    (stage : Stage base start here waiting) {block : BlockRef}
    (target : block.IsTarget start.code here.function)
    (goes : block ∈ targets ∨ base.LoopTarget block) :
    (Course.jumpUnlessTerminated block).Leads before start
      (fun _ finish acts => Passage base acts finish targets ∧
        Stage base finish here waiting ∧ ¬ finish.HasOpen here ∧ start.code.Grows finish.code)
      fun _ acts => Act.AllProper base acts := by
  -- Only a block that is open gets the jump, and its target is waited for or a loop's.
  refine passage.leads (Course.jumpUnlessTerminated_flows stage.sound stage.current block)
    ((jumpUnlessTerminated_adds stage.sound stage.current target).imp (fun _ finish held => ?_)
      fun _ _ held => held)
  obtain ⟨sound, finished, more, adds, jumps⟩ := held
  refine ⟨adds.code, adds.aims_unless stage.sound sound stage.current jumps fun label leads => ?_,
    stage.adds sound adds, finished, adds.code⟩
  cases List.mem_singleton.mp leads
  rwa [← target.1]

/-- A part that travels on its own is a part of the passage. -/
theorem lowers (passage : Passage base before start targets)
    (stage : Stage base start here waiting) (here_open : start.HasOpen here)
    {action : Lowering Unit} {course : Course action} (travels : course.Travels)
    (lowers : Lowers action) :
    course.Leads before start (fun _ finish acts => Passage base acts finish targets ∧
        ∃ last, last.function = here.function ∧ Stage base finish last waiting ∧
        start.code.Grows finish.code)
      fun _ acts => Act.AllProper base acts := by
  -- The inner statement is taken from its own beginning, and then put behind what has gone before.
  have begun : Stage start start here [] := .refl stage.sound stage.current
  refine (((travels start here begun here_open).behind before).and_ends
    (lowers start here begun here_open)).imp
    (fun _ finish acts held => ?_) fun finish acts held => ?_
  -- Its loop targets are those of the passage around it.
  · obtain ⟨⟨inner, rfl, part⟩, ⟨last, owner, ended⟩, -⟩ := held
    exact ⟨passage.through part fun block target => .inr (stage.loopTarget.mp target), last, owner,
      stage.through ended owner, ended.kept.code⟩
  · obtain ⟨⟨inner, rfl, proper⟩, -⟩ := held
    exact passage.proper.append (passage.reaches ▸ proper)

/-- An arm of a branch is lowered in the first block that waits, and jumps from its end to where the
arms meet. -/
theorem takes_arm (passage : Passage base before start targets) {block merge : BlockRef}
    (stage : Stage base start here (block :: waiting)) (finished : ¬ start.HasOpen here)
    {arm : Lowering Unit} {course : Course arm} (travels : course.Travels) (lowers : Lowers arm)
    (waits : merge ∈ waiting) (goes : merge ∈ targets) {next : Lowering Unit} {rest : Course next}
    {done : Unit → Builder → List Act → Prop}
    (leads : ∀ {closed acts last}, Passage base acts closed targets →
      Stage base closed last waiting → ¬ closed.HasOpen last → rest.Leads acts closed done
        fun _ acts => Act.AllProper base acts) :
    (Course.bind (.moveTo block) fun _ => .bind course fun _ => .bind (.jumpUnlessTerminated merge)
      fun _ => rest).Leads before start done fun _ acts => Act.AllProper base acts := by
  -- Into the arm, through it, and out of it to the block where the arms meet.
  refine (passage.turns stage finished).then fun _ begun acts ⟨passage, stage, begun_open, _⟩ => ?_
  refine (passage.lowers stage begun_open travels lowers).then
    fun _ ended acts ⟨passage, last, _, stage, _⟩ => ?_
  exact (passage.closes stage (stage.awaits merge waits).target (.inl goes)).then
    fun _ closed acts ⟨passage, stage, finished, _⟩ => leads passage stage finished

/-- The last block that waits ends the passage. -/
theorem arrives (passage : Passage base before start targets) {block : BlockRef}
    (stage : Stage base start here [block]) (finished : ¬ start.HasOpen here) :
    (Course.moveTo block).Leads before start (fun _ finish acts => Passage base acts finish [])
      fun _ acts => Act.AllProper base acts :=
  (passage.turns stage finished).imp (fun _ _ _ held => held.1.fewer (List.nil_subset _))
    fun _ _ held => held

/-- A frame is opened in front of a part that is a passage of its own, and closed behind it. -/
theorem within (passage : Passage base before start targets) (sound : start.Sound)
    {block : BlockRef} {options : FrameOptions}
    (inside : course.Leads [] (start.pushed block options)
      (fun _ finish acts => Passage (start.pushed block options) acts finish [] ∧ finish.Sound)
        fun finish acts => Act.AllProper (start.pushed block options) acts ∧ finish.Sound)
    (loops : ∀ target, (start.pushed block options).LoopTarget target → target ∈ targets ∨
      base.LoopTarget target) :
    (course.withFrame block options).Leads before start
      (fun _ finish acts => Passage base acts finish targets)
      fun _ acts => Act.AllProper base acts := by
  -- The frame is opened in front of all that is done inside.
  have opens : Passage base (before ++ [.push block options])
      (start.pushed block options) targets := by
    refine passage.step rfl (fun moment next meets => ?_) (.refl _) (.refl _) fun _ => .inl
    obtain ⟨rfl, rfl⟩ := Act.meets_single.mp meets
    exact ⟨⟨sound, False.elim⟩, nofun⟩
  -- Closing is proper in any sound builder.
  have closes : ∀ {inner : Builder}, inner.Sound → ∀ moment next,
      Act.Meets inner [.pop] moment next →
      next.Proper moment ∧ ∀ items, next ≠ .statements items := by
    intro inner sound moment next meets
    obtain ⟨rfl, rfl⟩ := Act.meets_single.mp meets
    exact ⟨⟨sound, False.elim⟩, nofun⟩
  have whole : before ++ (course.withFrame block options).acts start =
      ((before ++ [.push block options]) ++ course.acts (start.pushed block options)) ++
      [.pop] := by
    simp [Course.withFrame, Builder.pushed]
  -- Whether the inside has succeeded or failed, what was done is proper.
  have proper : ∀ {middle : List Act} {inner : Builder},
      Act.AllProper (start.pushed block options) middle → inner.Sound →
      Act.performAll (start.pushed block options) middle = inner →
      Act.AllProper base (((before ++ [.push block options]) ++ middle) ++ [.pop]) := by
    intro middle inner proper sound reaches
    refine (opens.proper.append (opens.reaches ▸ proper)).append fun moment next meets =>
      (closes sound moment next ?_).1
    rwa [Act.performAll_append, opens.reaches, reaches] at meets
  have reaches := course.reaches (start.pushed block options)
  have ends : (Lowering.withFrame block options action).outcome start =
      closeFrame (action.outcome (start.pushed block options)).1
      (action.outcome (start.pushed block options)).2 :=
    withFrame_outcome block options action start
  unfold Course.Leads at inside ⊢
  rw [whole, ends]
  rw [List.nil_append] at inside
  -- What is done inside ends in the way in which the action does.
  generalize course.acts (start.pushed block options) = middle at inside reaches ⊢
  revert inside reaches
  rcases action.outcome (start.pushed block options) with ⟨failure | answer, inner⟩ <;>
    intro inside reaches
  · have held := proper inside.1 inside.2 reaches
    unfold closeFrame
    cases inner.scopes.pop with
    | error _ => exact held
    | ok scopes =>
      dsimp only
      cases scopes.isAdrift <;> exact held
  -- On success the passage goes on behind the closed frame.
  · have held := proper inside.1.proper inside.2 reaches
    unfold closeFrame
    cases popped : inner.scopes.pop with
    | error failure => exact held
    | ok scopes =>
      have settled : Act.performAll inner [.pop] = { inner with scopes } := by
        show Act.settle inner inner.scopes.pop = _
        rw [popped]
        rfl
      have stands := (opens.through inside.1 loops).step settled (closes inside.2)
        (.refl _) (.refl _) fun _ => .inl
      dsimp only
      cases scopes.isAdrift with
      | true => exact stands.proper
      | false => exact stands

end Passage

end Lowering

end LoopLang
