import LoopLang.Proofs.Initialisation.Expression

/-! Lowering statements over a ledger: what is promised of a block is so wherever a jump to it is
emitted. -/

namespace LoopLang

open Code (Name Operand Instruction Function Ledger)

namespace Lowering

variable {owner : Name} {visible : List String} {ledger : Ledger}

/-- Statements that break no promise, wherever they stand. -/
def FlowsAnywhere (action : Lowering Unit) : Prop :=
  ∀ owner visible ledger, Flows owner visible ledger action

/-- Blocks, which end with what was visible in front of them. -/
def SteadyAnywhere (action : Lowering Unit) : Prop :=
  ∀ owner visible ledger, Steady owner visible ledger action fun _ _ => True

namespace Steady

/-- A condition is steady, as its comparison is no load. -/
theorem lowerCondition (condition : Tree) :
    Steady owner visible ledger (Lowering.lowerCondition condition) fun _ _ => True := by
  refine .bind (Tree.lowerValue_steady condition) fun _ _ value _ => ?_
  split
  · exact .pure fun _ _ => trivial
  · exact .bind (.emit _ ⟨fun _ => rfl, fun _ => .inr rfl⟩ fun _ => ⟨nofun, nofun⟩) fun _ _ _ _ =>
      .pure fun _ _ => trivial

/-- Inferring a kind is steady. -/
theorem inferKind (name : String) (value : Tree) :
    Steady owner visible ledger (Lowering.inferKind name value) fun _ _ => True := by
  refine .scopes fun _ _ _ _ => ?_
  split
  · exact .bind (.note _) fun _ _ _ _ => .pure fun _ _ => trivial
  · exact .stop _

/-- A return reads nothing and goes nowhere. -/
theorem returns {instruction : Instruction} (plain : Code.Function.IsPlain fun _ => instruction)
    (reads : instruction.loaded? = none) (goes : instruction.targets = []) :
    Steady owner visible ledger (Lowering.terminate instruction) fun _ _ => True :=
  .terminate plain fun _ _ =>
    ⟨fun slot member => by simp [reads] at member, fun target member => by simp [goes] at member⟩

/-- So is a return. -/
theorem lowerReturn (place : Location) (value : Tree) :
    Steady owner visible ledger (Lowering.lowerReturn place value) fun _ _ => True := by
  have ends : ∀ {ledger : Ledger}, Steady owner visible ledger (Lowering.terminate .returnVoid)
      fun _ _ => True :=
    .returns ⟨fun _ => rfl, fun _ => .inl rfl⟩ rfl rfl
  refine .bind (.looking fun _ => .enclosingFunction) fun _ _ (function, expected) _ => ?_
  dsimp only
  -- What a function answers and what stands in the return decide together.
  split
  · exact ends
  · exact .refuse _ _
  · refine .bind (Tree.lowerExpression_steady_all.1 _ _) fun _ _ answer _ => ?_
    split
    · exact .refuse _ _
    · exact ends
  · refine .bind (Tree.lowerValue_steady _) fun _ _ result _ => ?_
    split
    · exact .returns ⟨fun _ => rfl, fun _ => .inl rfl⟩ rfl rfl
    · exact .refuse _ _

/-- What follows a terminator goes to a block that waits for what is visible. -/
theorem ensureOpen : Steady owner visible ledger Lowering.ensureOpen fun _ _ => True := by
  refine .bind .isTerminated fun _ _ ended _ => ?_
  split
  · exact .bind (.createBlock _) fun _ _ block awaits => .moveTo awaits
  · exact .pure fun _ _ => trivial

/-- A jump goes to a block that waits for what is visible. -/
theorem jump {names : List String} {block : BlockRef} (awaits : ledger.Awaits owner names block)
    (shown : names ⊆ visible) :
    Steady owner visible ledger (Lowering.terminate (.jump block.label)) fun _ _ => True := by
  refine .terminate ⟨fun _ => rfl, fun _ => .inl rfl⟩ fun larger grows =>
    ⟨nofun, fun target member => ?_⟩
  obtain rfl := List.mem_singleton.mp member
  exact (awaits.mono grows).goes shown

/-- A jump goes to a block that promises no more than is visible. -/
theorem jumpUnlessTerminated {names : List String} {block : BlockRef}
    (awaits : ledger.Awaits owner names block) (shown : names ⊆ visible) :
    Steady owner visible ledger (Lowering.jumpUnlessTerminated block) fun _ _ => True := by
  refine .bind .isTerminated fun larger grows ended _ => ?_
  split
  · exact .pure fun _ _ => trivial
  · exact .jump (awaits.mono grows) shown

/-- A branch between two blocks that wait for what is visible. -/
theorem branch (value : Operand) {first second : BlockRef}
    (one : ledger.Awaits owner visible first) (other : ledger.Awaits owner visible second) :
    Steady owner visible ledger (Lowering.terminate (.branch value first.label second.label))
      fun _ _ => True := by
  refine .terminate ⟨fun _ => rfl, fun _ => .inl rfl⟩ fun larger grows =>
    ⟨nofun, fun target member => ?_⟩
  simp only [Instruction.targets, List.mem_cons, List.not_mem_nil, or_false] at member
  -- Both blocks wait for what is visible here.
  obtain rfl | rfl := member
  · exact (one.mono grows).goes (List.Subset.refl _)
  · exact (other.mono grows).goes (List.Subset.refl _)

/-- A block of statements goes on where code is emitted now. -/
theorem inBlock {body : Lowering Unit} (nested : Nested body) (flows : FlowsAnywhere body) :
    SteadyAnywhere (Lowering.inBlock body) := by
  refine fun owner visible ledger => .of_ends fun larger grows start settled => ?_
  -- The new frame stands where code goes already, and knows what is stored there.
  obtain ⟨block, standing, cursor, belongs, found, held⟩ := settled.cursor
  have pushed := settled.pushBlock block {} ⟨rfl, rfl⟩ belongs ⟨standing, found, held⟩
    fun target goes => by simp at goes
  unfold Lowering.inBlock
  rw [bind_ends, scopes_ends, show start.scopes.cursor = some block from cursor]
  exact (flows owner visible larger).withFrame nested settled pushed (.inr rfl)

/-- Both arms begin with what is visible in front of the branch, and so does what is behind them. -/
theorem lowerChoice (condition : Tree) {consequent : Lowering Unit}
    {alternate : Option (Lowering Unit)} (first : SteadyAnywhere consequent)
    (second : ∀ lowered ∈ alternate, SteadyAnywhere lowered) :
    Steady owner visible ledger (Lowering.lowerChoice condition consequent alternate)
      fun _ _ => True := by
  refine .bind .nextSuffix fun _ _ suffix _ => .bind (.lowerCondition condition)
    fun _ _ value _ => ?_
  refine .bind (.createBlock _) fun opened _ thenBlock thens => ?_
  cases alternate with
  | some alternate =>
    refine .bind (.createBlock _) fun elsed step₁ elseBlock elses => ?_
    refine .bind (.createBlock _) fun merged step₂ mergeBlock merges => ?_
    -- All three blocks wait for what is visible here, and nothing else is visible behind an arm.
    refine .bind (.branch value (thens.mono (step₁.trans step₂)) (elses.mono step₂))
      fun left step₃ _ _ => ?_
    refine .bind (.moveTo (thens.mono (step₁.trans (step₂.trans step₃)))) fun inside step₄ _ _ => ?_
    refine .bind (first owner visible inside) fun behind step₅ _ _ => ?_
    have between := step₃.trans (step₄.trans step₅)
    refine .bind (.jumpUnlessTerminated (merges.mono between) (List.Subset.refl _))
      fun joined step₆ _ _ => ?_
    refine .bind (.moveTo (elses.mono (step₂.trans (between.trans step₆))))
      fun within step₇ _ _ => ?_
    refine .bind (second alternate rfl owner visible within) fun ended step₈ _ _ => ?_
    have after := between.trans (step₆.trans (step₇.trans step₈))
    exact .bind (.jumpUnlessTerminated (merges.mono after) (List.Subset.refl _)) fun _ step₉ _ _ =>
      .moveTo (merges.mono (after.trans step₉))
  | none =>
    refine .bind (.createBlock _) fun merged step₁ mergeBlock merges => ?_
    -- Without a second arm the branch goes on behind the first one.
    refine .bind (.branch value (thens.mono step₁) merges) fun left step₂ _ _ => ?_
    refine .bind (.moveTo (thens.mono (step₁.trans step₂))) fun inside step₃ _ _ => ?_
    refine .bind (first owner visible inside) fun behind step₄ _ _ => ?_
    have between := step₂.trans (step₃.trans step₄)
    exact .bind (.jumpUnlessTerminated (merges.mono between) (List.Subset.refl _))
      fun _ step₅ _ _ =>
        .moveTo (merges.mono (between.trans step₅))

/-- The frame of a round: jumps in it go where what is visible around the loop is promised, and
nothing else. -/
theorem inRound {block nextRound loopExit : BlockRef} (label : Option String)
    (begins : ledger.Awaits owner visible block) (repeats : ledger.Awaits owner visible nextRound)
    (leaves : ledger.Awaits owner visible loopExit) {body : Lowering Unit} (nested : Nested body)
    (flows : FlowsAnywhere body) :
    Steady owner visible ledger
      (Lowering.withFrame (some block)
        { isLoop := true, nextRound := some nextRound, loopExit := some loopExit, label }
        (do body; Lowering.jumpUnlessTerminated nextRound)) fun _ _ => True := by
  refine .of_ends fun larger grows start settled => ?_
  -- A round may declare more variables, which are visible no longer where it goes.
  have round : Flows owner visible larger (do body; Lowering.jumpUnlessTerminated nextRound) :=
    .bind (flows owner visible larger) fun further more grown shown => .of_steady fun all wider =>
      .jumpUnlessTerminated (repeats.mono (grows.trans grown)) (List.Subset.trans shown wider)
  obtain ⟨standing, found⟩ := settled.keeps.known block visible (grows _ _ begins.promised)
  have pushed := settled.pushBlock block
    { isLoop := true, nextRound := some nextRound, loopExit := some loopExit, label } ⟨rfl, rfl⟩
    begins.belongs ⟨standing, found,
      fun name member => .inl ⟨visible, grows _ _ begins.promised, member⟩⟩
    fun target goes => by
      obtain same | same := goes <;> cases same
      · exact ⟨repeats.belongs, visible, grows _ _ repeats.promised, List.Subset.refl _⟩
      · exact ⟨leaves.belongs, visible, grows _ _ leaves.promised, List.Subset.refl _⟩
  exact round.withFrame (.bind nested fun _ => .jumpUnlessTerminated _) settled pushed (.inr rfl)

/-- All blocks of a loop begin with what is visible around it. -/
theorem lowerLoop (condition : Tree) (label : Option String) {body : Lowering Unit}
    (nested : Nested body) (flows : FlowsAnywhere body) :
    Steady owner visible ledger (Lowering.lowerLoop condition label body) fun _ _ => True := by
  refine .bind .nextSuffix fun _ _ suffix _ => .bind (.createBlock _)
    fun _ _ conditionBlock conditions => ?_
  refine .bind (.createBlock _) fun _ step₁ bodyBlock bodies => .bind (.createBlock _)
    fun _ step₂ endBlock ends => ?_
  -- At the head of the loop the same names are stored on both ways to it.
  have conditions := conditions.mono (step₁.trans step₂)
  refine .bind (.jump conditions (List.Subset.refl _)) fun _ step₃ _ _ => ?_
  refine .bind (.moveTo (conditions.mono step₃)) fun _ step₄ _ _ => ?_
  refine .bind (.lowerCondition condition) fun _ step₅ value _ => ?_
  have before := step₃.trans (step₄.trans step₅)
  refine .bind (.branch value (bodies.mono (step₂.trans before)) (ends.mono before))
    fun inside step₆ _ _ => ?_
  -- What the two later blocks expect is still there behind the condition.
  have entered := before.trans step₆
  exact .bind (.inRound label (bodies.mono (step₂.trans entered)) (conditions.mono entered)
    (ends.mono entered) nested flows) fun _ step₇ _ _ => .moveTo (ends.mono (entered.trans step₇))

/-- So does a jump out of a loop or to its next round, for what the loop began with is still
visible. -/
theorem lowerJump (jump : Jump) (place : Location) (label : Option String) :
    Steady owner visible ledger (Lowering.lowerJump jump place label) fun _ _ => True := by
  refine .bind (.looking fun _ => .currentFrame) fun _ _ _ _ => .scopes
    fun larger _ start settled => ?_
  obtain ⟨frame, outer, opened, rfl⟩ := settled.head
  obtain ⟨secured, _⟩ := settled.opened opened
  have shown := settled.visible
  rw [opened] at shown
  cases meant : start.scopes.loopFrame? label with
  | none => exact .refuse _ _
  | some found =>
    have meant : Scopes.loopFrameIn label (frame :: outer) = some found := opened ▸ meant
    dsimp only
    cases aimed : jumpTarget? jump found with
    | none => exact .stop _
    | some block =>
      obtain ⟨same, names, promised, listed⟩ := secured.loopFrame meant block
        (by cases jump <;> simp [jumpTarget?] at aimed <;> simp [aimed])
      -- More may be visible in the round that is left than where the jump goes, but not less.
      have awaits : larger.Awaits frame.home names block := ⟨same, promised⟩
      exact .jump awaits fun name member => (shown name).mpr (listed name member)

/-- The return at the end of a function is steady. -/
theorem closeFunction (result : ExactKind) :
    Steady owner visible ledger (Lowering.closeFunction result) fun _ _ => True := by
  refine .bind .isTerminated fun _ _ ended _ => ?_
  split
  · exact .pure fun _ _ => trivial
  · cases result <;> exact .returns ⟨fun _ => rfl, fun _ => .inl rfl⟩ rfl rfl

end Steady

namespace Flows

/-- The first value of a variable is stored in front of its name, so the variable holds a value once
it is seen. -/
theorem storeFirst {start : Builder} (settled : start.Settled ledger owner visible)
    (name slot : String) (kind : ValueKind) (value : Operand) (place : Location) :
    (do
      Lowering.storeVariable name kind ⟨owner, slot⟩ value place
      Lowering.declare name (.var kind.exact (some ⟨owner, slot⟩)) place : Lowering Unit).Ends start
      (fun _ finish => ∃ last, visible ⊆ last ∧ finish.Settled ledger owner last)
      fun _ finish => ledger.Keeps finish.code := by
  unfold Lowering.storeVariable
  split
  · obtain ⟨block, body, cursor, belongs, found, _⟩ := settled.cursor
    have plain : Code.Function.IsPlain fun _ => .store value kind slot :=
      ⟨fun _ => rfl, fun _ => .inl rfl⟩
    have stored := settled.withCode (start.code.append_grows block "" plain) (.refl _)
      (settled.keeps.append plain fun _ _ _ => ⟨nofun, nofun⟩)
    rw [bind_ends, Lowering.emitUnnamed, bind_ends, emit_ends cursor]
    show Ends ((do setScopes place ((← Lowering.scopes).declare name _) : Lowering Unit)) _ _ _
    simp only [bind_ends, scopes_ends]
    cases declared : start.scopes.declare name (.var kind.exact (some ⟨owner, slot⟩)) with
    | error failure => cases failure <;> exact stored.keeps
    | ok scopes =>
      refine ⟨_, List.subset_append_left _ _, stored.declare declared fun own same => ?_⟩
      cases same
      -- Code is emitted behind the store, and so the slot holds a value there.
      refine ⟨rfl, fun other here code stands => .inr ?_⟩
      obtain rfl : block = other := Option.some.inj (cursor.symm.trans here)
      exact start.code.stores_append stands
  · exact settled.keeps

/-- A variable gets its slot, its first value, and only then its name. -/
theorem declareVariable (name base : String) (kind : ValueKind) (value : Operand)
    (place : Location) :
    Flows owner visible ledger (Lowering.declareVariable name base kind value place) := by
  intro larger more grows shown start settled
  -- First the slot is reserved, then it is stored to, and only then has it a name.
  have reserved := settled.withCode (start.code.addSlot_grows base kind owner) (.refl _)
    (settled.keeps.addSlot owner base kind)
  have stores := storeFirst reserved name (start.code.addSlot owner base kind).1 kind value place
  obtain ⟨frame, outer, opened, _⟩ := settled.head
  unfold Lowering.declareVariable
  rw [bind_ends, currentFrame_ends (by rw [Scopes.current?, opened]; rfl)]
  split
  -- A name that is taken is refused in front of everything.
  · exact ⟨larger, settled.keeps⟩
  -- The ledger need not grow for the slot itself, only for what is stored in it.
  · rw [bind_ends, createSlot_ends settled.function?]
    refine stores.imp (fun _ _ flows => ?_) fun _ _ keeps => ⟨larger, keeps⟩
    obtain ⟨last, wider, finished⟩ := flows
    exact ⟨larger, last, .refl _, wider, finished⟩

/-- A variable is stored to before it becomes visible. -/
theorem lowerDeclaration (place : Location) (name stated value : Tree) :
    Flows owner visible ledger (Lowering.lowerDeclaration place name stated value) := by
  rw [lowerDeclaration_eq]
  refine .after (fun _ _ => .looking fun _ => .carriedKind stated) fun ledger _ _ _ stated _ => ?_
  -- Finding out the kind emits nothing.
  have kinds (more : List String) :
      Steady owner more ledger
      (if stated.isExact then Pure.pure stated else inferKind name.shown value)
        fun _ _ => True := by
    split
    · exact .pure fun _ _ => trivial
    · exact .inferKind name.shown value
  refine .after (fun more _ => kinds more) fun _ more _ _ kind _ => ?_
  unfold declareAs
  split
  -- A name for no value has no slot.
  · refine .after (fun _ _ => Tree.lowerExpression_steady_all.1 value _) fun _ _ _ _ _ _ => ?_
    refine .after (fun _ _ => .looking fun _ => .declaredName name) fun _ _ _ _ name _ => ?_
    exact .of_steady fun _ _ => .declare name rfl place
  · refine .after (fun _ _ => Tree.lowerValue_steady value) fun _ _ _ _ initial _ => ?_
    split
    · refine .after (fun _ _ => .looking fun _ => .declaredName name) fun _ _ _ _ name _ => ?_
      exact .declareVariable name name _ initial place
    · exact .refuse _ _

/-- So are parameters, one after the other. -/
theorem storeParameters (parameters : List TypedName) :
    ∀ (registers : List (String × ValueKind)) (ledger : Ledger)
    (visible : List String),
      Flows owner visible ledger (Lowering.storeParameters registers parameters) := by
  -- One parameter after the other gets its slot and its first value.
  induction parameters with
  | nil =>
    intro registers ledger visible
    cases registers <;> exact .pure
  | cons parameter rest flows =>
    intro registers ledger visible
    cases registers with
    | nil => exact .pure
    | cons register registers =>
      exact .bind (.declareVariable _ _ _ _ _) fun larger more _ _ => flows registers larger more

/-- In a function its parameters are stored, its body follows, and what is left open is closed. -/
theorem functionContents (function : Function) (owner : Name) (visible : List String)
    (ledger : Ledger) (parameters : List TypedName) {body : Lowering Unit}
    (flows : FlowsAnywhere body) :
    Flows owner visible ledger (do
      Lowering.storeParameters function.parameters parameters; body;
        Lowering.closeFunction function.result) :=
  .bind (.storeParameters parameters _ _ _) fun _ _ _ _ => .bind (flows _ _ _) fun _ _ _ _ =>
    .of_steady fun _ _ => .closeFunction _

end Flows

namespace Steady

/-- The body of a function begins where nothing is visible of it, so nothing is promised there. -/
theorem lowerFunctionBody {start : Builder} (settled : start.Settled ledger owner visible)
    {function created : Function} (found : start.code.function? function.name = some created)
    (apart : ∀ slot ∈ start.scopes.frames.flatMap Frame.slots, slot.function ≠ function.name)
    (parameters : List TypedName) {body : Lowering Unit} (nested : Nested body)
    (flows : FlowsAnywhere body) :
    (Lowering.lowerFunctionBody function parameters body).Ends start
      (fun _ finish => ∃ later, ledger.Grows later ∧ finish.Settled later owner visible)
      fun _ finish => ∃ later : Ledger, later.Keeps finish.code := by
  -- The body begins in a frame of another function, where no slot from outside can be used.
  obtain ⟨larger, grows, begun, pushed⟩ := settled.openFunction found apart "entry"
    { function := some function.name, isFunction := true, result := some (.exact function.result) }
    rfl rfl ⟨rfl, rfl⟩
  have contents := Flows.functionContents function function.name [] larger parameters flows
  unfold Lowering.lowerFunctionBody
  rw [bind_ends, addBlock_ends]
  exact (contents.withFrame (.functionContents function parameters nested) begun pushed
    (.inl rfl)).imp
    (fun _ _ ⟨later, more, finished⟩ => ⟨later, grows.trans more, finished⟩) fun _ _ ends => ends

/-- A function is created and declared, and its body is lowered apart from what is around it. -/
theorem lowerFunction (place : Location) (name arguments result : Tree) {body : Lowering Unit}
    (nested : Nested body) (flows : FlowsAnywhere body) :
    Steady owner visible ledger (Lowering.lowerFunction place name arguments result body)
      fun _ _ => True := by
  refine .bind (.looking fun _ => .typedNames arguments) fun _ _ parameters _ => ?_
  refine .bind (.looking fun _ => .statedResult name.shown result place) fun _ _ result _ => ?_
  refine .bind (.looking fun _ => .declaredName name) fun _ _ name _ => ?_
  have creates {ledger : Ledger} : Steady owner visible ledger (do
      let function ← Lowering.createTypedFunction (.text name) parameters result
      Lowering.declare name
        (.fn function.name (.exact result) (parameters.map fun parameter => parameter.kind.exact))
        place
      Lowering.lowerFunctionBody function parameters body) fun _ _ => True := by
    refine .of_ends fun larger _ start settled => ?_
    -- The function is there before its name is, so that its body may call it.
    have created := settled.addFunction (.text name)
      (parameters.map fun parameter => (parameter.name, parameter.kind)) result
    simp only [Lowering.createTypedFunction, bind_ends, createFunction_ends, note_ends, pure_ends]
    generalize start.code.addFunction (.text name) _ result = added at created ⊢
    obtain ⟨function, code⟩ := added
    obtain ⟨begun, found, apart⟩ := created
    have noted := begun.other
      (start.scopes.note s!"function '{function.name.display}' : {function.typeText}").log
      start.blockCount
    show Ends ((do setScopes place ((← Lowering.scopes).declare name _) : Lowering Unit)) _ _ _
    simp only [bind_ends, scopes_ends]
    cases declared : (start.scopes.note
      s!"function '{function.name.display}' : {function.typeText}").declare name
        (.fn function.name (.exact result)
          (parameters.map fun parameter => parameter.kind.exact)) with
    | error failure => cases failure <;> exact ⟨larger, begun.keeps⟩
    | ok scopes =>
      -- The name of a function has no slot, so no slot of the new function is visible.
      have slots := Builder.declare_slots declared rfl
      have known := noted.declare declared fun slot held => by cases held
      exact lowerFunctionBody (by simpa [Binding.slot?] using known) found
        (fun slot member => apart slot (slots ▸ member)) parameters nested flows
  refine .bind (.looking fun _ => .currentFrame) fun _ _ frame _ => ?_
  dsimp only
  split
  · exact .refuse_bind
  · exact creates

end Steady

end Lowering

namespace Tree

open Lowering

/-- A block is steady, so it may stand among statements. -/
theorem flows_of_steady {action : Lowering Unit} (steady : SteadyAnywhere action) :
    FlowsAnywhere action :=
  fun owner _ ledger => .of_steady fun more _ => steady owner more ledger

/-- Lowering any tree, as a statement or as a part of one, breaks no promise. -/
theorem lower_flows_all :
    (∀ tree, FlowsAnywhere (lowerStatement tree)) ∧ (∀ tree, SteadyAnywhere (lowerArm tree)) ∧
      (∀ tree, FlowsAnywhere (lowerBody tree)) ∧ ∀ items,
        FlowsAnywhere (lowerStatements items) := by
  obtain ⟨-, arm_nested, body_nested, -⟩ := lower_nested_all
  -- By the recursion of lowering. Statements may declare variables, an arm opens a frame of its
  -- own.
  refine lowerStatement.mutual_induct (fun tree => FlowsAnywhere (lowerStatement tree))
    (fun tree => SteadyAnywhere (lowerArm tree)) (fun tree => FlowsAnywhere (lowerBody tree))
    (fun items => FlowsAnywhere (lowerStatements items))
    ?functionDeclaration ?noFunctionBody ?noFunctionName ?variableDeclaration ?noVariableName
    ?blockStatement
    ?returnStatement ?ifStatement ?loopStatement ?noLoopBody ?breakStatement ?continueStatement
    ?expressionStatement ?other ?armIf ?armBlock ?noArm ?list ?emptyText ?text ?noList ?nil ?cons
  case functionDeclaration =>
    exact fun place arguments result _ name _ _ content flows => flows_of_steady fun _ _ _ =>
      .lowerFunction place name arguments result (body_nested content).narrow flows
  case noFunctionBody =>
    intro place arguments body result _ name _ noBlock
    rw [lowerStatement] <;> first | assumption | exact fun _ _ _ => .refuse _ _
  case noFunctionName =>
    intro place named arguments body result noName _
    rw [lowerStatement] <;> first | assumption | exact fun _ _ _ => .refuse _ _
  case variableDeclaration =>
    exact fun place value _ name stated _ _ _ =>
      .lowerDeclaration place name stated value
  case noVariableName =>
    intro place named value noName
    rw [lowerStatement] <;> first | assumption | exact fun _ _ _ => .refuse _ _
  case blockStatement =>
    exact fun place content flows =>
      flows_of_steady (.inBlock (body_nested content).narrow flows)
  case returnStatement =>
    exact fun place value => flows_of_steady fun _ _ _ =>
      .lowerReturn place value
  case ifStatement =>
    exact fun place condition consequent alternate first second => flows_of_steady fun _ _ _ =>
      .lowerChoice condition first (secondArm_forall second)
  case loopStatement =>
    exact fun place condition label _ content flows => flows_of_steady fun _ _ _ =>
      .lowerLoop condition _ (body_nested content).narrow flows
  case noLoopBody =>
    intro place condition body label noBlock
    rw [lowerStatement] <;> first | assumption | exact fun _ _ _ => .refuse _ _
  case breakStatement =>
    exact fun place label => flows_of_steady fun _ _ _ =>
      .lowerJump .break place (labelName? label)
  case continueStatement =>
    exact fun place label => flows_of_steady fun _ _ _ =>
      .lowerJump .continue place (labelName? label)
  case expressionStatement =>
    exact fun place expression => flows_of_steady fun _ _ _ =>
      .bind (lowerExpression_steady_all.1 expression _) fun _ _ _ _ => .pure fun _ _ => trivial
  case other =>
    intro tree _ _ _ _ _ _ _ _ _
    rw [lowerStatement] <;> first | assumption | exact fun _ _ _ => .refuse _ _
  case armIf =>
    intro place condition consequent alternate first second
    exact .inBlock (.choice (arm_nested consequent) (secondArm_nested (arm_nested alternate)))
      (flows_of_steady fun _ _ _ => .lowerChoice condition first (secondArm_forall second))
  case armBlock => exact fun place content flows => .inBlock (body_nested content).narrow flows
  case noArm =>
    intro tree _ _ _ _ _
    rw [lowerArm] <;> first | assumption | exact .refuse _ _
  case list => exact fun items flows => flows
  case emptyText =>
    intro value empty
    have nothing : FlowsAnywhere (pure ()) := fun _ _ _ => .pure
    simpa only [lowerBody, empty, if_true] using nothing
  case text =>
    intro value filled
    refine flows_of_steady fun _ _ _ => ?_
    simpa only [lowerBody, filled, if_false] using .bind .ensureOpen fun _ _ _ _ => .refuse _ _
  case noList =>
    intro tree _ _
    refine flows_of_steady fun _ _ _ => ?_
    rw [lowerBody] <;> first | assumption | exact .stop _
  case nil => exact fun _ _ _ => .pure
  case cons =>
    -- The first statement may make more visible, with which the others go on.
    exact fun statement rest first others owner _ _ => .after (fun _ _ => .ensureOpen)
      fun _ more _ _ _ _ =>
        .bind (first owner more _) fun further all _ _ => others owner all further

end Tree

end LoopLang
