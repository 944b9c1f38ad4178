import LoopLang.Proofs.Layout.Lowering
import LoopLang.Proofs.Layout.Reservation
import LoopLang.Proofs.Lowering.Function

/-! Lowering reserves the slots that are planned for a tree, wherever it succeeds. -/

namespace LoopLang

open Code (Name Function)

namespace Lowering

variable {α β : Type} {owner : Name} {around behind : Outline} {plan : SlotPlan}
  {action : Lowering α}

namespace Idle

open Scopes.Gains (absorbs)

/-- Whatever stands in a block, it may be emitted there. -/
theorem emits (block : BlockRef) (instruction : Code.Instruction) :
    Placement.IsEmission (.emitted block instruction) :=
  trivial

/-- What only emits, and opens and closes its frames, is idle. -/
theorem of_quiet (takes : Takes Placement.IsEmission action) (quiet : Quiet .inferred action) :
    Idle action :=
  ⟨takes, absorbs.of_quiet quiet⟩

/-- Two idle computations in a row are one. -/
theorem bind {next : α → Lowering β} (first : Idle action) (second : ∀ answer, Idle (next answer)) :
    Idle (action >>= next) :=
  ⟨.bind first.takes fun answer => (second answer).takes, absorbs.bind first.keeps fun answer =>
    (second answer).keeps⟩

/-- An answer is idle. -/
theorem pure (answer : α) : Idle (Pure.pure answer) := ⟨.pure answer, absorbs.pure answer⟩

/-- So is looking for the innermost frame. -/
theorem currentFrame : Idle Lowering.currentFrame := .of_quiet .currentFrame .currentFrame

/-- So is counting a branch. -/
theorem nextSuffix : Idle Lowering.nextSuffix := .of_quiet .nextSuffix .nextSuffix

/-- So is creating a block. -/
theorem createBlock (base : String) : Idle (Lowering.createBlock base) :=
  .of_quiet (.createBlock base) (.createBlock base)

/-- So is ending one. -/
theorem terminate {instruction : Code.Instruction} (plain : Function.IsPlain fun _ => instruction) :
    Idle (Lowering.terminate instruction) :=
      .of_quiet (.terminate plain fun _ => trivial) (.terminate instruction)

/-- So is going on in another one. -/
theorem moveTo (block : BlockRef) : Idle (Lowering.moveTo block) :=
  ⟨.moveTo block, absorbs.moved block⟩

/-- So is beginning one behind the end of another. -/
theorem ensureOpen : Idle Lowering.ensureOpen := ⟨.ensureOpen, absorbs.ensureOpen⟩

/-- So is a jump at the end of a block. -/
theorem jumpUnlessTerminated (block : BlockRef) : Idle (Lowering.jumpUnlessTerminated block) :=
  ⟨.jumpUnlessTerminated (Takes.calm emits) block, absorbs.jumpUnlessTerminated block⟩

/-- Expressions reserve no slots. -/
theorem expression (tree : Tree) : Idle tree.lowerExpression :=
  .of_quiet (.expression emits tree) (Tree.lowerExpression_quiet_all.1 tree)

/-- Nor do values that are asked for. -/
theorem value (tree : Tree) : Idle tree.lowerValue :=
  .of_quiet (.value emits tree) (Tree.lowerValue_quiet tree)

/-- A value is stored without another slot. -/
theorem storeVariable (name : String) (kind : ValueKind) (slot : Slot) (value : Code.Operand)
    (place : Location) :
    Idle (Lowering.storeVariable name kind slot value place) :=
  .of_quiet (.storeVariable (Takes.calm emits) name kind slot value place)
    (.storeVariable name kind slot value place)

/-- A condition needs none. -/
theorem condition (condition : Tree) : Idle (lowerCondition condition) :=
  ⟨.condition emits condition, absorbs.condition condition⟩

/-- Nor does a return. -/
theorem ending (place : Location) (value : Tree) : Idle (lowerReturn place value) :=
  ⟨.ending emits place value, absorbs.ending place value⟩

/-- Nor does a jump. -/
theorem jump (jump : Jump) (place : Location) (label : Option String) :
    Idle (lowerJump jump place label) :=
  ⟨.jump (Takes.calm emits) jump place label, absorbs.jump jump place label⟩

/-- Nor does the end of a function. -/
theorem closeFunction (result : ExactKind) : Idle (Lowering.closeFunction result) :=
  ⟨.closeFunction (Takes.calm emits) result, absorbs.closeFunction result⟩

/-- Nor is one reserved when a kind is inferred. -/
theorem inferKind (name : String) (value : Tree) : Idle (Lowering.inferKind name value) :=
  ⟨.inferKind name value, absorbs.inferKind name value⟩

/-- Reading parameters is idle. -/
theorem typedNames (parameters : Tree) : Idle (Lowering.typedNames parameters) :=
  ⟨.typedNames parameters, absorbs.of_looks fun _ => .typedNames parameters⟩

/-- So is reading the kind of a result. -/
theorem statedResult (name : String) (result : Tree) (place : Location) :
    Idle (Lowering.statedResult name result place) :=
  ⟨.statedResult name result place, absorbs.of_looks fun _ => .statedResult name result place⟩

/-- So is reading a name that is to be declared. -/
theorem declaredName (name : Tree) : Idle (Lowering.declaredName name) :=
  ⟨.declaredName name, absorbs.of_looks fun _ => .declaredName name⟩

end Idle

namespace Lays

/-! Variables. -/

/-- A slot is reserved in the function that stands around. -/
theorem createSlot (base : String) (kind : ValueKind) :
    Lays owner around ⟨[kind], []⟩ around (Lowering.createSlot base kind) := by
  intro start stands
  refine (createSlot_ends stands.here).mpr ?_
  have tidy := stands.tidy.addSlot base kind owner
  have grows := start.code.addSlot_grows base kind owner
  have kinds := stands.tidy.slotKinds_addSlot owner base kind
  -- The function at hand has a first block, where the slot is put.
  obtain ⟨function, label, found, first⟩ := stands.started
  simp only [found, Option.bind_some, first, Option.isSome_some, if_true] at kinds
  exact ⟨stands.stays tidy grows (.of_continues (.refl _)), grows, [], rfl, by simpa using kinds⟩

/-- A name that is declared is declared in the outline. -/
theorem declare (name : String) (binding : Binding) (place : Location) :
    Lays owner around .none (around.declare name binding.outline)
      (Lowering.declare name binding place) := by
  intro start stands
  show (Lowering.setScopes place (start.scopes.declare name binding)).Ends start _ _
  -- A declaration reserves nothing and adds one name to the outline.
  cases declared : start.scopes.declare name binding with
  | error failure => cases failure <;> trivial
  | ok scopes =>
    have later_stands :=
      stands.onward { start with scopes } stands.tidy (.refl _) (Scopes.declare_continues declared)
    rw [Scopes.outline_declare declared, stands.outline] at later_stands
    exact ⟨later_stands, .of_eq (.refl _) rfl⟩

/-- A variable has a single slot, and is visible from then on. -/
theorem declareVariable (name base : String) (kind : ValueKind) (value : Code.Operand)
    (place : Location) :
    Lays owner around ⟨[kind], []⟩ (around.declare name (.var kind.exact none))
      (Lowering.declareVariable name base kind value place) := by
  -- One slot is reserved, and behind it the name stands for a variable.
  have stores : Lays owner around (⟨[kind], []⟩ ++ .none)
      (around.declare name (.var kind.exact none)) (do
      let slot ← Lowering.createSlot base kind
      Lowering.storeVariable name kind slot value place
      Lowering.declare name (.var kind.exact (some slot)) place) :=
    .bind (.createSlot base kind) fun slot => .after (.storeVariable _ _ _ _ _) fun _ =>
      .declare name _ place
  rw [SlotPlan.append_none] at stores
  refine .after .currentFrame fun frame => ?_
  dsimp only
  -- A name that is taken is refused.
  split
  · exact fun _ _ => trivial
  · exact stores

/-- The kind of a variable is the one that is stated or inferred. -/
theorem variableKind (stated : Kind) (name : String) (value : Tree) {kind : Kind}
    (settled : ∃ start finish : Builder,
      start.Stands owner around ∧ (if stated.isExact then Pure.pure stated
        else Lowering.inferKind name value : Lowering Kind).Yields start kind finish) :
    Tree.variableKind? around (.kindValue stated) value = kind.definite? := by
  obtain ⟨start, finish, stands, yields⟩ := settled
  unfold Tree.variableKind?
  show (if stated.isExact then _ else _) = _
  split at yields
  -- A stated kind is taken as it is.
  · rename_i exact
    cases yields
    rw [if_pos exact]
  -- Else it is inferred from the value, in the names that are visible there.
  · rename_i inexact
    rw [if_neg inexact, ← stands.outline, Scopes.infer_outline]
    obtain ⟨scopes, middle, reads, infers⟩ := bind_yields.mp yields
    cases reads
    -- What is answered is what has been inferred.
    revert infers
    cases value.infer start.scopes with
    | ok found =>
      intro infers
      obtain ⟨_, _, -, answers⟩ := bind_yields.mp infers
      cases answers
      rfl
    | error failure => exact nofun

/-- A name that is declared is the one that is displayed. -/
theorem named {next : String → Lowering β} (name : Tree)
    (rest : Lays owner around plan behind (next name.shown)) :
    Lays owner around plan behind (Lowering.declaredName name >>= next) := by
  rw [declaredName_bind]
  exact .after (.declaredName name) fun _ => rest

/-- A variable gets a slot, unless it is `void`. -/
theorem declaration (place : Location) (id name : Tree) (idPlace : Location) (stated value : Tree)
    (identified : id = .identifier idPlace name stated) :
    Lays owner around ((Tree.variableDeclaration place id value).plan around)
      ((Tree.variableDeclaration place id value).outlineBehind around)
        (lowerDeclaration place name stated value) := by
  subst identified
  rw [lowerDeclaration_eq, Tree.plan, Tree.outlineBehind]
  -- The kind that is stated is a kind, or something that only stands in its place.
  by_cases carried : ∃ kind, stated = .kindValue kind
  · obtain ⟨stated, rfl⟩ := carried
    rw [carriedKind_kindValue, pure_bind]
    -- Settling the kind reserves no slot.
    have settles : Idle (if stated.isExact then Pure.pure stated
        else Lowering.inferKind name.shown value) := by
      split
      · exact .pure _
      · exact .inferKind name.shown value
    rw [← SlotPlan.none_append (SlotPlan.mk _ _)]
    refine .bind_known (.idle settles) fun kind settled => ?_
    rw [variableKind stated name.shown value settled]
    -- A kind that is not definite is refused.
    rcases kind with (_ | _ | _) | _ | _
    -- A variable with a value gets a slot of its kind, and a void one gets none.
    · exact .after (.value value) fun initial =>
        .named name (.declareVariable _ _ .num initial place)
    · exact .after (.value value) fun initial =>
        .named name (.declareVariable _ _ .bool initial place)
    · exact .after (.expression value) fun _ => .named name (.declare _ (.var .void none) place)
    · exact .after (.value value) fun _ => .refuse _ _
    · exact .after (.value value) fun _ => .refuse _ _
  -- What is no kind in its place is at fault.
  · have stops : Lowering.carriedKind stated = Lowering.stop .notAKind :=
      carriedKind_eq_stop fun kind same => carried ⟨kind, same⟩
    rw [stops, stop_bind]
    exact .stop _

/-- Every parameter gets a slot. -/
theorem storeParameters :
    ∀ (registers : List (String × ValueKind)) (parameters : List TypedName) {around : Outline},
    registers.length = parameters.length →
      Lays owner around ⟨parameters.map TypedName.kind, []⟩
        (around.declareAll (parameters.map fun parameter => (parameter.name, parameter.kind)))
        (Lowering.storeParameters registers parameters)
  | [], [], _, _ => .idle (.pure ())
  | (register, _) :: registers, ⟨place, name, kind⟩ :: parameters, around, same =>
    .bind (.declareVariable name ("argument." ++ name) kind (.register register kind) place)
      fun _ =>
        storeParameters registers parameters (by simpa using same)

/-! Frames. -/

/-- What is reserved within a frame stays reserved when that is closed. -/
theorem withFrame_code {start : Builder} {block : BlockRef} {options : FrameOptions}
    (held : Code.Module → Prop)
    (inside : action.Ends { start with scopes := start.scopes.push (some block) options }
      (fun _ inner => held inner.code) fun _ _ => True) :
    (Lowering.withFrame (some block) options action).Ends start (fun _ finish => held finish.code)
      fun _ _ => True := by
  unfold Ends at inside ⊢
  rw [withFrame_outcome]
  revert inside
  rcases action.outcome
    { start with scopes := start.scopes.push (some block) options } with ⟨result, inner⟩
  intro inside
  unfold closeFrame
  cases inner.scopes.pop with
  | error => trivial
  | ok scopes =>
    dsimp only
    -- Closing the frame may fail in its own way; otherwise the computation ends as it did.
    cases scopes.isAdrift with
    | true => trivial
    | false => cases result <;> exact inside

/-- What is declared in a frame of the same function is gone behind it, and its slots are those of
that function. -/
theorem withFrame {block : BlockRef} {options : FrameOptions} (same : options.function = none)
    (nested : Nested action) (inside : Lays owner around.opened plan behind action) :
    Lays owner around plan around (Lowering.withFrame (some block) options action) := by
  intro start stands
  -- A frame without a function of its own goes on in the function around it.
  have pushed : Builder.Stands
      { start with scopes := start.scopes.push (some block) options } owner around.opened := by
    refine ⟨stands.tidy, ?_, stands.started, ?_⟩
    · have here := stands.here
      unfold Scopes.function? at here ⊢
      simpa [Scopes.push, Scopes.note, Scopes.current?, Frame.opened, same] using here
    · rw [← stands.outline]
      rfl
  have reserved := inside _ pushed
  have kept := withFrame_code (fun code => code.Tidy ∧ start.code.Reserves owner plan code)
    (reserved.imp (fun _ inner ended => ⟨ended.1.tidy, ended.2⟩) fun _ _ _ => trivial)
  have gains : Relates false (Scopes.Gains []) (Lowering.withFrame (some block) options action) :=
    Scopes.Gains.absorbs.withFrame block options nested
  -- When it is closed, the names are those from before.
  have gains := gains start
  unfold Ends at kept gains ⊢
  split
  · rename_i answer finish outcome
    rw [outcome] at kept gains
    exact ⟨stands.stays kept.1 kept.2.grows gains.1, kept.2⟩
  · trivial

/-- So it is in a nested block, which is lowered only where code is emitted. -/
theorem inBlock (nested : Nested action) (inside : Lays owner around.opened plan behind action) :
    Lays owner around plan around (Lowering.inBlock action) := by
  intro start stands
  have framed (block : BlockRef) : Lays owner around plan around
      (Lowering.withFrame (some block) {} action) :=
    .withFrame rfl nested inside
  unfold Ends
  rw [inBlock_outcome]
  -- Without a block to stand in, the frame is opened but nothing is lowered in it.
  cases start.scopes.cursor with
  | none =>
    rw [withFrame_nowhere]
    trivial
  | some block => exact framed block start stands

/-! Branches and loops. -/

/-- A branch reserves what its arms do. -/
theorem choice (condition : Tree) {consequent : Lowering Unit}
    {alternate : Option (Lowering Unit)} {second : SlotPlan}
    (first : Lays owner around plan around consequent)
    (others : ∀ arm ∈ alternate, Lays owner around second around arm)
    (missing : alternate = none → second = .none) :
    Lays owner around (plan ++ second) around (lowerChoice condition consequent alternate) := by
  refine .after .nextSuffix fun _ => .after (.condition _) fun _ => .after (.createBlock _)
    fun _ => ?_
  split
  · refine .after (.createBlock _) fun _ => .after (.createBlock _) fun _ =>
      .after (.terminate (.unnamed rfl rfl)) fun _ => .after (.moveTo _) fun _ => ?_
    refine .bind first fun _ => .after (.jumpUnlessTerminated _) fun _ =>
      .after (.moveTo _) fun _ => ?_
    exact .before (others _ rfl) fun _ => .bind (.jumpUnlessTerminated _) fun _ => .moveTo _
  -- A missing arm has no slots.
  · rw [missing rfl, SlotPlan.append_none]
    exact .after (.createBlock _) fun _ => .after (.terminate (.unnamed rfl rfl)) fun _ =>
      .after (.moveTo _) fun _ =>
        .before first fun _ => .bind (.jumpUnlessTerminated _) fun _ => .moveTo _

/-- A loop reserves what its body does, however often it runs. -/
theorem loop {condition : Tree} {label : Option String} {body : Lowering Unit}
    (nested : Nested body) (inside : Lays owner around.opened plan behind body) :
    Lays owner around plan around (lowerLoop condition label body) := by
  refine .after .nextSuffix fun _ => .after (.createBlock _) fun _ =>
    .after (.createBlock _) fun _ => .after (.createBlock _) fun _ =>
    .after (.terminate (.unnamed rfl rfl)) fun _ => ?_
  refine .after (.moveTo _) fun _ => .after (.condition _) fun _ =>
    .after (.terminate (.unnamed rfl rfl)) fun _ => ?_
  -- All that is laid out is laid out by the body, within the frame of the loop.
  exact .before (.withFrame rfl (.bind nested fun _ => .jumpUnlessTerminated _)
    (.before inside fun _ => .jumpUnlessTerminated _)) fun _ => .moveTo _

/-! Functions. -/

/-- Checked parameters are those that stand in the tree. -/
theorem parameters {arguments : Tree} {found : List TypedName}
    (checked : ∃ start finish : Builder,
      start.Stands owner around ∧ (Lowering.typedNames arguments).Yields start found finish) :
    arguments.parameters = found.map fun parameter => (parameter.name, parameter.kind) := by
  obtain ⟨start, finish, -, yields⟩ := checked
  rcases Looks.known (.typedNames arguments) yields with ⟨items, rfl, stand⟩ | ⟨rfl, rfl⟩
  · clear yields
    show items.filterMap Tree.parameter? = _
    -- By induction on the items, each of which is the parameter that it has been accepted as.
    induction stand with
    | nil => rfl
    | cons is_parameter _ ih =>
      rename_i item parameter rest parameters _
      obtain ⟨name, rfl, named⟩ := is_parameter
      have accepted : (Tree.identifier parameter.place name
          (.kindValue (.exact parameter.kind.exact))).parameter? =
          some (parameter.name, parameter.kind) := by
        simp [Tree.parameter?, Tree.kind?, Kind.definite?, named]
      rw [List.filterMap_cons_some accepted, List.map_cons, ih]
  · rfl

/-- The parameters and the body of a function reserve slots in it, and leave the frames around
it. -/
theorem functionBody {function : Function} {parameters : List TypedName} {body : Lowering Unit}
    (start : Builder) (tidy : start.code.Tidy) (found : start.code.function? function.name ≠ none)
    (same : function.parameters.length = parameters.length)
    (inside : Lays function.name
      (start.scopes.outline.opened.declareAll
        (parameters.map fun parameter => (parameter.name, parameter.kind))) plan behind body) :
    (lowerFunctionBody function parameters body).Ends start (fun _ finish => finish.code.Tidy ∧
      start.code.Reserves function.name
        ⟨parameters.map TypedName.kind ++ plan.own, plan.nested⟩ finish.code) fun _ _ => True := by
  unfold lowerFunctionBody
  refine bind_ends.mpr (addBlock_ends.mpr ?_)
  have tidy_block := tidy.addBlock "entry" function.name
  have grows := tidy.addBlock_grows "entry" function.name
  -- The function has got a block for its slots.
  have started : ∃ grown label,
      (start.code.addBlock function.name "entry").2.function? function.name = some grown ∧
      grown.start? = some label := by
    obtain ⟨held, here⟩ := Option.ne_none_iff_exists'.mp found
    have changed := start.code.function?_inFunction function.name function.name
      (fun held => held.addBlock "entry") fun _ => rfl
    rw [if_pos rfl, here] at changed
    have first : (held.addBlock "entry").2.start?.isSome := by
      simp [Function.start?, Function.addBlock]
    obtain ⟨label, first⟩ := Option.isSome_iff_exists.mp first
    exact ⟨_, label, changed, first⟩
  -- The frame around the body holds for what the code has become.
  refine withFrame_code (fun code => code.Tidy ∧ start.code.Reserves function.name _ code) ?_
  -- Slots for the parameters come first, then those of the body, and the end reserves none.
  have contents : Lays function.name start.scopes.outline.opened
      (⟨parameters.map TypedName.kind, []⟩ ++ plan) behind (do
        Lowering.storeParameters function.parameters parameters
        body
        Lowering.closeFunction function.result) :=
    .bind (.storeParameters _ _ same) fun _ => .before inside fun _ => .closeFunction _
  refine (contents _ ⟨tidy_block, rfl, started, rfl⟩).imp (fun _ inner ended => ⟨ended.1.tidy, ?_⟩)
    fun _ _ _ => trivial
  -- The kinds of the slots are those of the code before the entry block was added, which has none.
  obtain ⟨grows_on, created, planned, kinds⟩ := ended.2
  exact ⟨grows.trans grows_on, created, planned, by rw [kinds, start.code.slotKinds_addBlock]; rfl⟩

/-- The frame of a function is closed behind its body, and the frames around it declare nothing
more. -/
theorem functionBody_gains {body : Lowering Unit} (nested : Nested body) (function : Function)
    (parameters : List TypedName) :
    Relates false (Scopes.Gains []) (lowerFunctionBody function parameters body) :=
  Scopes.Gains.absorbs.bind (Scopes.Gains.absorbs.of_same fun _ => rfl) fun _ =>
    Scopes.Gains.absorbs.withFrame _ _ (Nested.functionContents function parameters nested)

/-- A function has been created that has no slots yet, and nothing else has changed. -/
structure Introduces (start finish : Builder) (parameters : List TypedName) (function : Function) :
    Prop where
  tidy : finish.code.Tidy
  grows : start.code.Grows finish.code
  found : finish.code.function? function.name ≠ none
  arity : function.parameters.length = parameters.length
  slots : finish.code.slotKinds = start.code.slotKinds ++ [(function.name, [])]
  frames : finish.scopes.frames = start.scopes.frames

/-- Creating a function with the kinds of its parameters adds that function and nothing else. -/
theorem createTypedFunction_introduces {start : Builder} (tidy : start.code.Tidy) (name : Name)
    (parameters : List TypedName) (result : ExactKind) {failed : Failure → Builder → Prop} :
    (createTypedFunction name parameters result).Ends start
      (fun function finish => Introduces start finish parameters function) failed := by
  unfold createTypedFunction
  rw [bind_ends, createFunction_ends, bind_ends, note_ends]
  generalize listed : (parameters.map fun parameter => (parameter.name, parameter.kind)) = wanted
  refine ⟨tidy.addFunction name wanted result, tidy.addFunction_grows name wanted result, ?_, ?_,
    start.code.slotKinds_addFunction name wanted result, rfl⟩
  · show (start.code.addFunction name wanted result).2.function?
      (start.code.names.registerName name).1 ≠ none
    simp [tidy.function?_addFunction]
  -- There is a register for every parameter.
  · have kinds := congrArg List.length
      (Function.declared_kinds (start.code.names.registerName name).1 wanted result)
    simp only [List.length_map] at kinds
    exact kinds.trans (by simp [← listed])

/-- A function reserves slots for its parameters and for its body in itself, and none in the
function around it. -/
theorem functionAs {parameters : List TypedName} {result : ExactKind} {signature : Binding}
    {body : Lowering Unit} (place : Location) (name : String) (nested : Nested body)
    (announced : signature = .fn (.text "") (.exact result)
      (parameters.map fun parameter => parameter.kind.exact))
    (inside : ∀ created, ∃ behind,
      Lays created ((around.declare name signature).opened.declareAll
        (parameters.map fun parameter => (parameter.name, parameter.kind))) plan behind body) :
    Lays owner around (.function (parameters.map TypedName.kind) plan)
      (around.declare name signature) (Lowering.functionAs place name parameters result body) := by
  subst announced
  refine .after .currentFrame fun frame => ?_
  dsimp only
  -- A name that is taken, or kinds that no function has, end it here.
  split
  · exact fun _ _ => trivial
  intro start stands
  refine .bind (createTypedFunction_introduces stands.tidy (.text name) parameters result)
    fun function created introduced => ?_
  refine bind_ends.mpr ?_
  show (Lowering.setScopes place (created.scopes.declare name _)).Ends created _ _
  -- The name is declared behind the creation of the function, and in front of its body.
  cases declared : created.scopes.declare name
    (.fn function.name (.exact result) (parameters.map fun parameter => parameter.kind.exact)) with
  | error failure => cases failure <;> trivial
  | ok scopes =>
    have continues := introduced.frames ▸ Scopes.declare_continues declared
    have before_body :=
      stands.onward { created with scopes } introduced.tidy introduced.grows continues
    -- Creating a function changes no names.
    have outline : created.scopes.outline = around := by
      rw [← stands.outline, Scopes.outline, Scopes.outline, Scopes.tables, introduced.frames,
        Scopes.tables]
    rw [Scopes.outline_declare declared, outline, Binding.outline] at before_body
    have gains := functionBody_gains nested function parameters { created with scopes }
    obtain ⟨behind, contents⟩ := inside function.name
    rw [← before_body.outline] at contents
    -- In the body the parameters stand in front, in a frame of the new function.
    have filled := functionBody
      { created with scopes } introduced.tidy introduced.found introduced.arity contents
    show (lowerFunctionBody function parameters body).Ends { created with scopes } _ _
    unfold Ends at filled gains ⊢
    split
    -- What the body has reserved belongs to the new function, and nothing to the one around it.
    · rename_i answer finish outcome
      rw [outcome] at filled gains
      exact ⟨before_body.stays filled.1 filled.2.grows gains.1,
        .function introduced.slots introduced.tidy introduced.grows filled.2 owner⟩
    · trivial

/-- Parameters and result are checked in front of everything else. -/
theorem function {arguments result : Tree} {body : Lowering Unit} (place : Location) (name : Tree)
    (nested : Nested body)
    (inside : ∀ created, ∃ behind,
      Lays created ((around.declare name.shown (arguments.signature result)).opened.declareAll
        arguments.parameters) plan behind body) :
    Lays owner around (.function (arguments.parameters.map Prod.snd) plan)
      (around.declare name.shown (arguments.signature result))
        (lowerFunction place name arguments result body) := by
  rw [lowerFunction_eq, ← SlotPlan.none_append (SlotPlan.function _ _)]
  refine .bind_known (.idle (.typedNames arguments)) fun checked settled => ?_
  have listed := parameters settled
  rw [← SlotPlan.none_append (SlotPlan.function _ _)]
  refine .bind_known (.idle (.statedResult name.shown result place))
    fun exact ⟨_, _, _, yields⟩ => ?_
  -- The result that is answered stands in the tree.
  obtain rfl := Looks.known (.statedResult name.shown result place) yields
  have announced : arguments.signature (.kindValue (.exact exact)) =
      .fn (.text "") (.exact exact) (checked.map fun parameter => parameter.kind.exact) := by
    simp [Tree.signature, Tree.kind?, listed, Function.comp_def]
  have kinds : arguments.parameters.map Prod.snd = checked.map TypedName.kind := by
    simp [listed, Function.comp_def]
  rw [kinds]
  exact .named name (functionAs place name.shown nested announced (listed ▸ inside))

end Lays

end Lowering

namespace Tree

open Lowering

/-- Where the second arm of a branch is missing, nothing is planned for it. -/
theorem planArm_of_missing {arm : Tree} {lowered : Lowering Unit}
    (missing : secondArm? arm lowered = none) (around : Outline) :
    arm.planArm around = .none := by
  unfold secondArm? at missing
  split at missing
  · rfl
  · cases missing

/-- Lowering any tree, as a statement or as a part of one, reserves the slots that are planned for
it. -/
theorem lower_lays_all :
    (∀ (tree : Tree) owner around, Lays owner around (tree.plan around) (tree.outlineBehind around)
      (lowerStatement tree)) ∧
    (∀ (tree : Tree) owner around, Lays owner around (tree.planArm around) around (lowerArm tree)) ∧
    (∀ (tree : Tree) owner around, ∃ behind,
      Lays owner around (tree.planBody around) behind (lowerBody tree)) ∧
    ∀ items owner around, ∃ behind,
      Lays owner around (planAll around items) behind (lowerStatements items) := by
  obtain ⟨-, arms, bodies, -⟩ := lower_nested_all
  refine lowerStatement.mutual_induct
    (fun tree => ∀ owner around, Lays owner around (tree.plan around) (tree.outlineBehind around)
      (lowerStatement tree))
    (fun tree => ∀ owner around, Lays owner around (tree.planArm around) around (lowerArm tree))
    (fun tree => ∀ owner around, ∃ behind,
      Lays owner around (tree.planBody around) behind (lowerBody tree))
    (fun items => ∀ owner around, ∃ behind,
      Lays owner around (planAll around items) behind (lowerStatements items))
    ?functionDeclaration ?noFunctionBody ?noFunctionName ?variableDeclaration ?noVariableName
    ?blockStatement
    ?returnStatement ?ifStatement ?loopStatement ?noLoopBody ?breakStatement ?continueStatement
    ?expressionStatement ?other ?armIf ?armBlock ?noArm ?list ?emptyText ?text ?noList ?nil ?cons
  case functionDeclaration =>
    intro place arguments result _ name _ _ content inside owner around
    exact .function place name (bodies content).narrow fun created => inside created _
  -- Nodes of a wrong shape are refused, so nothing has to be planned for them.
  case noFunctionBody =>
    intro place arguments body result _ name _ noBlock owner around
    rw [lowerStatement] <;> first | assumption | exact .refuse _ _
  case noFunctionName =>
    intro place named arguments body result noName _ owner around
    rw [lowerStatement] <;> first | assumption | exact .refuse _ _
  case variableDeclaration =>
    exact fun place value idPlace name stated owner around =>
      .declaration place _ name idPlace stated value rfl
  case noVariableName =>
    intro place named value noName owner around
    rw [lowerStatement] <;> first | assumption | exact .refuse _ _
  -- What is declared in a block is forgotten behind it.
  case blockStatement =>
    intro place content inside owner around
    obtain ⟨behind, lays⟩ := inside owner around.opened
    exact .inBlock (bodies content).narrow lays
  case returnStatement => exact fun place value owner around => .idle (.ending place value)
  -- A missing arm plans nothing.
  case ifStatement =>
    intro place condition consequent alternate first second owner around
    exact .choice condition (first owner around) (secondArm_forall (second owner around))
      fun absent => planArm_of_missing absent around
  case loopStatement =>
    intro place condition label _ content inside owner around
    obtain ⟨behind, lays⟩ := inside owner around.opened
    exact .loop (bodies content).narrow lays
  case noLoopBody =>
    intro place condition body label noBlock owner around
    rw [lowerStatement] <;> first | assumption | exact .refuse _ _
  case breakStatement => exact fun place label owner around => .idle (.jump .break place _)
  case continueStatement => exact fun place label owner around => .idle (.jump .continue place _)
  case expressionStatement =>
    exact fun place expression owner around => .after (.expression expression) fun _ =>
      .idle (.pure ())
  case other =>
    intro tree _ _ _ _ _ _ _ _ _ owner around
    rw [lowerStatement] <;> first | assumption | exact .refuse _ _
  -- A choice as an arm stands in a frame of its own.
  case armIf =>
    intro place condition consequent alternate first second owner around
    have inside := Lays.choice condition (first owner around.opened)
      (secondArm_forall (second owner around.opened)) fun absent =>
        planArm_of_missing absent around.opened
    exact .inBlock (.choice (arms consequent) (secondArm_nested (arms alternate))) inside
  case armBlock =>
    intro place content inside owner around
    obtain ⟨behind, lays⟩ := inside owner around.opened
    exact .inBlock (bodies content).narrow lays
  case noArm =>
    intro tree _ _ owner around
    rw [lowerArm] <;> first | assumption | exact .refuse _ _
  case list => exact fun items inside => inside
  case emptyText =>
    intro value empty owner around
    exact ⟨around, by simpa only [lowerBody, empty, if_true] using .idle (.pure ())⟩
  case text =>
    intro value filled owner around
    exact ⟨around, by simpa only [lowerBody, filled,
      if_false] using .after .ensureOpen fun _ => .refuse _ _⟩
  case noList =>
    intro tree _ _ owner around
    refine ⟨around, ?_⟩
    rw [lowerBody] <;> first | assumption | exact .stop _
  case nil => exact fun owner around => ⟨around, .idle (.pure ())⟩
  -- The rest of a list sees the names that its first statement has left behind.
  case cons =>
    intro statement rest first others owner around
    obtain ⟨behind, lays⟩ := others owner (statement.outlineBehind around)
    exact ⟨behind, .after .ensureOpen fun _ => .bind (first owner around) fun _ => lays⟩

end Tree

end LoopLang
