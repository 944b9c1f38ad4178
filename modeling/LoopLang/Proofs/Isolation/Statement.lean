import LoopLang.Proofs.Isolation.Expression

/-! Lowering statements and functions in two sessions at once. -/

namespace LoopLang

open Code (Name Operand Instruction Function)

namespace Lowering

variable {old : List Function} {owner : Name} {naming larger : Renaming}

/-- A computation that ends alike in both sessions, wherever it runs. -/
def Isolated (old : List Function) (action : Lowering Unit) : Prop :=
  ∀ owner naming, Coincide old owner naming action action fun _ _ _ => True

namespace Coincide

/-- A refusal in front of what ends alike. -/
theorem refuse_first {α β : Type} {first : Lowering α} {second : Lowering β}
    {related : Renaming → α → β → Prop} {condition : Prop} [Decidable condition] {cause : Cause}
    {place : Location} (rest : Coincide old owner naming first second related) :
    Coincide old owner naming
      (if condition then Lowering.refuse cause place >>= fun _ : PUnit => first else first)
      (if condition then Lowering.refuse cause place >>= fun _ : PUnit => second else second)
        related := by
  split
  · exact .refuse_bind rfl
  · exact rest

/-- Emission goes on in a new block, if the current ones have their terminators. -/
theorem ensureOpen :
    Coincide old owner naming Lowering.ensureOpen Lowering.ensureOpen fun _ _ _ => True := by
  refine .bind .isTerminated fun larger grows ended other same => ?_
  cases same
  split
  · exact .bind (.createBlock _ _) fun _ _ _ _ blocks => .moveTo blocks
  · exact .pure fun _ _ => trivial

/-- Jumps at the ends of blocks coincide. -/
theorem jumpUnlessTerminated {block other : BlockRef} (blocks : naming.Refs owner block other) :
    Coincide old owner naming (Lowering.jumpUnlessTerminated block)
      (Lowering.jumpUnlessTerminated other) fun _ _ _ => True := by
  refine .bind .isTerminated fun larger grows ended another same => ?_
  -- Corresponding blocks have ended or not in the same way.
  cases same
  split
  · exact .pure fun _ _ => trivial
  · exact .terminate (.jump (grows.locals _ _ _ blocks.labels))

/-- Contents of a block run in a frame of the same function. -/
theorem inBlock {body : Lowering Unit} (nested : Nested body) (isolated : Isolated old body) :
    Coincide old owner naming (Lowering.inBlock body) (Lowering.inBlock body)
      fun _ _ _ => True := by
  refine .scopes fun larger grows fresh later abreast => ?_
  -- Both frames are opened on blocks, and these stand for each other.
  obtain ⟨block, other, here, there, blocks⟩ := abreast.cursors
  rw [here, there]
  refine .withFrame (fun further more frame standing same => ?_) (.inr ⟨rfl, rfl⟩) nested nested
    (isolated owner larger)
  exact ⟨⟨block, other, rfl, rfl, blocks.mono more⟩, .nil, same.function, same.functions, rfl, rfl,
    rfl, rfl, .none, .none⟩

/-- The name that a declaration gives is the same in both, and so is what is no name. -/
theorem declaredName (name : Tree) :
    Coincide old owner naming (Lowering.declaredName name) (Lowering.declaredName name)
      fun _ given other => given = other := by
  cases name with
  | list items => exact .bind .currentFrame fun _ _ _ _ _ => .stop _
  | _ => exact .pure fun _ _ => rfl

/-- So is the kind that is carried. -/
theorem carriedKind (kind : Tree) :
    Coincide old owner naming (Lowering.carriedKind kind) (Lowering.carriedKind kind)
      fun _ given other => given = other := by
  unfold Lowering.carriedKind
  split
  · exact .pure fun _ _ => rfl
  · exact .stop _

/-- Variables are declared alike, with slots that stand for each other. -/
theorem declareVariable (name base : String) (kind : ValueKind) {value other : Operand}
    (values : naming.Operands owner value other) (place : Location) :
    Coincide old owner naming (Lowering.declareVariable name base kind value place)
      (Lowering.declareVariable name base kind other place) fun _ _ _ => True := by
  refine .bind .currentFrame fun larger grows frame standing same => ?_
  rw [same.has name]
  refine .refuse_first ?_
  -- The slots are new in both, so they may stand for each other.
  refine .bind (.createSlot base kind) fun further more slot another ⟨belongs, slots⟩ => ?_
  refine .bind (.storeVariable name kind belongs slots (values.mono (grows.trans more)) place)
    fun last grown _ _ _ => ?_
  exact .declare name (.var kind.exact (.some (slots.mono grown))) place

/-- One kind is inferred in both builders. -/
theorem inferKind (name : String) (value : Tree) :
    Coincide old owner naming (Lowering.inferKind name value) (Lowering.inferKind name value)
      fun _ kind other => kind = other := by
  refine .scopes fun larger grows fresh later abreast => ?_
  -- Kinds are inferred from what names are bound to, which is the same.
  have same : value.infer later.scopes = value.infer fresh.scopes :=
    Tree.infer_congr abreast.depth
      (fun name => Renaming.Bindings.outline (abreast.lookup name)) value
  rw [same]
  split
  · exact .bind (.note _ _) fun _ _ _ _ _ => .pure fun _ _ => rfl
  · exact .stop _

/-- A variable of a settled kind is declared alike. -/
theorem declareAs (place : Location) (name value : Tree) (kind : Kind) :
    Coincide old owner naming (Lowering.declareAs place name value kind)
      (Lowering.declareAs place name value kind) fun _ _ _ => True := by
  unfold Lowering.declareAs
  split
  · refine .bind ((Tree.lowerExpression_coincides_all old).1 value owner naming) fun _ _ _ _ _ => ?_
    refine .bind (.declaredName name) fun _ _ given other same => ?_
    -- The name is the one of the text, in both runs.
    obtain rfl : given = other := same
    exact .declare given (.var .void .none) place
  · refine .bind (Tree.lowerValue_coincides value) fun _ _ initial other values => ?_
    split
    · refine .bind (.declaredName name) fun _ more given another same => ?_
      obtain rfl : given = another := same
      exact .declareVariable given given _ (values.mono more) place
    · exact .refuse _ rfl

/-- Declarations coincide, whether their kinds are stated or inferred. -/
theorem lowerDeclaration (place : Location) (name stated value : Tree) :
    Coincide old owner naming (Lowering.lowerDeclaration place name stated value)
      (Lowering.lowerDeclaration place name stated value) fun _ _ _ => True := by
  simp only [lowerDeclaration_eq]
  refine .bind (.carriedKind stated) fun larger _ stated other same => ?_
  obtain rfl : stated = other := same
  -- Both runs infer the same kind, as kinds do not depend on names.
  have settles : Coincide old owner larger
      (if stated.isExact then Pure.pure stated else Lowering.inferKind name.shown value)
      (if stated.isExact then Pure.pure stated else Lowering.inferKind name.shown value)
      fun _ kind other => kind = other := by
    split
    · exact .pure fun _ _ => rfl
    · exact .inferKind name.shown value
  refine .bind settles fun _ _ kind other same => ?_
  obtain rfl : kind = other := same
  exact .declareAs place name value kind

/-- What a function promises is the same in both, though it may go by another name. -/
theorem lowerReturn (place : Location) (value : Tree) :
    Coincide old owner naming (Lowering.lowerReturn place value) (Lowering.lowerReturn place value)
      fun _ _ _ => True := by
  refine .bind .enclosingFunction fun larger grows (function, expected) (other, result) same => ?_
  obtain rfl : expected = result := same
  dsimp only
  split
  · exact .terminate .returnVoid
  · exact .refuse _ rfl
  · refine .bind ((Tree.lowerExpression_coincides_all old).1 _ owner larger)
      fun further more answer another held => ?_
    -- A value is there in both runs or in none.
    cases held with
    | some found => exact .refuse _ rfl
    | none => exact .terminate .returnVoid
  · refine .bind (Tree.lowerValue_coincides _) fun further more answer another held => ?_
    rw [held.kind]
    split
    · exact .terminate (.returnValue held)
    · exact .refuse _ rfl

/-- Conditions have values that stand for each other. -/
theorem lowerCondition (condition : Tree) :
    Coincide old owner naming (Lowering.lowerCondition condition)
      (Lowering.lowerCondition condition) fun larger => larger.Operands owner := by
  refine .bind (Tree.lowerValue_coincides condition) fun larger grows value other values => ?_
  -- A number is compared with zero in both runs, a truth value is taken as it is.
  rw [values.kind]
  split
  · exact .pure fun _ grown => values.mono grown
  · refine .bind (.emit _ _ fun further more register another named =>
      .differ named (values.mono more) (.number _)) fun further more register another named => ?_
    exact .pure fun _ grown => .register .bool (grown.locals _ _ _ named)

/-- The arms of a branch run one after the other, each from a block of its own. -/
theorem lowerChoice (condition : Tree) {consequent : Lowering Unit}
    {alternate : Option (Lowering Unit)} (first : Isolated old consequent)
    (second : ∀ arm ∈ alternate, Isolated old arm) :
    Coincide old owner naming (Lowering.lowerChoice condition consequent alternate)
      (Lowering.lowerChoice condition consequent alternate) fun _ _ _ => True := by
  refine .bind .nextSuffix fun begun _ suffix ending _ => ?_
  refine .bind (.lowerCondition condition) fun valued _ value result values => ?_
  refine .bind (.createBlock _ _) fun opened grows thenBlock other thenBlocks => ?_
  cases alternate with
  | some alternate =>
    refine .bind (.createBlock _ _) fun elsed more elseBlock another elseBlocks => ?_
    refine .bind (.createBlock _ _) fun merged grown mergeBlock standing mergeBlocks => ?_
    -- All blocks were made before the branch; pairs of names only come in addition.
    have before := grows.trans (more.trans grown)
    refine .bind (.terminate
      (.branch (values.mono before) ((thenBlocks.mono (more.trans grown)).labels)
      ((elseBlocks.mono grown).labels))) fun left step₁ _ _ _ => ?_
    refine .bind (.moveTo (thenBlocks.mono ((more.trans grown).trans step₁)))
      fun inside step₂ _ _ _ => ?_
    refine .bind (first owner inside) fun behind step₃ _ _ _ => ?_
    -- The first arm has been lowered when the second one begins.
    have between := step₁.trans (step₂.trans step₃)
    refine .bind (.jumpUnlessTerminated (mergeBlocks.mono between)) fun joined step₄ _ _ _ => ?_
    refine .bind (.moveTo (elseBlocks.mono (grown.trans (between.trans step₄))))
      fun within step₅ _ _ _ => ?_
    refine .bind (second alternate rfl owner within) fun ended step₆ _ _ _ => ?_
    have after := between.trans (step₄.trans (step₅.trans step₆))
    exact .bind (.jumpUnlessTerminated (mergeBlocks.mono after)) fun _ step₇ _ _ _ =>
      .moveTo (mergeBlocks.mono (after.trans step₇))
  | none =>
    refine .bind (.createBlock _ _) fun merged more mergeBlock standing mergeBlocks => ?_
    refine .bind (.terminate
      (.branch (values.mono (grows.trans more)) ((thenBlocks.mono more).labels)
      mergeBlocks.labels)) fun left step₁ _ _ _ => ?_
    refine .bind (.moveTo (thenBlocks.mono (more.trans step₁))) fun inside step₂ _ _ _ => ?_
    refine .bind (first owner inside) fun behind step₃ _ _ _ => ?_
    have between := step₁.trans (step₂.trans step₃)
    exact .bind (.jumpUnlessTerminated (mergeBlocks.mono between)) fun _ step₄ _ _ _ =>
      .moveTo (mergeBlocks.mono (between.trans step₄))

/-- The frame of a loop names blocks that stand for each other. -/
theorem lowerLoop (condition : Tree) (label : Option String) {body : Lowering Unit}
    (nested : Nested body) (isolated : Isolated old body) :
    Coincide old owner naming (Lowering.lowerLoop condition label body)
      (Lowering.lowerLoop condition label body) fun _ _ _ => True := by
  refine .bind .nextSuffix fun begun _ suffix ending _ => ?_
  refine .bind (.createBlock _ _) fun opened _ conditionBlock deciding conditionBlocks => ?_
  refine .bind (.createBlock _ _) fun bodied step₁ bodyBlock inner bodyBlocks => ?_
  refine .bind (.createBlock _ _) fun ended step₂ endBlock last endBlocks => ?_
  refine .bind (.terminate (.jump (conditionBlocks.mono (step₁.trans step₂)).labels))
    fun left step₃ _ _ _ => ?_
  refine .bind (.moveTo (conditionBlocks.mono (step₁.trans (step₂.trans step₃))))
    fun decided step₄ _ _ _ => ?_
  refine .bind (.lowerCondition condition) fun valued step₅ value result values => ?_
  -- The blocks of the loop are paired before the condition is lowered.
  have before := step₃.trans (step₄.trans step₅)
  refine .bind (.terminate
    (.branch values (bodyBlocks.mono (step₂.trans before)).labels (endBlocks.mono before).labels))
    fun inside step₆ _ _ _ => ?_
  have entered := before.trans step₆
  -- Behind the body the head of the loop is still the same pair.
  have conditions := conditionBlocks.mono (step₁.trans (step₂.trans entered))
  refine .bind (.withFrame (fun further more frame standing same => ?_) (.inr ⟨rfl, rfl⟩)
    (.bind nested fun _ => .jumpUnlessTerminated _) (.bind nested fun _ => .jumpUnlessTerminated _)
    (.bind (isolated owner inside) fun behind grown _ _ _ =>
      .jumpUnlessTerminated (conditions.mono grown)))
    fun behind step₇ _ _ _ => ?_
  -- The frame of a round has no names, the label of the loop and the blocks where jumps go.
  · exact ⟨⟨bodyBlock, inner, rfl, rfl, bodyBlocks.mono (step₂.trans (entered.trans more))⟩, .nil,
      same.function, same.functions, rfl, rfl, rfl, rfl,
      .some (conditions.mono more), .some (endBlocks.mono (entered.trans more))⟩
  · exact .moveTo (endBlocks.mono (entered.trans step₇))

/-- Jumps go to blocks that stand for each other. -/
theorem lowerJump (jump : Jump) (place : Location) (label : Option String) :
    Coincide old owner naming (Lowering.lowerJump jump place label)
      (Lowering.lowerJump jump place label) fun _ _ _ => True := by
  refine .bind .currentFrame fun _ _ _ _ _ => .scopes fun larger grows fresh later abreast => ?_
  -- The loops around are alike, so the same one is meant.
  have found := abreast.frames.loopFrame label
  unfold Scopes.loopFrame?
  generalize Scopes.loopFrameIn label fresh.scopes.frames = first,
    Scopes.loopFrameIn label later.scopes.frames = second at found ⊢
  cases found with
  | none => exact .refuse _ rfl
  | @some frame other same =>
    have targets := same.jumpTarget jump
    dsimp only
    generalize jumpTarget? jump frame = left, jumpTarget? jump other = right at targets ⊢
    cases targets with
    | none => exact .stop _
    | some blocks => exact .terminate (.jump blocks.labels)

/-- Checking parameters builds nothing. -/
theorem typedName (parameter : Tree) :
    Coincide old owner naming (Lowering.typedName parameter) (Lowering.typedName parameter)
      fun _ first second => first = second := by
  unfold Lowering.typedName
  split
  · refine .bind (.carriedKind _) fun _ _ kind other same => ?_
    obtain rfl : kind = other := same
    -- A name and a kind, or the refusal of what is neither.
    split
    · refine .bind (.declaredName _) fun _ _ name other same => ?_
      obtain rfl : name = other := same
      exact .pure fun _ _ => rfl
    · exact .refuse _ rfl
  · exact .refuse _ rfl

/-- The parameters are read alike, as the same names have been declared. -/
theorem typedNames (parameters : Tree) :
    Coincide old owner naming (Lowering.typedNames parameters) (Lowering.typedNames parameters)
      fun _ first second => first = second := by
  unfold Lowering.typedNames
  split
  · rename_i parameters
    -- One parameter after the other, and both runs read the same tree.
    induction parameters generalizing naming with
    | nil => exact .pure fun _ _ => rfl
    | cons parameter rest same =>
      rw [List.mapM_cons]
      refine .bind (.typedName parameter) fun larger _ first second held => ?_
      cases held
      refine .bind same fun further _ others names held => ?_
      cases held
      exact .pure fun _ _ => rfl
  · split
    · exact .pure fun _ _ => rfl
    · exact .refuse _ rfl
  · exact .stop _

/-- Parameters are stored from registers that stand for each other. -/
theorem storeParameters {registers others : List (String × ValueKind)}
    (parameters : List TypedName)
    (alike : List.Forall₂ (fun first second => naming.locals owner first.1 second.1 ∧
      first.2 = second.2) registers others) :
    Coincide old owner naming (Lowering.storeParameters registers parameters)
      (Lowering.storeParameters others parameters) fun _ _ _ => True := by
  induction parameters generalizing registers others naming with
  | nil => cases alike <;> exact .pure fun _ _ => trivial
  | cons parameter rest same =>
    -- There are as many registers in both runs.
    cases alike with
    | nil => exact .pure fun _ _ => trivial
    | @cons first second _ _ head tail =>
      obtain ⟨register, _⟩ := first
      obtain ⟨another, _⟩ := second
      refine .bind (.declareVariable _ _ parameter.kind (.register parameter.kind head.1) _)
        fun larger grows _ _ _ => ?_
      exact same (tail.imp fun _ _ held => ⟨grows.locals _ _ _ held.1, held.2⟩)

/-- Functions are closed alike. -/
theorem closeFunction (result : ExactKind) :
    Coincide old owner naming (Lowering.closeFunction result) (Lowering.closeFunction result)
      fun _ _ _ => True := by
  refine .bind .isTerminated fun larger grows ended other same => ?_
  cases same
  split
  · exact .pure fun _ _ => trivial
  -- The default value of the result is returned, which has no names in it.
  · cases result with
    | void => exact .terminate .returnVoid
    | num => exact .terminate (.returnValue (.number _))
    | bool => exact .terminate (.returnValue (.boolean _))

/-- Functions with typed parameters are created alike. -/
theorem createTypedFunction (name : Name) (parameters : List TypedName) (result : ExactKind) :
    Coincide old owner naming (Lowering.createTypedFunction name parameters result)
      (Lowering.createTypedFunction name parameters result) fun larger => larger.Functions := by
  refine .bind (.createFunction name _ result) fun larger grows function other same => ?_
  exact .bind (.note _ _) fun further more _ _ _ => .pure fun _ grown =>
    same.mono (more.trans grown)

/-- What stands within the frame of a function ends alike in functions that stand for each other. -/
theorem functionContents {function other : Function} (same : naming.Functions function other)
    (parameters : List TypedName) {body : Lowering Unit} (isolated : Isolated old body) :
    Coincide old function.name naming
      (do
        Lowering.storeParameters function.parameters parameters
        body
        Lowering.closeFunction function.result)
      (do
        Lowering.storeParameters other.parameters parameters
        body
        Lowering.closeFunction other.result)
      fun _ _ _ => True := by
  -- Both functions end in the same way, as their results are of one kind.
  rw [← same.result]
  exact .bind (.storeParameters parameters same.parameters) fun larger _ _ _ _ =>
    .bind (isolated function.name larger) fun _ _ _ _ _ => .closeFunction _

/-- The bodies of functions that stand for each other coincide. -/
theorem lowerFunctionBody {function other : Function} (same : naming.Functions function other)
    (parameters : List TypedName) {body : Lowering Unit} (nested : Nested body)
    (isolated : Isolated old body) :
    Coincide old owner naming (Lowering.lowerFunctionBody function parameters body)
      (Lowering.lowerFunctionBody other parameters body) fun _ _ _ => True := by
  refine .bind (.addBlock same.names "entry" "entry") fun larger grows entry begun entries => ?_
  have contents := functionContents (same.mono grows) parameters isolated
  refine .withFrame (fun further more frame standing _ => ?_) (.inl rfl)
    (.functionContents function parameters nested)
    (.functionContents other parameters nested) contents
  -- The frame of the function names it and the kind of its result.
  refine ⟨⟨entry, begun, rfl, rfl, entries.mono more⟩, .nil, rfl,
    ⟨other.name, rfl, more.functions _ _ (grows.functions _ _ same.names)⟩, rfl, ?_,
    rfl, rfl, .none, .none⟩
  show some (Kind.exact other.result) = some (Kind.exact function.result)
  rw [same.result]

/-- The kind of a result is read off the tree alone. -/
theorem statedResult (name : String) (result : Tree) (place : Location) :
    Coincide old owner naming (Lowering.statedResult name result place)
      (Lowering.statedResult name result place) fun _ first second => first = second := by
  refine .bind (.carriedKind result) fun _ _ kind other same => ?_
  obtain rfl : kind = other := same
  -- The kind is read from the tree, which is one for both runs.
  cases kind with
  | exact => exact .pure fun _ _ => rfl
  | infer | none => exact .refuse _ rfl

/-- Declarations of functions coincide. -/
theorem lowerFunction (place : Location) (name arguments result : Tree) {body : Lowering Unit}
    (nested : Nested body) (isolated : Isolated old body) :
    Coincide old owner naming (Lowering.lowerFunction place name arguments result body)
      (Lowering.lowerFunction place name arguments result body) fun _ _ _ => True := by
  refine .bind (.typedNames arguments) fun typed _ parameters _ same => ?_
  cases same
  refine .bind (.statedResult name.shown result place) fun stated _ result _ same => ?_
  cases same
  refine .bind (.declaredName name) fun named _ name other same => ?_
  obtain rfl : name = other := same
  refine .bind .currentFrame fun framed _ frame standing frames => ?_
  rw [frames.has name]
  -- The name is taken in both frames or in none.
  refine .refuse_first ?_
  refine .bind (.createTypedFunction (.text name) parameters result)
    fun created grows function other functions => ?_
  refine .bind (.declare name (.fn _ _ functions.names) place) fun declared more _ _ _ => ?_
  exact .lowerFunctionBody (functions.mono more) parameters nested isolated

end Coincide

end Lowering

namespace Tree

open Lowering

/-- Lowering any tree, as a statement or as a part of one, ends alike in both sessions. -/
theorem lower_isolated_all (old : List Function) :
    (∀ tree, Isolated old (lowerStatement tree)) ∧ (∀ tree, Isolated old (lowerArm tree)) ∧
      (∀ tree, Isolated old (lowerBody tree)) ∧ ∀ items, Isolated old (lowerStatements items) := by
  obtain ⟨-, arm_nested, body_nested, -⟩ := lower_nested_all
  -- By the recursion of lowering: the same tree takes the same way in both sessions.
  refine lowerStatement.mutual_induct (fun tree => Isolated old (lowerStatement tree))
    (fun tree => Isolated old (lowerArm tree)) (fun tree => Isolated old (lowerBody tree))
    (fun items => Isolated old (lowerStatements items))
    ?functionDeclaration ?noFunctionBody ?noFunctionName ?variableDeclaration ?noVariableName
    ?blockStatement
    ?returnStatement ?ifStatement ?loopStatement ?noLoopBody ?breakStatement ?continueStatement
    ?expressionStatement ?other ?armIf ?armBlock ?noArm ?list ?emptyText ?text ?noList ?nil ?cons
  -- A function is added under a name that each session has free, and the renaming learns it.
  case functionDeclaration =>
    exact fun place arguments result _ name _ _ content isolated _ _ =>
      .lowerFunction place name arguments result (body_nested content).narrow isolated
  -- A node of a wrong shape is refused with the same words in both.
  case noFunctionBody =>
    intro place arguments body result _ name _ noBlock _ _
    rw [lowerStatement] <;> first | assumption | exact .refuse _ rfl
  case noFunctionName =>
    intro place named arguments body result noName _ _ _
    rw [lowerStatement] <;> first | assumption | exact .refuse _ rfl
  case variableDeclaration =>
    exact fun place value _ name stated _ _ => .lowerDeclaration place name stated value
  case noVariableName =>
    intro place named value noName _ _
    rw [lowerStatement] <;> first | assumption | exact .refuse _ rfl
  case blockStatement =>
    exact fun place content isolated _ _ =>
      .inBlock (body_nested content).narrow isolated
  case returnStatement => exact fun place value _ _ => .lowerReturn place value
  case ifStatement =>
    exact fun place condition consequent alternate first second _ _ =>
      .lowerChoice condition first (secondArm_forall second)
  case loopStatement =>
    exact fun place condition label _ content isolated _ _ =>
      .lowerLoop condition _ (body_nested content).narrow isolated
  case noLoopBody =>
    intro place condition body label noBlock _ _
    rw [lowerStatement] <;> first | assumption | exact .refuse _ rfl
  case breakStatement => exact fun place label _ _ => .lowerJump .break place (labelName? label)
  case continueStatement =>
    exact fun place label _ _ =>
      .lowerJump .continue place (labelName? label)
  case expressionStatement =>
    exact fun place expression owner naming =>
      .bind ((lowerExpression_coincides_all old).1 expression owner naming) fun _ _ _ _ _ => .pure
        fun _ _ => trivial
  case other =>
    intro tree _ _ _ _ _ _ _ _ _ _ _
    rw [lowerStatement] <;> first | assumption | exact .refuse _ rfl
  -- A choice as an arm is one in a frame of its own.
  case armIf =>
    intro place condition consequent alternate first second _ _
    exact .inBlock (.choice (arm_nested consequent) (secondArm_nested (arm_nested alternate)))
      fun _ _ => .lowerChoice condition first (secondArm_forall second)
  case armBlock =>
    exact fun place content isolated _ _ =>
      .inBlock (body_nested content).narrow isolated
  case noArm =>
    intro tree _ _ _ _
    rw [lowerArm] <;> first | assumption | exact .refuse _ rfl
  case list => exact fun items isolated => isolated
  -- A text is a list of its letters: without any there is nothing to do, and no letter is a node.
  case emptyText =>
    intro value empty _ _
    simpa only [lowerBody, empty, if_true] using .pure fun _ _ => trivial
  case text =>
    intro value filled _ _
    simpa only [lowerBody, filled, if_false] using .bind .ensureOpen fun _ _ _ _ _ => .refuse _ rfl
  case noList =>
    intro tree _ _ _ _
    rw [lowerBody] <;> first | assumption | exact .stop _
  case nil => exact fun _ _ => .pure fun _ _ => trivial
  -- Each statement is lowered behind the same outline, from where the one in front of it has left
  -- both sessions.
  case cons =>
    exact fun statement rest first others owner _ => .bind .ensureOpen fun larger _ _ _ _ =>
      .bind (first owner larger) fun further _ _ _ _ => others owner further

end Tree

end LoopLang
