import LoopLang.Lowering.Statement
import LoopLang.Proofs.Places.Expression

/-! Lowering statements and programs without places: the same code, and the same failures at no
place. -/

namespace LoopLang

namespace Lowering

/-- The name of a parameter without its place. -/
def TypedName.unplaced (parameter : TypedName) : TypedName := { parameter with place := .unknown }

namespace Agree

variable {α β : Type} {first second : Lowering α}

/-- Frames are closed alike behind bodies that agree. -/
theorem withFrame (block : Option BlockRef) (options : FrameOptions) (bodies : Agree first second) :
    Agree (Lowering.withFrame block options first) (Lowering.withFrame block options second) := by
  intro start
  cases block with
  | none => exact ⟨rfl, rfl⟩
  | some block =>
    obtain ⟨answers, builders⟩ :=
      bodies { start with scopes := start.scopes.push (some block) options }
    simp only [withFrame_outcome, closeFrame, builders]
    -- Closing a frame depends on the builder alone, and passes on how the body ended.
    split
    · refine ⟨?_, rfl⟩
      split
      · rfl
      · exact answers
    · exact ⟨rfl, rfl⟩

/-- Frames around computations that agree leave them so. -/
theorem inBlock (bodies : Agree first second) :
    Agree (Lowering.inBlock first) (Lowering.inBlock second) :=
  .after fun _ => .withFrame _ _ bodies

/-- A name is declared, or was declared before, wherever it stands. -/
theorem declare (name : String) (binding : Binding) (here there : Location) :
    Agree (Lowering.declare name binding here) (Lowering.declare name binding there) := by
  refine .after fun found => ?_
  cases found.declare name binding with
  | ok => exact .refl _
  | error problem =>
    -- Only a name that is taken is refused at a place.
    cases problem with
    | noFrame | emptyStack => exact .refl _
    | duplicate => exact .refuse _ _ _

/-- A variable is declared wherever it stands. -/
theorem declareVariable (name base : String) (kind : ValueKind) (value : Code.Operand)
    (here there : Location) :
    Agree (Lowering.declareVariable name base kind value here)
      (Lowering.declareVariable name base kind value there) := by
  -- What comes behind the check that the name is free, which the refusal is put in front of.
  have stores : Agree
      (do let slot ← createSlot base kind; Lowering.storeVariable name kind slot value here
          Lowering.declare name (.var kind.exact (some slot)) here)
      (do let slot ← createSlot base kind; Lowering.storeVariable name kind slot value there
          Lowering.declare name (.var kind.exact (some slot)) there) :=
    .after fun _ => .bind (.storeVariable _ _ _ _ _ _) fun _ => .declare _ _ _ _
  exact .after fun _ => .ite (.bind (.refuse _ _ _) fun _ => stores) stores

/-- A kind is inferred without looking at places. -/
theorem inferKind (name : String) (value : Tree) :
    Agree (Lowering.inferKind name value.unplaced) (Lowering.inferKind name value) := by
  refine .after fun found => ?_
  rw [value.infer_unplaced found]
  exact .refl _

/-- So declarations agree. -/
theorem lowerDeclaration (place : Location) (name stated value : Tree) :
    Agree (Lowering.lowerDeclaration .unknown name.unplaced stated.unplaced value.unplaced)
      (Lowering.lowerDeclaration place name stated value) := by
  simp only [lowerDeclaration_eq, carriedKind_unplaced, Tree.unplaced_shown]
  refine .after fun stated => .bind (.ite (.refl _) (.inferKind _ _)) fun kind => .ite ?void ?valued
  -- The value comes first, and the name is read behind it.
  case void =>
    refine .bind (Tree.lowerExpression_agrees_all.1 value) fun _ => ?_
    rw [declaredName_unplaced]
    exact .after fun _ => .declare _ _ _ _
  case valued =>
    refine .bind (Tree.lowerValue_agrees value) fun initial => ?_
    rw [declaredName_unplaced]
    split
    · exact .after fun _ => .declareVariable _ _ _ _ _ _
    · rw [Tree.unplaced_shown]
      exact .refuse _ _ _

/-- A result is missing where nothing stands, and nothing has no place to lose. -/
theorem lowerReturn (place : Location) (value : Tree) :
    Agree (Lowering.lowerReturn .unknown value.unplaced) (Lowering.lowerReturn place value) := by
  refine .after fun enclosing => ?_
  obtain ⟨function, expected⟩ := enclosing
  dsimp only
  generalize expected.value? = wanted
  cases wanted with
  | none =>
    cases value with
    | null => exact .refl _
    | _ =>
      -- Nothing is returned, so an expression that has a value is refused.
      refine .bind (Tree.lowerExpression_agrees_all.1 _) fun answer => ?_
      cases answer
      · exact .refl _
      · exact .refuse _ _ _
  | some kind =>
    cases value with
    | null => exact .refuse _ _ _
    | _ => exact .bind (Tree.lowerValue_agrees _) fun _ => .ite (.refl _) (.refuse _ _ _)

/-- Conditions agree. -/
theorem lowerCondition (condition : Tree) :
    Agree (Lowering.lowerCondition condition.unplaced) (Lowering.lowerCondition condition) :=
  .bind (Tree.lowerValue_agrees condition) fun _ => .refl _

/-- So do branches whose arms do. -/
theorem lowerChoice (condition : Tree) {consequent branch : Lowering Unit}
    {alternate other : Option (Lowering Unit)} (consequents : Agree consequent branch)
    (alternates : (alternate = none ∧ other = none) ∨ ∃ arm another,
      alternate = some arm ∧ other = some another ∧ Agree arm another) :
    Agree (Lowering.lowerChoice condition.unplaced consequent alternate)
      (Lowering.lowerChoice condition branch other) := by
  -- Blocks and jumps are made alike; only the condition and the arms hold places.
  refine .after fun suffix => .bind (.lowerCondition _) fun value => .after fun thenBlock => ?_
  obtain ⟨rfl, rfl⟩ | ⟨arm, another, rfl, rfl, arms⟩ := alternates
  · exact .after fun _ => .after fun _ => .after fun _ => .bind consequents fun _ => .refl _
  · exact .after fun _ => .after fun _ => .after fun _ => .after fun _ => .bind consequents fun _ =>
      .after fun _ => .after fun _ => .bind arms fun _ => .refl _

/-- So do loops whose bodies do. -/
theorem lowerLoop (condition : Tree) (label : Option String) {body other : Lowering Unit}
    (bodies : Agree body other) :
    Agree (Lowering.lowerLoop condition.unplaced label body)
      (Lowering.lowerLoop condition label other) := by
  refine .after fun _ => .after fun _ => .after fun _ => .after fun _ => .after fun _ =>
    .after fun _ => .bind (.lowerCondition _) fun _ => .after fun _ => ?_
  exact .bind (.withFrame _ _ (.bind bodies fun _ => .refl _)) fun _ => .refl _

/-- So do jumps. -/
theorem lowerJump (jump : Jump) (here there : Location) (label : Option String) :
    Agree (Lowering.lowerJump jump here label) (Lowering.lowerJump jump there label) := by
  refine .after fun _ => .after fun found => ?_
  split
  · exact .refuse _ _ _
  · exact .refl _

/-- A parameter is checked to the same name and kind. -/
theorem typedName (parameter : Tree) :
    Agree (Lowering.typedName parameter.unplaced)
      (TypedName.unplaced <$> Lowering.typedName parameter) := by
  cases parameter with
  | identifier place name kind =>
    simp only [Tree.unplaced, Lowering.typedName, carriedKind_unplaced, declaredName_unplaced,
      Tree.unplaced_shown, map_bind]
    refine .after fun kind => ?_
    -- A parameter is named and typed, or refused, in both trees.
    split
    · simp only [map_bind, map_pure]
      exact .refl _
    · exact fun _ => ⟨rfl, rfl⟩
  | _ => exact fun _ => ⟨rfl, rfl⟩

/-- Parameters are checked in order, each to the same name and kind. -/
theorem typedNamesOf (parameters : List Tree) :
    Agree ((Tree.unplacedAll parameters).mapM Lowering.typedName)
      (List.map TypedName.unplaced <$> parameters.mapM Lowering.typedName) := by
  induction parameters with
  | nil => exact .refl _
  | cons parameter rest same =>
    simp only [Tree.unplacedAll, List.mapM_cons, map_bind, map_pure, List.map_cons]
    exact .bind_map (.typedName parameter) fun _ => .bind_map same fun _ => .refl _

/-- Parameters are read alike, but for their places. -/
theorem typedNames (parameters : Tree) :
    Agree (Lowering.typedNames parameters.unplaced)
      (List.map TypedName.unplaced <$> Lowering.typedNames parameters) := by
  cases parameters with
  | list parameters => exact .typedNamesOf parameters
  -- An empty text counts as no parameters, as it has no letters.
  | text value =>
    simp only [Tree.unplaced, Lowering.typedNames]
    split
    · exact .refl _
    · exact fun _ => ⟨rfl, rfl⟩
  | _ => exact fun _ => ⟨rfl, rfl⟩

/-- They are stored alike. -/
theorem storeParameters (registers : List (String × ValueKind)) (parameters : List TypedName) :
    Agree (Lowering.storeParameters registers (parameters.map TypedName.unplaced))
      (Lowering.storeParameters registers parameters) := by
  induction parameters generalizing registers with
  | nil => cases registers <;> exact .refl _
  -- Names and registers end together, or the rest of either is ignored.
  | cons parameter rest same =>
    cases registers with
    | nil => exact .refl _
    | cons register registers => exact .bind (.declareVariable _ _ _ _ _ _) fun _ => same registers

/-- So the bodies of functions agree. -/
theorem lowerFunctionBody (function : Code.Function) (parameters : List TypedName)
    {body other : Lowering Unit} (bodies : Agree body other) :
    Agree (Lowering.lowerFunctionBody function (parameters.map TypedName.unplaced) body)
      (Lowering.lowerFunctionBody function parameters other) :=
  .after fun _ => .withFrame _ _
    (.bind (.storeParameters _ _) fun _ => .bind bodies fun _ => .refl _)

/-- The kind of a result is read alike. -/
theorem statedResult (name : String) (result : Tree) (here there : Location) :
    Agree (Lowering.statedResult name result.unplaced here)
      (Lowering.statedResult name result there) := by
  unfold Lowering.statedResult
  rw [carriedKind_unplaced]
  refine .after fun kind => ?_
  -- The kind is read from the tree, where it has no place.
  cases kind with
  | exact => exact .refl _
  | infer | none => exact .refuse _ _ _

/-- So functions agree. -/
theorem lowerFunction (place : Location) (name arguments result : Tree) {body other : Lowering Unit}
    (bodies : Agree body other) :
    Agree (Lowering.lowerFunction .unknown name.unplaced arguments.unplaced result.unplaced body)
      (Lowering.lowerFunction place name arguments result other) := by
  simp only [Lowering.lowerFunction, Tree.unplaced_shown, declaredName_unplaced]
  refine .bind_map (.typedNames arguments) fun parameters => .bind (.statedResult _ _ _ _)
    fun result =>
      .after fun name => .after fun frame => ?_
  -- Names and kinds of the parameters are all that the function takes from them.
  have kinds : (parameters.map TypedName.unplaced).map (·.kind.exact) = parameters.map
      (·.kind.exact) := by
    simp only [List.map_map]; rfl
  have wanted : createTypedFunction (.text name) (parameters.map TypedName.unplaced) result =
      createTypedFunction (.text name) parameters result := by
    simp only [createTypedFunction, List.map_map]; rfl
  have creates : Agree
      (do let function ← createTypedFunction (.text name) (parameters.map TypedName.unplaced) result
          Lowering.declare name (.fn function.name (.exact result)
            ((parameters.map TypedName.unplaced).map (·.kind.exact))) .unknown
          Lowering.lowerFunctionBody function (parameters.map TypedName.unplaced) body)
      (do let function ← createTypedFunction (.text name) parameters result
          Lowering.declare name (.fn function.name (.exact result) (parameters.map (·.kind.exact)))
            place
          Lowering.lowerFunctionBody function parameters other) := by
    rw [kinds, wanted]
    exact .after fun function => .bind (.declare _ _ _ _) fun _ => .lowerFunctionBody _ _ bodies
  -- A name that is taken is refused at the place of the function.
  exact .ite (.bind (.refuse _ _ _) fun _ => creates) creates

/-- And so do the functions that programs become. -/
theorem lowerEntry (name : Document) {body other : Lowering Unit} (bodies : Agree body other) :
    Agree (Lowering.lowerEntry name body) (Lowering.lowerEntry name other) :=
  .after fun _ => .after fun function => .bind (.lowerFunctionBody function [] bodies)
    fun _ => .refl _

end Agree

end Lowering

namespace Tree

open Lowering

/-- The second arm of a branch is there or not, wherever it stands. -/
theorem secondArm_agrees {arm : Tree} (arms : Agree (lowerArm arm.unplaced) (lowerArm arm)) :
    (secondArm? arm.unplaced (lowerArm arm.unplaced) = none ∧ secondArm? arm
      (lowerArm arm) = none) ∨
      ∃ first second, secondArm? arm.unplaced (lowerArm arm.unplaced) = some first ∧
        secondArm? arm (lowerArm arm) = some second ∧ Agree first second := by
  -- Without places a null stays a null, and nothing else becomes one.
  cases arm with
  | null => exact .inl ⟨rfl, rfl⟩
  | _ => exact .inr ⟨_, _, rfl, rfl, arms⟩

/-- A label keeps its name. -/
@[simp] theorem labelName?_unplaced (label : Tree) :
    labelName? label.unplaced = labelName? label := by
  cases label with
  | identifier place name kind =>
    have shown := name.unplaced_shown
    -- A label is known by what its name shows, which has no places.
    cases name with
    | null => rfl
    | _ => exact congrArg some shown
  | _ => rfl

/-- A variable without a name is refused, wherever its declaration stands. -/
theorem unnamed_agrees {place : Location} {id init : Tree}
    (noName : ∀ place name kind, id = .identifier place name kind → False) :
    Agree (lowerStatement (variableDeclaration place id init).unplaced)
      (lowerStatement (variableDeclaration place id init)) := by
  cases id with
  | identifier => exact absurd rfl (noName _ _ _)
  | _ => exact .refuse _ _ _

/-- Lowering any tree, as a statement or as a part of one, agrees with lowering it without its
places. -/
theorem lower_agrees_all :
    (∀ tree, Agree (lowerStatement tree.unplaced) (lowerStatement tree)) ∧
      (∀ tree, Agree (lowerArm tree.unplaced) (lowerArm tree)) ∧
      (∀ tree, Agree (lowerBody tree.unplaced) (lowerBody tree)) ∧
      ∀ items, Agree (lowerStatements (unplacedAll items)) (lowerStatements items) := by
  -- By the recursion of the lowering: statements, arms, bodies and sequences of statements.
  refine lowerStatement.mutual_induct
    (fun tree => Agree (lowerStatement tree.unplaced) (lowerStatement tree))
    (fun tree => Agree (lowerArm tree.unplaced) (lowerArm tree))
    (fun tree => Agree (lowerBody tree.unplaced) (lowerBody tree))
    (fun items => Agree (lowerStatements (unplacedAll items)) (lowerStatements items))
    ?functionDeclaration ?noFunctionBody ?noFunctionName ?variableDeclaration ?noVariableName
    ?blockStatement
    ?returnStatement ?ifStatement ?loopStatement ?noLoopBody ?breakStatement ?continueStatement
    ?expressionStatement ?other ?armIf ?armBlock ?noArm ?list ?emptyText ?text ?noList ?nil ?cons
  case functionDeclaration =>
    exact fun place arguments result _ name _ _ content bodies =>
      .lowerFunction _ _ _ _ bodies
  -- A body of another shape keeps that shape.
  case noFunctionBody =>
    intro place arguments body result _ name _ noBlock
    cases body with
    | blockStatement => exact absurd rfl (noBlock _ _)
    | _ => exact .refuse _ _ _
  case noFunctionName =>
    intro place named arguments body result noName noOther
    cases named with
    | identifier => exact absurd rfl (noName _ _ _)
    | _ => exact .refuse _ _ _
  case variableDeclaration =>
    exact fun place value _ name stated =>
      .lowerDeclaration place name stated value
  case noVariableName => exact fun _ _ _ noName => unnamed_agrees noName
  case blockStatement => exact fun place content bodies => .inBlock bodies
  case returnStatement => exact fun place value => .lowerReturn place value
  case ifStatement =>
    exact fun place condition consequent alternate first second =>
      .lowerChoice _ first (secondArm_agrees second)
  -- Labels are compared by their names.
  case loopStatement =>
    intro place condition label _ content bodies
    simp only [unplaced, lowerStatement, labelName?_unplaced]
    exact .lowerLoop _ _ bodies
  case noLoopBody =>
    intro place condition body label noBlock
    cases body with
    | blockStatement => exact absurd rfl (noBlock _ _)
    | _ => exact .refuse _ _ _
  case breakStatement | continueStatement =>
    intro place label
    simp only [unplaced, lowerStatement, labelName?_unplaced]
    exact .lowerJump _ _ _ _
  case expressionStatement =>
    exact fun place expression =>
      .bind (lowerExpression_agrees_all.1 expression) fun _ => .refl _
  case other =>
    intro tree noFunction noVariable noBlock noReturn noIf noLoop noBreak noContinue noExpression
    -- What is no statement keeps its shape, which is all that the refusal names.
    cases tree with
    | functionDeclaration => exact absurd rfl (noFunction _ _ _ _ _)
    | variableDeclaration => exact absurd rfl (noVariable _ _ _)
    | blockStatement => exact absurd rfl (noBlock _ _)
    | returnStatement => exact absurd rfl (noReturn _ _)
    | ifStatement => exact absurd rfl (noIf _ _ _ _)
    | loopStatement => exact absurd rfl (noLoop _ _ _ _)
    | breakStatement => exact absurd rfl (noBreak _ _)
    | continueStatement => exact absurd rfl (noContinue _ _)
    | expressionStatement => exact absurd rfl (noExpression _ _)
    | _ => exact .refuse _ _ _
  case armIf =>
    exact fun place condition consequent alternate first second =>
      .inBlock (.lowerChoice _ first (secondArm_agrees second))
  case armBlock => exact fun place content bodies => .inBlock bodies
  case noArm =>
    intro tree noIf noBlock
    cases tree with
    | ifStatement => exact absurd rfl (noIf _ _ _ _)
    | blockStatement => exact absurd rfl (noBlock _ _)
    | _ => exact .refuse _ _ _
  case list => exact fun items same => same
  case emptyText | text => exact fun _ _ => .refl _
  case noList =>
    intro tree noList noText
    cases tree with
    | list => exact absurd rfl (noList _)
    | text => exact absurd rfl (noText _)
    | _ => exact .refl (stop _)
  case nil => exact .refl _
  -- A new block behind a terminator has no place.
  case cons => exact fun statement rest first others => .after fun _ => .bind first fun _ => others

/-- Lowering any tree as a program agrees with lowering it without its places. -/
theorem lowerProgram_agrees (entry : Document) (tree : Tree) :
    Agree (lowerProgram entry tree.unplaced) (lowerProgram entry tree) := by
  cases tree with
  | program place body => exact .lowerEntry entry (lower_agrees_all.2.2.1 body)
  | _ => exact .refuse _ _ _

end Tree

end LoopLang
