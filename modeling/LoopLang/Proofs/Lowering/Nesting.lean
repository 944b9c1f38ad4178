import LoopLang.Proofs.Lowering.Framing

/-!
Lowering closes each frame that it opens and keeps to reachable scopes, whatever the tree is and
however lowering ends.
-/

namespace LoopLang

namespace Lowering

variable {α β : Type} {anywhere : Bool} {action : Lowering α}

/--
However a computation ends, it has closed the frames that it has opened, and no others; where code
is emitted nowhere, that may be so of a success only, unless it is so `anywhere`.
-/
def Nested (action : Lowering α) (anywhere : Bool := false) : Prop :=
  Relates anywhere Scopes.Nests action

namespace Nested

/-- The frames that a computation opens are closed at both of its ends. -/
theorem ends (nested : Nested action) {start : Builder} : action.Ends start
    (fun _ finish => start.scopes.Nests finish.scopes)
    fun _ finish => start.scopes.cursor.isSome → start.scopes.Nests finish.scopes :=
  (nested start).imp (fun _ _ held => held.1) fun _ _ held placed => held (.inr placed)

/-- However it ends, the scopes behind it are nested in those in front of it, if it has a block to
begin in. -/
theorem nests {anywhere : Bool} (nested : Nested action anywhere) (start : Builder)
    (may : anywhere = true ∨ start.scopes.cursor.isSome) :
    start.scopes.Nests (action.outcome start).2.scopes :=
  Relates.outcome nested start may

/-- What holds anywhere holds where code is emitted somewhere. -/
theorem narrow (nested : Nested action true) : Nested action := Relates.narrow nested

/-- An answer nests. -/
theorem pure (answer : α) : Nested (Pure.pure answer) anywhere := Scopes.Nests.absorbs.pure answer

/-- So does a refusal. -/
theorem refuse (cause : Cause) (place : Location) :
    Nested (Lowering.refuse (α := α) cause place) anywhere :=
  Scopes.Nests.absorbs.refuse cause place

/-- Two computations close the frames that they open if each of them does. -/
theorem bind {next : α → Lowering β} (first : Nested action anywhere)
    (second : ∀ answer, Nested (next answer) anywhere) :
    Nested (action >>= next) anywhere :=
  Scopes.Nests.absorbs.bind first second

/-- What follows a computation that leaves the scopes as they are. -/
theorem after {next : α → Lowering β} (first : Quiet .inferred action)
    (second : ∀ answer, Nested (next answer) anywhere) :
    Nested (action >>= next) anywhere :=
  Scopes.Nests.absorbs.after first second

/-- A declaration adds to the innermost frame. -/
theorem declare (name : String) {binding : Binding} (definite : binding.IsDefinite)
    (place : Location) :
    Nested (Lowering.declare name binding place) anywhere :=
  (Scopes.Nests.admitsName name).declared definite place

/-- A frame is closed behind its contents however those end, if there is a block for it. -/
theorem withFrame {body : Lowering α} (block : BlockRef) (options : FrameOptions)
    (nested : Nested body) :
    Nested (Lowering.withFrame (some block) options body) anywhere :=
  Scopes.Nests.absorbs.withFrame block options nested

/-- What is in a block nests around its frame. -/
theorem inBlock {body : Lowering α} (nested : Nested body) : Nested (Lowering.inBlock body) :=
  Scopes.Nests.absorbs.inBlock nested

/-- A jump at the end of a block nests. -/
theorem jumpUnlessTerminated (block : BlockRef) :
    Nested (Lowering.jumpUnlessTerminated block) anywhere :=
  Scopes.Nests.absorbs.jumpUnlessTerminated block

/-- So does the declaration of a variable. -/
theorem declareVariable (name base : String) (kind : ValueKind) (value : Code.Operand)
    (place : Location) :
    Nested (Lowering.declareVariable name base kind value place) anywhere :=
  (Scopes.Nests.admitsName name).declareVariable base kind value place

/-- So do those of parameters. -/
theorem storeParameters : ∀ (registers : List (String × ValueKind)) (parameters : List TypedName),
    Nested (Lowering.storeParameters registers parameters) anywhere
  | (register, _) :: registers, ⟨place, name, kind⟩ :: parameters =>
    .bind (.declareVariable _ _ _ _ _) fun _ => storeParameters registers parameters
  | [], _ => by simpa only [Lowering.storeParameters] using Nested.pure _
  | _ :: _, [] => by simpa only [Lowering.storeParameters] using Nested.pure _

/-- What stands within the frame of a function. -/
theorem functionContents {body : Lowering Unit} (function : Code.Function)
    (parameters : List TypedName) (nested : Nested body) : Nested (do
      Lowering.storeParameters function.parameters parameters; body;
        Lowering.closeFunction function.result) :=
  .bind (.storeParameters _ _) fun _ => .bind nested fun _ => Scopes.Nests.absorbs.closeFunction _

/-- So does the body of a function. -/
theorem functionBody {body : Lowering Unit} (function : Code.Function) (parameters : List TypedName)
    (nested : Nested body) :
    Nested (Lowering.lowerFunctionBody function parameters body) anywhere :=
  .bind (Scopes.Nests.absorbs.of_same fun _ => rfl) fun _ =>
    .withFrame _ _ (.functionContents function parameters nested)

/-- So does a function, which is declared in the frame around it. -/
theorem function {body : Lowering Unit} (place : Location) (name arguments result : Tree)
    (nested : Nested body) :
    Nested (Lowering.lowerFunction place name arguments result body) anywhere :=
  (Scopes.Nests.admitsName name.shown).function place arguments result fun function parameters =>
    functionContents function parameters nested

/-- So does a declaration. -/
theorem declaration (place : Location) (name stated value : Tree) :
    Nested (lowerDeclaration place name stated value) anywhere :=
  (Scopes.Nests.admitsName name.shown).declaration place stated value

/-- So does a branch, if its arms do. -/
theorem choice {condition : Tree} {consequent : Lowering Unit} {alternate : Option (Lowering Unit)}
    (first : Nested consequent) (second : ∀ arm ∈ alternate, Nested arm) :
    Nested (lowerChoice condition consequent alternate) anywhere :=
  Scopes.Nests.absorbs.choice first second

/-- So does a loop, if its body does. -/
theorem loop {condition : Tree} {label : Option String} {body : Lowering Unit}
    (nested : Nested body) :
    Nested (lowerLoop condition label body) anywhere :=
  Scopes.Nests.absorbs.loop nested

/-- The function that a program becomes is named before anything else happens. -/
theorem entry {body : Lowering Unit} (name : Document) (nested : Nested body) :
    Nested (lowerEntry name body) anywhere := by
  refine .bind (Scopes.Nests.absorbs.of_looks (fun _ => .readName name)) fun _ => ?_
  refine .bind (Scopes.Nests.absorbs.createTypedFunction _ _ _) fun _ => ?_
  exact .bind (.functionBody _ _ nested) fun _ => .pure _

end Nested

end Lowering

namespace Tree

open Lowering

/-- The second arm of a branch closes the frames that it opens if what stands there does. -/
theorem secondArm_nested {arm : Tree} (nested : Nested (lowerArm arm)) :
    ∀ lowered ∈ secondArm? arm (lowerArm arm), Nested lowered :=
  secondArm_forall nested

/-- Whether a tree is lowered as a nested block, which takes the block where code is emitted. -/
def IsBlock : Tree → Prop
  | blockStatement .. => True
  | _ => False

/-- Whether a tree may be an arm of a branch, which is lowered in a frame of its own. -/
def IsArm : Tree → Prop
  | ifStatement .. | blockStatement .. => True
  | _ => False

/--
Lowering any tree, as a statement or as a part of one, closes the frames that it opens. Unless a
nested block is all that there is to lower, that is so anywhere.
-/
theorem lower_nested_all :
    (∀ tree, Nested (lowerStatement tree) ∧
      (¬ tree.IsBlock → Nested (lowerStatement tree) true)) ∧
    (∀ tree, Nested (lowerArm tree)) ∧ (∀ tree, Nested (lowerBody tree) true) ∧
    ∀ items, Nested (lowerStatements items) true := by
  -- By the recursion of lowering, for any tree: also for one that no text is parsed to.
  refine lowerStatement.mutual_induct
    (fun tree => Nested (lowerStatement tree) ∧
      (¬ tree.IsBlock → Nested (lowerStatement tree) true))
    (fun tree => Nested (lowerArm tree)) (fun tree => Nested (lowerBody tree) true)
    (fun items => Nested (lowerStatements items) true)
    ?functionDeclaration ?noFunctionBody ?noFunctionName ?variableDeclaration ?noVariableName
      ?blockStatement
    ?returnStatement ?ifStatement ?loopStatement ?noLoopBody ?breakStatement ?continueStatement
      ?expressionStatement
    ?other ?armIf ?armBlock ?noArm ?list ?emptyText ?text ?noList ?nil ?cons
  case functionDeclaration =>
    intro place arguments result _ name _ _ content nested
    exact ⟨.function _ _ _ _ nested.narrow, fun _ => .function _ _ _ _ nested.narrow⟩
  -- A refusal opens no frame.
  case noFunctionBody =>
    intro place arguments body result _ name _ noBlock
    rw [lowerStatement] <;> first | assumption | exact ⟨.refuse _ _, fun _ => .refuse _ _⟩
  case noFunctionName =>
    intro place named arguments body result noName _
    rw [lowerStatement] <;> first | assumption | exact ⟨.refuse _ _, fun _ => .refuse _ _⟩
  case variableDeclaration =>
    intro place value _ name stated
    exact ⟨.declaration place name stated value, fun _ => .declaration place name stated value⟩
  case noVariableName =>
    intro place named value noName
    rw [lowerStatement] <;> first | assumption | exact ⟨.refuse _ _, fun _ => .refuse _ _⟩
  -- A block statement needs a block to begin in.
  case blockStatement =>
    intro place content nested
    exact ⟨.inBlock nested.narrow, fun other => (other trivial).elim⟩
  case returnStatement =>
    intro place value
    exact ⟨Scopes.Nests.absorbs.ending place value,
      fun _ => Scopes.Nests.absorbs.ending place value⟩
  -- Branches, loops and functions make the blocks that their frames begin in.
  case ifStatement =>
    intro place condition consequent alternate first second
    exact ⟨.choice first (secondArm_nested second),
      fun _ => .choice first (secondArm_nested second)⟩
  case loopStatement =>
    intro place condition label _ content nested
    exact ⟨.loop nested.narrow, fun _ => .loop nested.narrow⟩
  case noLoopBody =>
    intro place condition body label noBlock
    rw [lowerStatement] <;> first | assumption | exact ⟨.refuse _ _, fun _ => .refuse _ _⟩
  case breakStatement =>
    intro place label
    exact ⟨Scopes.Nests.absorbs.jump .break place (labelName? label),
      fun _ => Scopes.Nests.absorbs.jump .break place (labelName? label)⟩
  case continueStatement =>
    intro place label
    exact ⟨Scopes.Nests.absorbs.jump .continue place (labelName? label),
      fun _ => Scopes.Nests.absorbs.jump .continue place (labelName? label)⟩
  case expressionStatement =>
    intro place expression
    have computes {anywhere : Bool} :
        Nested (lowerStatement (.expressionStatement place expression)) anywhere :=
      .after (lowerExpression_quiet_all.1 expression) fun _ => .pure _
    exact ⟨computes, fun _ => computes⟩
  case other =>
    intro tree _ _ _ _ _ _ _ _ _
    rw [lowerStatement] <;> first | assumption | exact ⟨.refuse _ _, fun _ => .refuse _ _⟩
  -- An arm begins in the block that is current, as a block statement does.
  case armIf =>
    exact fun place condition consequent alternate first second =>
      .inBlock (.choice first (secondArm_nested second))
  case armBlock => exact fun place content nested => .inBlock nested.narrow
  case noArm =>
    intro tree _ _
    rw [lowerArm] <;> first | assumption | exact .refuse _ _
  case list => exact fun items nested => nested
  case emptyText =>
    intro value empty
    simpa only [lowerBody, empty, if_true] using Nested.pure ()
  case text =>
    intro value filled
    simpa only [lowerBody, filled, if_false] using
      .bind Scopes.Nests.absorbs.ensureOpen fun _ => .refuse _ _
  case noList =>
    intro tree _ _
    rw [lowerBody] <;> first | assumption | exact Scopes.Nests.absorbs.stop _
  case nil => exact .pure _
  case cons =>
    -- What stands behind the opening of a block is lowered where code is emitted.
    exact fun statement rest nested rest_nested =>
      Scopes.Nests.absorbs.opened fun _ => Nested.bind nested.1 fun _ => rest_nested.narrow

/-- Lowering any tree as a program closes the frames that it opens. -/
theorem lowerProgram_nested (entry : Document) (tree : Tree) :
    Nested (lowerProgram entry tree) true := by
  unfold lowerProgram
  split
  · exact .entry entry (lower_nested_all.2.2.1 _).narrow
  · exact .refuse _ _

end Tree

namespace Lowering

variable {α : Type} {action : Lowering α}

/-- From reachable scopes a computation ends in reachable scopes, whether it succeeds or fails. -/
def Keeps (action : Lowering α) : Prop :=
  ∀ start, start.scopes.Reachable → (action.outcome start).2.scopes.Reachable

/-- A computation does nothing but open a frame without a block, which it does not close again. -/
def Strands (action : Lowering α) (start : Builder) : Prop :=
  action.outcome start =
    (.error (.fault .noBlock), { start with scopes := start.scopes.push none {} })

/-- Where code is emitted nowhere, a nested block is not begun. -/
theorem inBlock_strands (body : Lowering α) {start : Builder}
    (nowhere : start.scopes.cursor = none) :
    (inBlock body).Strands start := by
  rw [Strands, inBlock_outcome, nowhere, withFrame_nowhere]

/-- What closes the frames that it opens keeps to reachable scopes. -/
theorem Nested.keeps (nested : Nested action true) : Keeps action :=
  fun _ reachable => (nested.nests _ (.inl rfl)).reachable reachable

/-- A nested block keeps to them, too: where it has no block, its frame stays open, and that is
all. -/
theorem Nested.inBlock_keeps {body : Lowering α} (nested : Nested body) :
    Keeps (Lowering.inBlock body) := by
  intro start reachable
  rw [inBlock_outcome]
  cases start.scopes.cursor with
  | none =>
    -- Without a block the new frame stays, and the scopes are still reachable.
    rw [withFrame_nowhere]
    exact .push reachable none {}
  | some block => exact Nested.keeps (Nested.withFrame block {} nested) start reachable

end Lowering

/-- Lowering any tree, as a statement or as a part of one, keeps to reachable scopes. -/
theorem Tree.lowerStatement_keeps_all :
    (∀ tree, Lowering.Keeps (lowerStatement tree)) ∧ (∀ tree, Lowering.Keeps (lowerArm tree)) ∧
      (∀ tree, Lowering.Keeps (lowerBody tree)) ∧ ∀ items,
        Lowering.Keeps (lowerStatements items) := by
  obtain ⟨statement, arm, body, statements⟩ := lower_nested_all
  refine ⟨fun tree => ?_, fun tree => ?_, fun tree => (body tree).keeps,
    fun items => (statements items).keeps⟩
  -- Only blocks look for the cursor first, and they keep the scopes too.
  · by_cases block : tree.IsBlock
    · cases tree <;> first | exact block.elim | skip
      exact Lowering.Nested.inBlock_keeps (body _).narrow
    · exact ((statement tree).2 block).keeps
  · unfold lowerArm
    split
    · exact Lowering.Nested.inBlock_keeps
        (.choice (arm _) (secondArm_nested (arm _)))
    · exact Lowering.Nested.inBlock_keeps (body _).narrow
    · exact Lowering.Nested.keeps (.refuse _ _)

end LoopLang
