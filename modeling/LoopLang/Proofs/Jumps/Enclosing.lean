import Mathlib.Data.List.Forall2
import LoopLang.Proofs.Jumps.Lexical
import LoopLang.Proofs.Lowering.Function
import LoopLang.Proofs.Lowering.Nesting
import LoopLang.Proofs.Scope.Resolution

/-! The open frames show the loops around a statement, so that searching them comes to what the text
says. -/

namespace LoopLang

/-- The frame of a loop says where jumps go that mean it. -/
structure EnclosingLoop.Owns (loop : EnclosingLoop) (frame : Frame) : Prop where
  isLoop : frame.isLoop = true
  label : frame.label = loop.label
  nextRound : frame.nextRound = some loop.nextRound
  loopExit : frame.loopExit = some loop.loopExit

/-- So a jump goes where the loop says. -/
theorem EnclosingLoop.Owns.jumpTarget? {frame : Frame} {loop : EnclosingLoop}
    (owns : loop.Owns frame) (jump : Jump) :
    Lowering.jumpTarget? jump frame = some (loop.target jump) := by
  cases jump
  · exact owns.loopExit
  · exact owns.nextRound

namespace Scopes

/-- The frames of the loops around a place, innermost first, up to the function that it is in. -/
def loopFrames : List Frame → List Frame
  | [] => []
  | frame :: outer =>
    (if frame.isLoop then [frame] else []) ++ if frame.isFunction then [] else loopFrames outer

/-- The frame that is found for a jump is the first one of those loops that is meant. -/
theorem loopFrameIn_eq_find? (label : Option String) (frames : List Frame) :
    loopFrameIn label frames = (loopFrames frames).find? (·.isTarget label) := by
  induction frames with
  | nil => rfl
  | cons frame outer ih =>
    rw [loopFrameIn, loopFrames]
    cases isLoop : frame.isLoop with
    | false =>
      -- A frame that is not that of a loop is never meant.
      have other : frame.isTarget label = false := by simp [Frame.isTarget, isLoop]
      cases frame.isFunction <;> simp [other, ih]
    | true =>
      -- Whether or not the loop is meant, no frame behind that of the function is searched.
      cases meant : frame.isTarget label <;> cases frame.isFunction <;> simp [meant, ih]

/-- Scopes in which some frame is open, and the frames of loops are those of the given loops. -/
structure InLoops (scopes : Scopes) (loops : List EnclosingLoop) : Prop where
  opened : scopes.frames ≠ []
  owned : List.Forall₂ EnclosingLoop.Owns loops (loopFrames scopes.frames)

namespace InLoops

variable {scopes later : Scopes} {loops : List EnclosingLoop}

/-- Frames that go on are in the same loops. -/
theorem continues {more : List (String × Binding)} (inside : scopes.InLoops loops)
    (continues : Builder.Continues more scopes.frames later.frames) : later.InLoops loops := by
  obtain ⟨opened, owned⟩ := inside
  cases frames : scopes.frames with
  | nil => exact absurd frames opened
  | cons frame outer =>
    rw [frames] at continues owned
    obtain ⟨block, same⟩ := continues
    refine ⟨same ▸ List.cons_ne_nil _ _, ?_⟩
    rw [same]
    revert owned
    unfold loopFrames
    -- Where a frame emits and what it declares does not matter to jumps.
    cases isLoop : frame.isLoop with
    | false => exact id
    | true =>
      rintro (_ | ⟨owns, rest⟩)
      exact .cons ⟨rfl, owns.label, owns.nextRound, owns.loopExit⟩ rest

/-- A frame that is neither that of a loop nor that of a function is in the loops around it. -/
theorem push (inside : scopes.InLoops loops) (block : BlockRef) :
    (scopes.push (some block) {}).InLoops loops :=
  ⟨List.cons_ne_nil _ _, inside.owned⟩

/-- The frame of a loop is in that loop, too. -/
theorem push_loop (inside : scopes.InLoops loops) (block : BlockRef) (loop : EnclosingLoop) :
    (scopes.push (some block) loop.options).InLoops (loop :: loops) :=
  ⟨List.cons_ne_nil _ _, .cons ⟨rfl, rfl, rfl, rfl⟩ inside.owned⟩

/-- The frame of a function is in none of the loops around the function. -/
theorem push_function (scopes : Scopes) (block : BlockRef) {options : FrameOptions}
    (function : options.isFunction = true) (plain : options.isLoop = false) :
    (scopes.push (some block) options).InLoops [] := by
  refine ⟨List.cons_ne_nil _ _, ?_⟩
  show List.Forall₂ _ [] ((if options.isLoop then _ else []) ++ if options.isFunction
      then [] else _)
  -- The frame of a function hides the loops around it, and is none itself.
  rw [function, plain]
  exact .nil

/-- A jump means a frame exactly if it means the loop that the frame is that of. -/
theorem meant (label : Option String) {frames : List Frame}
    (owned : List.Forall₂ EnclosingLoop.Owns loops frames) :
    Option.Rel EnclosingLoop.Owns (loops.find? (·.isMeant label))
      (frames.find? (·.isTarget label)) := by
  induction owned with
  | nil => exact .none
  | @cons loop frame _ _ owns _ ih =>
    -- A frame is a target exactly when its loop is meant.
    have same : frame.isTarget label = loop.isMeant label := by
      unfold Frame.isTarget EnclosingLoop.isMeant
      rw [owns.isLoop, owns.label, Bool.true_and]
    rw [List.find?_cons, List.find?_cons, same]
    cases loop.isMeant label with
    | true => exact .some owns
    | false => exact ih

/-- The frame that is found for a jump is that of the loop that it means. -/
theorem loopFrame? (inside : scopes.InLoops loops) (label : Option String) :
    Option.Rel EnclosingLoop.Owns (loops.find? (·.isMeant label)) (scopes.loopFrame? label) := by
  rw [Scopes.loopFrame?, loopFrameIn_eq_find?]
  exact meant label inside.owned

end InLoops

/-- Frames that go on without a new name keep to themselves. -/
theorem continues_absorbs :
    Absorbs fun scopes later => Builder.Continues [] scopes.frames later.frames where
  refl scopes := .refl scopes.frames
  trans := .trans
  note {scopes} _ _ := .refl scopes.frames
  moveTo := moveTo_continues
  -- What was opened is closed again, so that only the block of the frame may differ.
  frame inside popped := by
    obtain ⟨more, last, frames⟩ := inside.continues
    exact pop_continues frames popped

/-- What a loop does in front of its condition keeps to whatever the small steps keep to. -/
theorem Absorbs.openLoop {anywhere : Bool} {relation : Scopes → Scopes → Prop}
    (absorbs : Absorbs relation) (label : Option String) :
    Lowering.Relates anywhere relation (Lowering.openLoop label) := by
  refine absorbs.after .nextSuffix fun _ => absorbs.after (.createBlock _) fun _ =>
    absorbs.after (.createBlock _) fun _ => absorbs.after (.createBlock _) fun _ => ?_
  exact absorbs.after (.terminate _) fun _ => absorbs.bind (absorbs.moved _) fun _ =>
    absorbs.pure _

end Scopes

namespace Lowering

variable {α β : Type} {loops : List EnclosingLoop}

/--
A computation that closes the frames that it opens comes to the same as another one, wherever the
given loops are around.
-/
structure Follows (loops : List EnclosingLoop) (found lexical : Lowering α) : Prop where
  nested : Nested found
  same : ∀ start : Builder, start.scopes.InLoops loops → found.outcome start = lexical.outcome start

namespace Follows

variable {found lexical : Lowering α}

/-- What does not depend on the loops around it. -/
theorem refl {action : Lowering α} (nested : Nested action) : Follows loops action action :=
  ⟨nested, fun _ _ => rfl⟩

/-- What changes no scopes follows itself. -/
theorem of_quiet {action : Lowering α} (quiet : Quiet .inferred action) :
    Follows loops action action :=
  .refl (Scopes.Nests.absorbs.of_quiet quiet)

/-- Behind what closes the frames that it opens the same loops are around. -/
theorem bind {next other : α → Lowering β} (first : Follows loops found lexical)
    (second : ∀ answer, Follows loops (next answer) (other answer)) :
    Follows loops (found >>= next) (lexical >>= other) where
  nested := .bind first.nested fun answer => (second answer).nested
  same start inside := by
    have nests : Ends found start _ _ := first.nested.ends
    unfold Ends at nests
    rw [outcome_bind, outcome_bind, ← first.same start inside]
    generalize found.outcome start = outcome at nests ⊢
    rcases outcome with ⟨failure | answer, middle⟩
    · rfl
    -- The second one is compared where the first one has come to, within the same loops.
    · obtain ⟨more, continues⟩ := Scopes.Nests.continues nests
      exact (second answer).same middle (inside.continues continues)

/-- What stands behind it may follow something else. -/
theorem after {action : Lowering α} {next other : α → Lowering β} (first : Quiet .inferred action)
    (second : ∀ answer, Follows loops (next answer) (other answer)) :
    Follows loops (action >>= next) (action >>= other) :=
  .bind (.of_quiet first) second

/-- Two computations come to the same within a new frame if the loops around them there are those
that the text gives. -/
theorem withFrame_same (inside : Follows loops found lexical) {block : BlockRef}
    {options : FrameOptions} {start : Builder}
    (opened : (start.scopes.push (some block) options).InLoops loops) :
    (Lowering.withFrame (some block) options found).outcome start =
      (Lowering.withFrame (some block) options lexical).outcome start := by
  rw [withFrame_outcome, withFrame_outcome, inside.same _ opened]

/-- Within a new frame other loops may be around. -/
theorem withFrame {block : BlockRef} {options : FrameOptions} {inner : List EnclosingLoop}
    (opens : ∀ scopes : Scopes, scopes.InLoops loops →
      (scopes.push (some block) options).InLoops inner)
    (inside : Follows inner found lexical) :
    Follows loops (Lowering.withFrame (some block) options found)
      (Lowering.withFrame (some block) options lexical) :=
  ⟨.withFrame block options inside.nested,
    fun start around => inside.withFrame_same (opens start.scopes around)⟩

/-- A frame without a loop leaves the loops around it. -/
theorem inBlock (inside : Follows loops found lexical) :
    Follows loops (Lowering.inBlock found) (Lowering.inBlock lexical) where
  nested := .inBlock inside.nested
  same start around := by
    cases here : start.scopes.cursor with
    | none =>
      -- Where code is emitted nowhere, neither of the two begins.
      exact (inBlock_strands found here).trans (inBlock_strands lexical here).symm
    | some block =>
      show (Lowering.withFrame start.scopes.cursor {} found).outcome start =
        (Lowering.withFrame start.scopes.cursor {} lexical).outcome start
      rw [here]
      exact inside.withFrame_same (around.push block)

/-- Going on in another block leaves them, too. -/
theorem moveTo (block : BlockRef) : Follows loops (Lowering.moveTo block) (Lowering.moveTo block) :=
  .refl (Scopes.Nests.absorbs.moved block)

/-- So does a jump at the end of a block. -/
theorem jumpUnlessTerminated (block : BlockRef) :
    Follows loops (Lowering.jumpUnlessTerminated block) (Lowering.jumpUnlessTerminated block) :=
  .refl (.jumpUnlessTerminated block)

/-- The frame that is searched for a jump is that of the loop that the text gives. -/
theorem jump (jump : Jump) (place : Location) (label : Option String) :
    Follows loops (lowerJump jump place label) (lowerJumpWithin loops jump place label) where
  nested := Scopes.Nests.absorbs.jump jump place label
  same start inside := by
    -- Some frame is open, so that the search begins at all.
    obtain ⟨frame, current⟩ : ∃ frame, start.scopes.current? = some frame :=
      Option.isSome_iff_exists.mp
        (by simpa [Scopes.current?, List.isSome_head?] using inside.opened)
    have looked : currentFrame.outcome start = (.ok frame, start) := by
      unfold currentFrame
      rw [scopes_bind_outcome, current]
      rfl
    unfold lowerJump lowerJumpWithin
    rw [outcome_bind, looked]
    dsimp only
    rw [scopes_bind_outcome]
    -- A frame is found where a loop is meant, and it is that of the loop.
    have meant := inside.loopFrame? label
    revert meant
    cases loops.find? (·.isMeant label) <;> cases start.scopes.loopFrame? label
    · exact fun _ => rfl
    · rintro ⟨⟩
    · rintro ⟨⟩
    · rintro ⟨owns⟩
      dsimp only
      rw [owns.jumpTarget?]

/-- The condition of a branch is in no frame of its own, and its arms are in the loops around it. -/
theorem choice {condition : Tree} {consequent within : Lowering Unit}
    {alternate otherwise : Option (Lowering Unit)} (first : Follows loops consequent within)
    (second : Option.Rel (Follows loops) alternate otherwise) :
    Follows loops (lowerChoice condition consequent alternate)
      (lowerChoice condition within otherwise) := by
  refine .after .nextSuffix fun _ => .bind (.refl (Scopes.Nests.absorbs.condition _)) fun _ =>
    .after (.createBlock _) fun _ => ?_
  -- Both arms are compared within the same loops.
  cases second with
  | none =>
    refine .after (.createBlock _) fun _ => .after (.terminate _) fun _ => ?_
    refine .bind (.moveTo _) fun _ => .bind first fun _ => ?_
    exact .bind (.jumpUnlessTerminated _) fun _ => .moveTo _
  | some second =>
    refine .after (.createBlock _) fun _ => .after (.createBlock _) fun _ => ?_
    refine .after (.terminate _) fun _ => .bind (.moveTo _) fun _ => .bind first fun _ => ?_
    refine .bind (.jumpUnlessTerminated _) fun _ => .bind (.moveTo _) fun _ => ?_
    exact .bind second fun _ => .bind (.jumpUnlessTerminated _) fun _ => .moveTo _

/-- The second arm of a branch is that of the text, if there is one. -/
theorem secondArm {arm : Tree} {within : Lowering Unit}
    (second : Follows loops arm.lowerArm within) :
    Option.Rel (Follows loops) (secondArm? arm arm.lowerArm) (secondArm? arm within) := by
  unfold secondArm?
  split
  · exact .none
  · exact .some second

/-- The condition of a loop is in the loops around the loop, and its body is in the loop, too. -/
theorem loop {condition : Tree} {label : Option String} {body : Lowering Unit}
    {within : EnclosingLoop → Lowering Unit}
    (inside : ∀ loop : EnclosingLoop, Follows (loop :: loops) body (within loop)) :
    Follows loops (lowerLoop condition label body) (lowerLoopWithin condition label within) := by
  rw [lowerLoop_eq]
  refine .bind (.refl (Scopes.Nests.absorbs.openLoop label)) fun (loop, bodyBlock) =>
    .bind (.refl (Scopes.Nests.absorbs.condition _)) fun _ =>
      .after (.terminate _) fun _ =>
        -- Within the body there is one more loop, which its frame stands for.
        .bind (.withFrame (fun _ around => around.push_loop bodyBlock loop) ?_) fun _ => .moveTo _
  exact .bind (inside loop) fun _ => .jumpUnlessTerminated _

/-- The body of a function is in no loop, so that the two come to the same wherever the function
is. -/
theorem functionBody_eq {body within : Lowering Unit} (inside : Follows [] body within)
    (function : Code.Function) (parameters : List TypedName) :
    lowerFunctionBody function parameters body = lowerFunctionBody function parameters within := by
  have contents : Follows [] (do
      storeParameters function.parameters parameters; body; closeFunction function.result) (do
      storeParameters function.parameters parameters; within; closeFunction function.result) :=
    .bind (.refl (.storeParameters _ _)) fun _ => .bind inside fun _ =>
      .refl (Scopes.Nests.absorbs.closeFunction _)
  -- Whatever is open in front of the function, its own frame is the innermost one.
  have framed (block : BlockRef) :
      Lowering.withFrame (some block) (functionOptions function) (do
        storeParameters function.parameters parameters; body; closeFunction function.result) =
      Lowering.withFrame (some block) (functionOptions function) (do
        storeParameters function.parameters parameters; within; closeFunction function.result) :=
    funext fun start => contents.withFrame_same (.push_function start.scopes block rfl rfl)
  unfold lowerFunctionBody
  exact bind_congr framed

/-- So does the function as a whole. -/
theorem function {body within : Lowering Unit} (place : Location) (name arguments result : Tree)
    (inside : Follows [] body within) :
    Follows loops (lowerFunction place name arguments result body)
      (lowerFunction place name arguments result within) := by
  -- The body sees no loops from outside, so both lowerings of it are the same.
  have same : lowerFunction place name arguments result body =
      lowerFunction place name arguments result within := by
    simp only [lowerFunction, inside.functionBody_eq]
  rw [← same]
  exact .refl (.function place name arguments result inside.nested)

/-- And so does a program. -/
theorem entry_eq {body within : Lowering Unit} (inside : Follows [] body within) (name : Document) :
    lowerEntry name body = lowerEntry name within := by
  simp only [lowerEntry, inside.functionBody_eq]

end Follows

end Lowering

namespace Tree

open Lowering

/-- Lowering any tree comes to the same whether frames are searched for loops or the text gives
them. -/
theorem lowerWithin_follows_all :
    (∀ loops tree, Follows loops (lowerStatement tree) (lowerStatementWithin loops tree)) ∧
    (∀ loops tree, Follows loops (lowerArm tree) (lowerArmWithin loops tree)) ∧
    (∀ loops tree, Follows loops (lowerBody tree) (lowerBodyWithin loops tree)) ∧
    ∀ loops items, Follows loops (lowerStatements items) (lowerStatementsWithin loops items) := by
  -- By the recursion of the lowering that is told the loops around it.
  refine lowerStatementWithin.mutual_induct
    (fun loops tree => Follows loops (lowerStatement tree) (lowerStatementWithin loops tree))
    (fun loops tree => Follows loops (lowerArm tree) (lowerArmWithin loops tree))
    (fun loops tree => Follows loops (lowerBody tree) (lowerBodyWithin loops tree))
    (fun loops items => Follows loops (lowerStatements items) (lowerStatementsWithin loops items))
    ?functionDeclaration ?blockStatement ?ifStatement ?loopStatement ?breakStatement
    ?continueStatement ?other ?armIf ?armBlock ?noArm ?list ?noList ?nil ?cons
  case functionDeclaration =>
    -- The loops around a function are out of reach in its body.
    intro loops place _ name _ arguments _ content result inside
    rw [lowerStatement, lowerStatementWithin]
    exact .function place name arguments result inside
  case blockStatement =>
    intro loops place content inside
    rw [lowerStatement, lowerStatementWithin]
    exact .inBlock inside
  case ifStatement =>
    intro loops place condition consequent alternate first second
    rw [lowerStatement, lowerStatementWithin]
    exact .choice first second.secondArm
  case loopStatement =>
    -- What is known of the body holds in the loop that is about to be opened, whatever its blocks
    -- are.
    intro loops place condition _ content label inside
    rw [lowerStatement, lowerStatementWithin]
    exact .loop inside
  case breakStatement =>
    intro loops place label
    rw [lowerStatement, lowerStatementWithin]
    exact .jump .break place (labelName? label)
  case continueStatement =>
    intro loops place label
    rw [lowerStatement, lowerStatementWithin]
    exact .jump .continue place (labelName? label)
  case other =>
    -- No statement stands in any other one, so that the two are lowered in the same way.
    intro loops tree _ _ _ _ _ _
    rw [lowerStatementWithin] <;> first | assumption | exact .refl (lower_nested_all.1 tree).1
  case armIf =>
    -- A branch that is the arm of another one has a frame of its own, which is no loop.
    intro loops place condition consequent alternate first second
    rw [lowerArm, lowerArmWithin]
    exact .inBlock (.choice first second.secondArm)
  case armBlock =>
    intro loops place content inside
    rw [lowerArm, lowerArmWithin]
    exact .inBlock inside
  -- What is no arm, or no list of statements, is lowered in the same way as well.
  case noArm =>
    intro loops tree _ _
    rw [lowerArmWithin] <;> first | assumption | exact .refl (lower_nested_all.2.1 tree)
  case list =>
    intro loops items inside
    rw [lowerBody, lowerBodyWithin]
    exact inside
  case noList =>
    intro loops tree _
    rw [lowerBodyWithin] <;> first | assumption | exact .refl (lower_nested_all.2.2.1 tree).narrow
  case nil => exact fun loops => .refl (.pure _)
  -- The statements of a list all have the loops of the list around them.
  case cons =>
    intro loops statement rest first others
    rw [lowerStatements, lowerStatementsWithin]
    exact .bind (.refl Scopes.Nests.absorbs.ensureOpen) fun _ => .bind first fun _ => others

/-- So does lowering any tree as a program. -/
theorem lowerProgramWithin_eq (entry : Document) (tree : Tree) :
    tree.lowerProgram entry = tree.lowerProgramWithin entry := by
  unfold lowerProgramWithin
  split
  · exact (lowerWithin_follows_all.2.2.1 [] _).entry_eq entry
  · rfl

end Tree

end LoopLang
