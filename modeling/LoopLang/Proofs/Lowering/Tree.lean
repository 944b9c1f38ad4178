import LoopLang.Proofs.Lowering.Function

/-! Lowering whole trees: every statement of whatever shape keeps the builder sound. -/

namespace LoopLang

open Code (Module)

namespace Lowering

variable {α β : Type} {base start : Builder} {here : BlockRef} {waiting : List BlockRef}

/-- Statements in order, which begin in an open block or behind a terminator. -/
def LowersAll (action : Lowering Unit) : Prop :=
  ∀ start here, Stage start start here [] → action.LowersTo start here (fun _ => True) fun _ => True

/-- What begins anywhere begins in an open block, too. -/
theorem LowersAll.lowers {action : Lowering Unit} (lowers : LowersAll action) : Lowers action :=
  fun start here stage _ => lowers start here stage

/-- Emission stays in an open block, and goes on in a new one behind a terminator. -/
structure Reopens (start finish : Builder) : Prop where
  stays : start.Ready → finish = start
  code : start.code.Grows finish.code
  handles : finish.code.handles = start.code.handles
  frames : Builder.Continues [] start.scopes.frames finish.scopes.frames

/-- Behind a terminator emission goes on in a block of its own. -/
theorem Stage.ensureOpen {failed : Failure → Builder → Prop}
    (stage : Stage base start here waiting) :
    ensureOpen.Ends start (fun _ finish => Reopens start finish ∧
      ∃ last, last.function = here.function ∧ Stage base finish last waiting ∧ finish.HasOpen last)
        failed := by
  unfold Lowering.ensureOpen
  rw [bind_ends, isTerminated_ends stage.sound stage.current]
  -- An open block is gone on with; behind a terminator a new block is made, which nothing goes to.
  cases seen : start.code.isTerminated here with
  | false =>
    have here_open := (hasOpen_iff stage.sound stage.current).mpr seen
    exact ⟨⟨fun _ => rfl, .refl _, rfl, .refl _⟩, here, rfl, stage, here_open⟩
  | true =>
    have finished : ¬ start.HasOpen here := fun here_open => by
      rw [(hasOpen_iff stage.sound stage.current).mp here_open] at seen
      cases seen
    -- The new block is made and entered at once, so that it does not wait.
    refine Ends.bind ((Stage.refl stage.sound stage.current).createBlock "unreachable")
      fun block created held => ?_
    obtain ⟨inner, makes, opens⟩ := held
    have owner := (inner.awaits block List.mem_cons_self).target.1
    refine (inner.moveTo fun here_open => finished (opens.mp here_open)).imp
      (fun _ finish held => ?_) fun _ _ held => held
    obtain ⟨inner, block_open, moves⟩ := held
    refine ⟨⟨fun ready => absurd (ready.hasOpen stage.current) finished, moves.code ▸ makes.code,
      (congrArg Module.handles moves.code).trans makes.handles, makes.scopes ▸ moves.frames⟩,
        block, owner,
      stage.through inner owner, block_open⟩

/-- No statements leave everything as it is. -/
theorem Stage.nothing {done : Builder → Prop} {refused : Failure → Prop}
    (stage : Stage start start here []) (held : done start) :
    (pure () : Lowering Unit).LowersTo start here done refused :=
  ⟨⟨here, rfl, stage⟩, held⟩

/-- A statement and the ones behind it: where each of them begins. -/
theorem Stage.sequence {first rest : Lowering Unit} {done : Builder → Prop}
    {refused : Failure → Prop} (stage : Stage start start here [])
    (parts : ∀ opened last, Reopens start opened → Stage opened opened last [] →
      opened.HasOpen last → first.LowersTo opened last
        (fun middle => ∀ next, Stage middle middle next [] →
          rest.LowersTo middle next done refused) refused) :
    (do
      Lowering.ensureOpen
      first
      rest).LowersTo start here done refused := by
  unfold LowersTo
  -- Each part is a part of the whole way.
  refine .bind stage.ensureOpen fun _ opened ⟨reopens, last, owner, stage, last_open⟩ => ?_
  refine bind_ends.mpr ((parts opened last reopens (.refl stage.sound stage.current) last_open).imp
    (fun _ middle held => ?_) fun _ _ held => ⟨held.1.through stage.kept, held.2⟩)
  obtain ⟨⟨next, next_owner, inner⟩, continues⟩ := held
  have stage := stage.through inner next_owner
  refine (continues next (.refl stage.sound stage.current)).imp (fun _ finish held => ?_)
    fun _ _ held =>
      ⟨held.1.through stage.kept, held.2⟩
  obtain ⟨⟨final, final_owner, inner⟩, answered⟩ := held
  exact ⟨⟨final, final_owner.trans (next_owner.trans owner), stage.through inner final_owner⟩,
    answered⟩

/-- A statement and the ones behind it lower in order. -/
theorem LowersAll.cons {first rest : Lowering Unit} (first_lowers : Lowers first)
    (rest_lowers : LowersAll rest) :
    LowersAll (do
      ensureOpen
      first
      rest) := by
  intro start here stage
  -- A closed block is followed by a fresh one, in which the statement is lowered.
  refine stage.sequence fun opened last _ stage last_open => ?_
  exact (first_lowers opened last stage last_open).imp
    (fun _ middle held => ⟨held.1, fun next stage => rest_lowers middle next stage⟩)
    fun _ _ held => held

/-- What is refused at once leaves everything as it is. -/
theorem Lowers.refuse {cause : Cause} {place : Location}
    (outside : ¬ (Failure.refused cause place).IsInternal) :
    Lowers (Lowering.refuse cause place) :=
  fun _ _ stage here_open => ⟨stage.fails here_open outside, trivial⟩

/-- An expression as a statement lowers. -/
theorem Stage.drops {expression : Tree} {done : Builder → Prop} {refused : Failure → Prop}
    (stage : Stage start start here []) (here_open : start.HasOpen here)
    (ends : expression.lowerExpression.Ends start
      (fun _ finish => start.Extends finish → done finish) fun failure _ => refused failure) :
    (do let _ ← expression.lowerExpression : Lowering Unit).LowersTo start here done refused := by
  refine Ends.bind (stage.evaluates here_open ends) fun _ _ evaluated => ?_
  -- The value is dropped, and what its evaluation has done stays.
  obtain ⟨stage, _, more, _, held⟩ := evaluated
  exact ⟨⟨here, rfl, stage⟩, held more⟩

/-- The inside of a block that is given as a text has no statement in it. -/
theorem textBody_lowers (value : String) : Lowers (Tree.lowerBody (.text value)) := by
  intro start here stage here_open
  rw [Tree.lowerBody]
  -- An empty text is a body without statements, and any other one is refused.
  split
  · exact stage.nothing trivial
  · refine .bind stage.ensureOpen fun _ opened held => ?_
    obtain ⟨_, last, _, stage, last_open⟩ := held
    exact ⟨stage.fails last_open id, trivial⟩

end Lowering

namespace Tree

open Lowering

/-- Any tree lowers as a statement, as an arm of a branch, and as the inside of a block. -/
theorem lower_all :
    (∀ tree, Lowers (lowerStatement tree)) ∧ (∀ tree, Lowers (lowerArm tree)) ∧
      (∀ tree, Lowers (lowerBody tree)) ∧ ∀ items, LowersAll (lowerStatements items) := by
  -- By the recursion of lowering itself: one case for each way to take a tree apart.
  refine lowerStatement.mutual_induct (fun tree => Lowers (lowerStatement tree))
    (fun tree => Lowers (lowerArm tree))
    (fun tree => Lowers (lowerBody tree)) (fun items => LowersAll (lowerStatements items))
    ?functionDeclaration ?noFunctionBody ?noFunctionName ?variableDeclaration ?noVariableName
    ?blockStatement
    ?returnStatement ?ifStatement ?loopStatement ?noLoopBody ?breakStatement ?continueStatement
    ?expressionStatement ?other ?armIf ?armBlock ?noArm ?list ?emptyText ?text ?noList ?nil ?cons
  case functionDeclaration =>
    intro place arguments result _ name _ _ content body_lowers
    exact lowerFunction_lowers place name arguments result body_lowers
  -- Nodes of a wrong shape are refused where they stand.
  case noFunctionBody =>
    intro place arguments body result _ name _ noBlock
    rw [lowerStatement] <;> first | assumption | exact .refuse id
  case noFunctionName =>
    intro place named arguments body result noName _
    rw [lowerStatement] <;> first | assumption | exact .refuse id
  case variableDeclaration =>
    intro place value _ name stated
    exact lowerDeclaration_lowers place name stated value
  case noVariableName =>
    intro place named value noName
    rw [lowerStatement] <;> first | assumption | exact .refuse id
  case blockStatement => exact fun place content body_lowers => inBlock_lowers body_lowers
  case returnStatement => exact fun place value => lowerReturn_lowers place value
  -- Each construct with contents has a lemma about whatever contents lower.
  case ifStatement =>
    intro place condition consequent alternate consequent_lowers alternate_lowers
    exact lowerChoice_lowers consequent_lowers (secondArm_forall alternate_lowers)
  case loopStatement =>
    exact fun place condition label _ content body_lowers =>
      lowerLoop_lowers body_lowers
  case noLoopBody =>
    intro place condition body label noBlock
    rw [lowerStatement] <;> first | assumption | exact .refuse id
  case breakStatement => exact fun place label => lowerJump_lowers .break place (labelName? label)
  case continueStatement =>
    exact fun place label => lowerJump_lowers .continue place
      (labelName? label)
  case expressionStatement =>
    exact fun place expression start here stage here_open =>
      stage.drops here_open (Ends.any.imp (fun _ _ _ _ => trivial) fun _ _ held => held)
  case other =>
    intro tree _ _ _ _ _ _ _ _ _
    rw [lowerStatement] <;> first | assumption | exact .refuse id
  case armIf =>
    intro place condition consequent alternate consequent_lowers alternate_lowers
    exact inBlock_lowers (lowerChoice_lowers consequent_lowers (secondArm_forall alternate_lowers))
  case armBlock => exact fun place content body_lowers => inBlock_lowers body_lowers
  case noArm =>
    intro tree _ _
    rw [lowerArm] <;> first | assumption | exact .refuse id
  case list => exact fun items items_lower => items_lower.lowers
  -- A text as a body is a list of letters.
  case emptyText => exact fun value _ => textBody_lowers value
  case text => exact fun value _ => textBody_lowers value
  -- Anything else as a body is a fault of the tree.
  case noList =>
    intro tree _ _
    rw [lowerBody]
    · exact fun _ _ stage here_open => ⟨stage.fails here_open (not_not_intro trivial), trivial⟩
    · assumption
    · assumption
  case nil => exact fun _ _ stage => stage.nothing trivial
  case cons =>
    exact fun statement rest statement_lowers rest_lowers =>
      .cons statement_lowers rest_lowers

end Tree

end LoopLang
