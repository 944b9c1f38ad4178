import LoopLang.Proofs.Lowering.Builds

/-! Stages of lowering: the block that is emitted into, and the new blocks that wait for their
turn. -/

namespace LoopLang

open Code (Instruction)

namespace Lowering

variable {α β : Type} {base start : Builder}

/-- Lowering on its way: where code is emitted, and which new blocks wait to be emitted into. -/
structure Stage (base builder : Builder) (here : BlockRef) (waiting : List BlockRef) : Prop where
  sound : builder.Sound
  kept : base.Grows builder
  current : builder.block? = some here
  leaves : base.Leaves builder (here :: waiting)
  awaits : ∀ block ∈ waiting, builder.Awaits here.function block
  fresh : ∀ block ∈ waiting, base.code.body? block = none
  distinct : waiting.Nodup

/--
A statement, or the inside of a block, as it lowers from a start in a block: it leaves no block open
but the one that it ends in. How it ends and why it may be refused is said besides.
-/
def LowersTo (action : Lowering Unit) (start : Builder) (here : BlockRef) (done : Builder → Prop)
    (refused : Failure → Prop) : Prop :=
  action.Ends start
    (fun _ finish => (∃ last, last.function = here.function ∧ Stage start finish last []) ∧
      done finish)
    (fun failure finish => Fails start failure finish ∧ refused failure)

/-- A statement lowers wherever a block is open. -/
def Lowers (action : Lowering Unit) : Prop :=
  ∀ start here, Stage start start here [] → start.HasOpen here →
    action.LowersTo start here (fun _ => True) fun _ => True

section Stages

variable {here : BlockRef} {waiting : List BlockRef}

/-- Lowering begins. -/
theorem Stage.refl (sound : start.Sound) (current : start.block? = some here) :
    Stage start start here [] :=
  ⟨sound, .refl _, current, .refl current, List.forall_mem_nil _, List.forall_mem_nil _,
    List.nodup_nil⟩

/-- What is emitted here has its place. -/
theorem Stage.ready (stage : Stage base start here waiting) (here_open : start.HasOpen here) :
    start.Ready :=
  ⟨here, stage.current, here_open⟩

/-- What waits goes on waiting while code is added elsewhere. -/
theorem Stage.grow {finish : Builder} (stage : Stage base start here waiting)
    (sound : finish.Sound) (grows : start.Grows finish) {last : BlockRef} {more : List BlockRef}
    (current : finish.block? = some last) (leaves : start.Leaves finish (last :: more))
    (same : last.function = here.function)
    (awaits : ∀ block ∈ more, finish.Awaits here.function block)
    (fresh : ∀ block ∈ more, start.code.body? block = none) (distinct : more.Nodup) :
    Stage base finish last (more ++ waiting) where
  sound := sound
  kept := stage.kept.trans grows
  current := current
  leaves := stage.leaves.step stage.current leaves
  -- The new blocks wait, and the earlier ones still do.
  awaits := fun block member => by
    rw [same]
    rcases List.mem_append.mp member with new | old
    · exact awaits block new
    · exact grows.awaits (stage.awaits block old)
  fresh := fun block member => by
    rcases List.mem_append.mp member with new | old
    · exact stage.kept.code.body?_eq_none (fresh block new)
    · exact stage.fresh block old
  -- A block that waits was there before, and a new one was not.
  distinct := List.nodup_append.mpr ⟨distinct, stage.distinct, fun block new other old same => by
    have absent := fresh block new
    rw [same, (stage.awaits other old).empty] at absent
    cases absent⟩

/-- What waits goes on waiting when no other block is added. -/
theorem Stage.stay {finish : Builder} (stage : Stage base start here waiting)
    (sound : finish.Sound) (grows : start.Grows finish) {last : BlockRef}
    (current : finish.block? = some last) (leaves : start.Leaves finish [last])
    (same : last.function = here.function) : Stage base finish last waiting := by
  have grown : Stage base finish last ([] ++ waiting) :=
    stage.grow sound grows current leaves same (List.forall_mem_nil _)
      (List.forall_mem_nil _) List.nodup_nil
  exact grown

/-- Instructions are added to the current block. -/
theorem Stage.adds {finish : Builder} {more : List Instruction}
    (stage : Stage base start here waiting) (sound : finish.Sound) (adds : start.Adds finish more) :
    Stage base finish here waiting :=
  stage.stay sound ((Builder.Grows.refl start).adds adds) (adds.block?.trans stage.current)
    ((Builder.Leaves.refl stage.current).adds stage.current adds) rfl

/-- A block is made, which waits from now on. -/
theorem Stage.makes {finish : Builder} {block : BlockRef} (stage : Stage base start here waiting)
    (sound : finish.Sound) (makes : start.Makes finish block)
    (awaits : finish.Awaits here.function block) :
    Stage base finish here (block :: waiting) := by
  -- The new block is one more to wait for, behind the one at hand.
  refine stage.grow sound ((Builder.Grows.refl start).makes makes)
    (makes.block?.trans stage.current)
    (((Builder.Leaves.refl stage.current).makes makes).perm (List.Perm.swap ..)) rfl
    (fun other member => ?_) (fun other member => ?_) (List.pairwise_singleton ..)
  · exact List.mem_singleton.mp member ▸ awaits
  · exact List.mem_singleton.mp member ▸ makes.fresh

/-- Emission moves on to the first block that waits. -/
theorem Stage.moves {finish : Builder} {block : BlockRef}
    (stage : Stage base start here (block :: waiting)) (finished : ¬ start.HasOpen here)
    (sound : finish.Sound) (moves : start.Moves finish block) :
    Stage base finish block waiting := by
  -- The block that has waited is empty, and the one that is left is finished.
  have awaits := stage.awaits block List.mem_cons_self
  obtain ⟨apart, distinct⟩ := List.nodup_cons.mp stage.distinct
  refine ⟨sound, stage.kept.moves moves (stage.fresh block List.mem_cons_self), moves.current, ?_,
    fun other member => ?_, fun other member => ?_, distinct⟩
  · exact (stage.leaves.finish finished).sameCode moves.code
  · have waits := stage.awaits other (List.mem_cons_of_mem _ member)
    rw [awaits.target.1]
    exact ⟨by rw [moves.code]; exact waits.target, by rw [moves.code]; exact waits.empty,
      fun here => apart (Option.some.inj (moves.current.symm.trans here) ▸ member)⟩
  · exact stage.fresh other (List.mem_cons_of_mem _ member)

/-- A name is declared in the current frame. -/
theorem Stage.declares {finish : Builder} {name : String} {binding : Binding}
    (stage : Stage base start here waiting) (sound : finish.Sound)
    (declares : start.Declares finish name binding) : Stage base finish here waiting := by
  have grows := (Builder.Grows.refl start).declares declares
  have leaves := (Builder.Leaves.refl stage.current).sameCode declares.code
  exact stage.stay sound grows (declares.current.trans stage.current) leaves rfl

/-- What only extends the current block stays in it. -/
theorem Stage.computes {action : Lowering α} {done : α → Builder → Prop}
    (stage : Stage base start here waiting) (here_open : start.HasOpen here)
    (computes : action.Computes start done) :
    action.Ends start (fun answer finish => Stage base finish here waiting ∧ finish.HasOpen here ∧
      start.Extends finish ∧ done answer finish) (Fails base) := by
  have ready := stage.ready here_open
  -- A failure on the way leaves the current block open.
  refine Ends.imp computes (fun answer finish held => ?_) fun _ _ held => ?_
  · obtain ⟨sound, more, answered⟩ := held
    obtain ⟨_, adds, _⟩ := id more
    refine ⟨stage.adds sound adds, ?_, more, answered⟩
    obtain ⟨block, current, block_open⟩ := more.ready ready
    rw [more.block?, stage.current] at current
    exact Option.some.inj current ▸ block_open
  · obtain ⟨block, _, block_open⟩ := held.2.1.ready ready
    exact ⟨held.1, stage.kept.extend held.2.1, ⟨block, block_open⟩, held.2.2⟩

/-- What only looks at the open frames leaves everything as it is. -/
theorem Stage.looks {action : Lowering α} {answers : α → Prop} {fails refused : Failure → Prop}
    (stage : Stage base start here waiting) (here_open : start.HasOpen here)
    (looks : action.Looks start.scopes answers fails)
    (outside : ∀ failure, fails failure → ¬ failure.IsInternal ∧ refused failure) :
    action.Ends start (fun answer finish => answers answer ∧ finish = start)
      (fun failure finish => Fails base failure finish ∧ refused failure) := by
  refine looks.ends.imp (fun _ _ held => held) fun failure finish held => ?_
  obtain ⟨failed, rfl⟩ := held
  -- A look that fails has left the stage as it was.
  obtain ⟨not_internal, reason⟩ := outside failure failed
  exact ⟨⟨stage.sound, stage.kept, ⟨here, here_open⟩, not_internal⟩, reason⟩

/-- A frame is open, which emits into the current block. -/
theorem Stage.current? (stage : Stage base start here waiting) :
    ∃ frame, start.scopes.current? = some frame ∧ frame.block = some here :=
  Option.bind_eq_some_iff.mp stage.current

/-- The order in which blocks wait does not matter. -/
theorem Stage.perm {others : List BlockRef} (stage : Stage base start here waiting)
    (same : waiting.Perm others) :
    Stage base start here others where
  sound := stage.sound
  kept := stage.kept
  current := stage.current
  leaves := stage.leaves.perm (same.cons here)
  -- The order of the blocks that wait does not matter.
  awaits := fun block member => stage.awaits block (same.mem_iff.mpr member)
  fresh := fun block member => stage.fresh block (same.mem_iff.mpr member)
  distinct := same.nodup_iff.mp stage.distinct

/-- A new block waits. -/
theorem Stage.createBlock {failed : Failure → Builder → Prop}
    (stage : Stage base start here waiting) (name : String) :
    (createBlock name).Ends start (fun block finish => Stage base finish here (block :: waiting) ∧
      start.Makes finish block ∧ (finish.HasOpen here ↔ start.HasOpen here)) failed := by
  -- A new block changes none that is there, so the current one stays as it was.
  obtain ⟨body, placed⟩ := stage.sound.body? stage.current
  refine (createBlock_makes stage.sound stage.current name).imp (fun block finish held => ?_)
    fun _ _ held => held
  obtain ⟨sound, makes, awaits⟩ := held
  exact ⟨stage.makes sound makes awaits, makes, makes.hasOpen_iff placed⟩

/-- Emission moves on to the first block that waits. -/
theorem Stage.moveTo {failed : Failure → Builder → Prop} {block : BlockRef}
    (stage : Stage base start here (block :: waiting)) (finished : ¬ start.HasOpen here) :
    (moveTo block).Ends start
      (fun _ finish => Stage base finish block waiting ∧ finish.HasOpen block ∧
      start.Moves finish block) failed := by
  -- A block that waits is empty, so it is open when code comes to it.
  have awaits := stage.awaits block List.mem_cons_self
  refine (moveTo_moves stage.sound stage.current awaits.target.1 ⟨[], awaits.empty⟩).imp
    (fun _ finish held => ?_) fun _ _ held => held
  obtain ⟨sound, moves⟩ := held
  exact ⟨stage.moves finished sound moves,
    ⟨[], by rw [moves.code]; exact awaits.empty, .nil⟩, moves⟩

/-- A part that is lowered on its own is a part of the way. -/
theorem Stage.through {finish : Builder} {last : BlockRef} (stage : Stage base start here waiting)
    (inner : Stage start finish last []) (owner : last.function = here.function) :
    Stage base finish last waiting :=
  stage.stay inner.sound inner.kept inner.current inner.leaves owner

/-- What fails on a part of the way fails on the way. -/
theorem Fails.through {failure : Failure} {finish : Builder} (kept : base.Grows start)
    (fails : Fails start failure finish) : Fails base failure finish :=
  ⟨fails.1, kept.trans fails.2.1, fails.2.2⟩

/-- A failure in an open block. -/
theorem Stage.fails {failure : Failure} (stage : Stage base start here waiting)
    (here_open : start.HasOpen here) (outside : ¬ failure.IsInternal) : Fails base failure start :=
  ⟨stage.sound, stage.kept, ⟨here, here_open⟩, outside⟩

/-- A part that only extends the current block, with what is known of it besides. -/
theorem Stage.extends {action : Lowering α} {done known : α → Builder → Prop}
    {refused : Failure → Prop} (stage : Stage base start here waiting)
    (here_open : start.HasOpen here) (computes : action.Computes start known)
    (ends : action.Ends start done fun failure _ => refused failure) :
    action.Ends start (fun answer finish => Stage base finish here waiting ∧ finish.HasOpen here ∧
        start.Extends finish ∧ known answer finish ∧ done answer finish)
      (fun failure finish => Fails base failure finish ∧ refused failure) := by
  refine Ends.imp (Ends.and (stage.computes here_open computes) ends) (fun _ _ held => ?_)
    fun _ _ held => held
  -- Both of what is known about the action, on one stage.
  obtain ⟨⟨stage, still_open, more, answered⟩, also⟩ := held
  exact ⟨stage, still_open, more, answered, also⟩

end Stages

end Lowering

namespace Builder

/-- A part of the way begins where emission has turned to. -/
theorem Turns.stage {start finish : Builder} {more : List Instruction} {block : BlockRef}
    (turns : start.Turns finish more block) : Lowering.Stage finish finish block [] :=
  .refl turns.sound turns.current

/-- The block that emission has turned to is open. -/
theorem Turns.hasOpen {start finish : Builder} {more : List Instruction} {block : BlockRef}
    (turns : start.Turns finish more block) : finish.HasOpen block :=
  ⟨[], turns.begins, .nil⟩

end Builder

end LoopLang
