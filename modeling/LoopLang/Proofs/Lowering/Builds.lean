import LoopLang.Proofs.Lowering.Expression

/-! Building: what each of the small steps of lowering statements does, and what it leaves
unfinished. -/

namespace LoopLang

open Code (Module Name Instruction Operand)

namespace Builder

/-- Every function has a block. -/
def Started (builder : Builder) : Prop :=
  ∀ name, builder.code.function? name = none ∨ ∃ label body,
    builder.code.body? ⟨name, label⟩ = some body

/-- What a later builder leaves unfinished: some blocks, and those that were so before and are none
of its business. -/
structure Leaves (builder later : Builder) (pending : List BlockRef) : Prop where
  blocks : ∀ block, later.HasOpen block →
    block ∈ pending ∨ (builder.HasOpen block ∧ builder.block? ≠ some block)
  functions : builder.Started → later.Started

/-- A block that waits for its first instruction: empty, not current, and fit to be jumped to. -/
structure Awaits (builder : Builder) (owner : Name) (block : BlockRef) : Prop where
  target : block.IsTarget builder.code owner
  empty : builder.code.body? block = some []
  apart : builder.block? ≠ some block

/-- What waits goes on waiting while other blocks are emitted into. -/
theorem Grows.awaits {builder later : Builder} (grows : builder.Grows later) {owner : Name}
    {block : BlockRef} (awaits : builder.Awaits owner block) : later.Awaits owner block where
  target := awaits.target.grow grows.code
  empty := grows.others block [] awaits.empty awaits.apart
  apart := grows.elsewhere awaits.empty awaits.apart

/-- A builder that can be added to has its block open. -/
theorem Ready.hasOpen {builder : Builder} (ready : builder.Ready) {block : BlockRef}
    (here : builder.block? = some block) : builder.HasOpen block := by
  obtain ⟨_, same, block_open⟩ := ready
  exact Option.some.inj (same.symm.trans here) ▸ block_open

/-- At the start only the current block is unfinished. -/
theorem Leaves.refl {builder : Builder} {block : BlockRef} (here : builder.block? = some block) :
    builder.Leaves builder [block] where
  blocks := fun other other_open => by
    by_cases same : other = block
    · exact .inl (same ▸ List.mem_singleton_self _)
    · exact .inr ⟨other_open, fun current => same (Option.some.inj (current.symm.trans here))⟩
  functions := id

/-- Functions with blocks keep them while no function is added. -/
theorem Started.grow {builder later : Builder} (started : builder.Started)
    (grows : builder.code.Grows later.code) (handles : later.code.handles = builder.code.handles) :
    later.Started := by
  intro name
  -- There are no new functions, and a first block is not taken away.
  rcases started name with absent | ⟨label, body, found⟩
  · left
    rw [Module.function?_eq_none, handles, ← Module.function?_eq_none]
    exact absent
  · obtain ⟨more, kept⟩ := grows.body? found
    exact .inr ⟨label, _, kept⟩

/-- What is added to the current block leaves unfinished what was so, but for that block. -/
theorem Leaves.adds {base builder later : Builder} {here : BlockRef} {pending : List BlockRef}
    (leaves : base.Leaves builder (here :: pending)) (current : builder.block? = some here)
    {more : List Instruction} (adds : builder.Adds later more) :
    base.Leaves later (here :: pending) where
  blocks := fun block block_open => by
    -- Every other block is what it was, and was left unfinished then.
    by_cases own : block = here
    · exact .inl (own ▸ List.mem_cons_self)
    · obtain ⟨body, found, body_open⟩ := block_open
      rw [adds.others fun same => own (Option.some.inj (same.symm.trans current))] at found
      exact leaves.blocks block ⟨body, found, body_open⟩
  functions := fun started => (leaves.functions started).grow adds.code adds.handles

/-- Of what was unfinished before, the second part of the way may have finished its own block. -/
theorem Leaves.step {base builder later : Builder} {here : BlockRef} {pending after : List BlockRef}
    (first : base.Leaves builder (here :: pending)) (current : builder.block? = some here)
    (second : builder.Leaves later after) : base.Leaves later (after ++ pending) where
  blocks := fun block later_open => by
    -- What the second part leaves is its own, or was there before it, unfinished and not current.
    rcases second.blocks block later_open with own | ⟨earlier, apart⟩
    · exact .inl (List.mem_append_left _ own)
    · rcases first.blocks block earlier with listed | outside
      · rcases List.mem_cons.mp listed with rfl | other
        · exact absurd current apart
        · exact .inl (List.mem_append_right _ other)
      · exact .inr outside
  functions := fun started => second.functions (first.functions started)

/-- A block that is finished is not left. -/
theorem Leaves.finish {base builder : Builder} {here : BlockRef} {pending : List BlockRef}
    (leaves : base.Leaves builder (here :: pending)) (finished : ¬ builder.HasOpen here) :
    base.Leaves builder pending where
  blocks := fun block block_open => by
    rcases leaves.blocks block block_open with listed | outside
    -- The block that is no longer open need not be listed.
    · rcases List.mem_cons.mp listed with rfl | other
      · exact absurd block_open finished
      · exact .inl other
    · exact .inr outside
  functions := leaves.functions

/-- The order of what is unfinished does not matter. -/
theorem Leaves.perm {base builder : Builder} {pending others : List BlockRef}
    (leaves : base.Leaves builder pending) (same : pending.Perm others) :
    base.Leaves builder others where
  blocks := fun block block_open => (leaves.blocks block block_open).imp_left same.mem_iff.mp
  functions := leaves.functions

/-- What is unfinished depends on the code only. -/
theorem Leaves.sameCode {base builder later : Builder} {pending : List BlockRef}
    (leaves : base.Leaves builder pending) (same : later.code = builder.code) :
    base.Leaves later pending where
  blocks := fun block later_open =>
    leaves.blocks block (by simpa only [HasOpen, same] using later_open)
  functions := fun started => by simpa only [Started, same] using leaves.functions started

/-- A block that a terminator was added to is finished. -/
theorem Adds.finished {builder later : Builder} {here : BlockRef} {more : List Instruction}
    (adds : builder.Adds later more) (current : builder.block? = some here)
    {instruction : Instruction} (member : instruction ∈ more)
    (stops : instruction.isTerminator = true) : ¬ later.HasOpen here := by
  rintro ⟨body, found, body_open⟩
  rw [adds.bodies, if_pos current] at found
  obtain ⟨old, _, rfl⟩ := Option.map_eq_some_iff.mp found
  -- An open body has no terminator, but this one has been added to it.
  rw [body_open instruction (List.mem_append_right _ member)] at stops
  cases stops

/-- An empty block is made that was not there, and all else stays as it is. -/
structure Makes (builder later : Builder) (block : BlockRef) : Prop where
  scopes : later.scopes = builder.scopes
  code : builder.code.Grows later.code
  handles : later.code.handles = builder.code.handles
  fresh : builder.code.body? block = none
  bodies : ∀ other, later.code.body? other = if other = block then some []
    else builder.code.body? other

/-- Emission stays in its block. -/
theorem Makes.block? {builder later : Builder} {block : BlockRef}
    (makes : builder.Makes later block) :
    later.block? = builder.block? := by
  rw [Builder.block?, makes.scopes, Builder.block?]

/-- A block that was there is as it was. -/
theorem Makes.others {builder later : Builder} {block : BlockRef}
    (makes : builder.Makes later block) {other : BlockRef} {body : List Instruction}
    (found : builder.code.body? other = some body) :
    later.code.body? other = some body := by
  rw [makes.bodies, if_neg]
  · exact found
  -- The new block was not there before, so it is not the other one.
  · rintro rfl
    rw [makes.fresh] at found
    cases found

/-- Growth goes on when a block is made. -/
theorem Grows.makes {base builder later : Builder} (kept : base.Grows builder) {block : BlockRef}
    (makes : builder.Makes later block) : base.Grows later :=
  kept.trans {
    code := makes.code
    frames := ⟨[], makes.scopes ▸ .refl _⟩
    moved := fun _ here => .inl (makes.block? ▸ here)
    others := fun _ _ found _ => makes.others found }

/-- A block that was there is open if it was. -/
theorem Makes.hasOpen_iff {builder later : Builder} {block : BlockRef}
    (makes : builder.Makes later block) {other : BlockRef} {body : List Instruction}
    (found : builder.code.body? other = some body) :
    later.HasOpen other ↔ builder.HasOpen other := by
  rw [HasOpen, HasOpen, makes.others found, found]

/-- A block that is made is unfinished. -/
theorem Leaves.makes {base builder later : Builder} {pending : List BlockRef}
    (leaves : base.Leaves builder pending) {block : BlockRef} (makes : builder.Makes later block) :
    base.Leaves later (block :: pending) where
  blocks := fun other other_open => by
    obtain ⟨body, found, body_open⟩ := other_open
    rw [makes.bodies] at found
    -- The new block is empty, and every other one is what it was.
    split at found
    · rename_i same
      exact .inl (same ▸ List.mem_cons_self)
    · exact (leaves.blocks other ⟨body, found, body_open⟩).imp_left (List.mem_cons_of_mem _)
  functions := fun started => (leaves.functions started).grow makes.code makes.handles

/-- Emission moves to another block, and all else stays as it is. -/
structure Moves (builder later : Builder) (block : BlockRef) : Prop where
  code : later.code = builder.code
  frames : Continues [] builder.scopes.frames later.scopes.frames
  current : later.block? = some block

/-- Growth goes on when emission moves to a block that is new since the start. -/
theorem Grows.moves {base builder later : Builder} (kept : base.Grows builder) {block : BlockRef}
    (moves : builder.Moves later block) (fresh : base.code.body? block = none) :
    base.Grows later where
  code := moves.code ▸ kept.code
  frames := by
    obtain ⟨more, before⟩ := kept.frames
    exact ⟨_, before.trans moves.frames⟩
  moved := fun found here => by
    -- Code now goes to a block that the base did not have.
    cases Option.some.inj (moves.current.symm.trans here)
    exact .inr fresh
  others := fun other body found apart => moves.code ▸ kept.others other body found apart

/-- The current block gets longer, and blocks are made, while emission stays where it is. -/
structure Prepares (builder later : Builder) (more : List Instruction) : Prop where
  scopes : later.scopes = builder.scopes
  code : builder.code.Grows later.code
  handles : later.code.handles = builder.code.handles
  ends : ∀ here body, builder.block? = some here → builder.code.body? here = some body →
    later.code.body? here = some (body ++ more)

/-- Nothing is prepared at first. -/
theorem Prepares.refl (builder : Builder) : builder.Prepares builder [] :=
  ⟨rfl, .refl _, rfl, fun _ _ _ found => by simpa using found⟩

/-- Instructions are added to what is prepared. -/
theorem Prepares.adds {builder middle later : Builder} {more rest : List Instruction}
    (prepares : builder.Prepares middle more) (adds : middle.Adds later rest) :
    builder.Prepares later (more ++ rest) where
  scopes := adds.scopes.trans prepares.scopes
  code := prepares.code.trans adds.code
  handles := adds.handles.trans prepares.handles
  ends := fun here body current found => by
    -- The block at hand has not changed, so the instructions go behind those before.
    have still : middle.block? = some here := by rw [Builder.block?, prepares.scopes]; exact current
    rw [adds.current still (prepares.ends here body current found), List.append_assoc]

/-- A block is made beside what is prepared. -/
theorem Prepares.makes {builder middle later : Builder} {more : List Instruction}
    {block : BlockRef} (prepares : builder.Prepares middle more)
    (makes : middle.Makes later block) : builder.Prepares later more where
  scopes := makes.scopes.trans prepares.scopes
  code := prepares.code.trans makes.code
  handles := makes.handles.trans prepares.handles
  ends := fun here body current found => makes.others (prepares.ends here body current found)

/-- What is defined stays defined while its block gets longer. -/
theorem Prepares.holds {builder later : Builder} {more : List Instruction}
    (prepares : builder.Prepares later more) {operand : Operand} (holds : builder.Holds operand) :
    later.Holds operand := by
  obtain ⟨block, function, body, at_, owner, found, defined⟩ := holds
  -- An operand that was defined in the block stays so when code is added behind.
  obtain ⟨grown, kept, inside⟩ := prepares.code.functions _ function owner
  have still : later.block? = some block := by rw [Builder.block?, prepares.scopes]; exact at_
  exact ⟨block, grown, body ++ more, still, kept, prepares.ends block body at_ found,
    defined.before inside.parameters more⟩

/-- The current block gets longer for the last time, and emission goes on in an empty block. -/
structure Turns (builder later : Builder) (more : List Instruction) (block : BlockRef) : Prop where
  sound : later.Sound
  code : builder.code.Grows later.code
  handles : later.code.handles = builder.code.handles
  ends : ∀ here body, builder.block? = some here → builder.code.body? here = some body →
    later.code.body? here = some (body ++ more)
  begins : later.code.body? block = some []
  current : later.block? = some block
  owner : ∀ here, builder.block? = some here → block.function = here.function

/-- Emission moves on once all is prepared. -/
theorem Prepares.turns {builder middle later : Builder} {more : List Instruction}
    {block here : BlockRef} (prepares : builder.Prepares middle more) (sound : later.Sound)
    (code : later.code = middle.code) (current : later.block? = some block)
    (begins : middle.code.body? block = some []) (before : builder.block? = some here)
    (owner : block.function = here.function) :
    builder.Turns later more block where
  sound := sound
  code := code ▸ prepares.code
  handles := (congrArg Module.handles code).trans prepares.handles
  ends := fun here body at_ found => code ▸ prepares.ends here body at_ found
  begins := code ▸ begins
  current := current
  -- The block where it stands now is of the function where it stood.
  owner := fun _ at_ => Option.some.inj (before.symm.trans at_) ▸ owner

/-- A name is declared in the current frame, and all else stays as it is. -/
structure Declares (builder later : Builder) (name : String) (binding : Binding) : Prop where
  code : later.code = builder.code
  frames : Continues [(name, binding)] builder.scopes.frames later.scopes.frames
  current : later.block? = builder.block?

/-- Growth goes on when a name is declared. -/
theorem Grows.declares {base builder later : Builder} (kept : base.Grows builder) {name : String}
    {binding : Binding} (declares : builder.Declares later name binding) : base.Grows later where
  code := declares.code ▸ kept.code
  frames := by
    obtain ⟨more, before⟩ := kept.frames
    exact ⟨_, before.trans declares.frames⟩
  moved := fun found here => kept.moved found (declares.current ▸ here)
  others := fun other body found apart => declares.code ▸ kept.others other body found apart

/-- The builder in front of a frame that is opened in it. -/
def pushed (builder : Builder) (block : BlockRef) (options : FrameOptions) : Builder :=
  { builder with scopes := builder.scopes.push (some block) options }

end Builder

namespace Lowering

variable {α β : Type} {base start : Builder}

/-- A failure on the way: what was built is sound, a block is unfinished, and lowering is not to
blame. -/
def Fails (base : Builder) (failure : Failure) (finish : Builder) : Prop :=
  finish.Sound ∧ base.Grows finish ∧ (∃ block, finish.HasOpen block) ∧ ¬ failure.IsInternal

/-- Whether the current block has its terminator can be seen. -/
theorem isTerminated_ends {done : Bool → Builder → Prop} {failed : Failure → Builder → Prop}
    (sound : start.Sound) {here : BlockRef} (current : start.block? = some here) :
    isTerminated.Ends start done failed ↔ done (start.code.isTerminated here) start := by
  unfold isTerminated
  rw [bind_ends, cursor_ends (sound.aligned here current)]
  exact Iff.rfl

/-- The current block is open exactly if it is seen to have no terminator. -/
theorem hasOpen_iff (sound : start.Sound) {here : BlockRef} (current : start.block? = some here) :
    start.HasOpen here ↔ start.code.isTerminated here = false := by
  -- In a sound builder the block at hand exists.
  obtain ⟨body, found⟩ := sound.body? current
  rw [Module.isTerminated_iff found]
  constructor
  · rintro ⟨_, held, inside⟩
    rw [found] at held
    cases held
    exact inside
  · exact fun inside => ⟨body, found, inside⟩

section Steps

variable {here : BlockRef} {failed : Failure → Builder → Prop}

/-- A terminator that fits is added to an open block. -/
theorem terminate_adds (sound : start.Sound) (current : start.block? = some here)
    (here_open : start.HasOpen here) {instruction : Instruction}
    (reserved : instruction.reserved? = none) (result : instruction.result? = none)
    (fits : start.Admits fun _ => instruction) :
    (terminate instruction).Ends start
      (fun _ finish => finish.Sound ∧ start.Adds finish [instruction]) failed := by
  unfold terminate
  -- The block is open, so the terminator is emitted.
  rw [bind_ends, isTerminated_ends sound current, (hasOpen_iff sound current).mp here_open]
  exact emitUnnamed_adds sound ⟨here, current, here_open⟩ reserved result fits

/-- A jump goes to a block of the function. -/
theorem jump_adds (sound : start.Sound) (current : start.block? = some here)
    (here_open : start.HasOpen here) {block : BlockRef}
    (target : block.IsTarget start.code here.function) :
    (terminate (.jump block.label)).Ends start
      (fun _ finish => finish.Sound ∧ start.Adds finish [.jump block.label]) failed := by
  refine terminate_adds sound current here_open rfl rfl ?_
  intro found function body _ at_ owner _ body_open
  rw [current] at at_
  cases at_
  -- The block is one of the function that the jump is in.
  obtain ⟨_, held, found, inside⟩ := target
  rw [owner] at found
  cases found
  exact ⟨body_open, by simp [Instruction.operands], by simpa [Instruction.targets] using inside,
    by simp [Instruction.accessed?], trivial⟩

/-- A jump is made where one is needed, and behind it the current block is finished. -/
theorem jumpUnlessTerminated_adds (sound : start.Sound) (current : start.block? = some here)
    {block : BlockRef} (target : block.IsTarget start.code here.function) :
    (jumpUnlessTerminated block).Ends start (fun _ finish => finish.Sound ∧ ¬ finish.HasOpen here ∧
      ∃ more, start.Adds finish more ∧ (start.HasOpen here → more = [.jump block.label]))
        failed := by
  unfold jumpUnlessTerminated
  rw [bind_ends, isTerminated_ends sound current]
  -- A block that has its terminator gets nothing more.
  cases seen : start.code.isTerminated here with
  | true =>
    have finished : ¬ start.HasOpen here := by
      rw [hasOpen_iff sound current, seen]
      nofun
    exact ⟨sound, finished, [], .refl start, fun here_open => absurd here_open finished⟩
  | false =>
    have here_open := (hasOpen_iff sound current).mpr seen
    exact (jump_adds sound current here_open target).imp
      (fun _ _ held => ⟨held.1, held.2.finished current (List.mem_singleton_self _) rfl, _, held.2,
        fun _ => rfl⟩)
      fun _ _ held => held

/-- A new block of a function. -/
theorem addBlock_makes (sound : start.Sound) {owner : Name} {function : Code.Function}
    (found : start.code.function? owner = some function) (name : String) :
    (addBlock owner name).Ends start
      (fun block finish => finish.Sound ∧ start.Makes finish block ∧ block.function = owner)
        failed := by
  have grows := sound.tidy.addBlock_grows name owner
  -- Growth of the code, no new handle, a fresh label, and an empty body under it.
  refine addBlock_ends.mpr ⟨?_, ⟨rfl, grows, ?_, ?_, ?_⟩, rfl⟩
  · exact sound.withCode grows (sound.tidy.addBlock name owner)
      (sound.valid.addBlock sound.tidy found name)
  · exact Module.handles_inFunction _ _ fun _ => rfl
  · exact sound.tidy.addBlock_fresh name owner
  · exact sound.tidy.body?_addBlock name found

/-- A new block of the current function waits to be emitted into. -/
theorem createBlock_makes (sound : start.Sound) (current : start.block? = some here)
    (name : String) :
    (createBlock name).Ends start (fun block finish => finish.Sound ∧ start.Makes finish block ∧
      finish.Awaits here.function block) failed := by
  obtain ⟨body, found⟩ := sound.body? current
  obtain ⟨function, owner, inside⟩ := Option.bind_eq_some_iff.mp found
  unfold createBlock
  rw [bind_ends, scopes_ends, sound.function? current]
  refine (addBlock_makes sound owner name).imp (fun block finish held => ?_) fun _ _ held => held
  obtain ⟨finish_sound, makes, belongs⟩ := held
  refine ⟨finish_sound, makes, ⟨⟨belongs, ?_⟩, by rw [makes.bodies, if_pos rfl], fun here => ?_⟩⟩
  -- The function begins in an older block.
  · obtain ⟨first, entry, begun, standing⟩ := Code.Function.start?_of_body? inside
    obtain ⟨grown, kept, larger⟩ := makes.code.functions _ function owner
    refine ⟨grown, kept, ⟨[], ?_⟩, first, larger.start first begun, fun equal => ?_⟩
    · have empty := makes.bodies block
      simpa [Module.body?, belongs, kept] using empty
    · have absent : function.body? block.label = none := by
        simpa [Module.body?, belongs, owner] using makes.fresh
      rw [equal, absent] at standing
      cases standing
  -- The block that code is emitted into was there before.
  · rw [makes.block?, current] at here
    have absent := makes.fresh
    rw [← Option.some.inj here, found] at absent
    cases absent

/-- Emission moves to a block of the same function. -/
theorem moveTo_moves (sound : start.Sound) (current : start.block? = some here) {block : BlockRef}
    (same : block.function = here.function) (placed : ∃ body, start.code.body? block = some body) :
    (moveTo block).Ends start (fun _ finish => finish.Sound ∧ start.Moves finish block) failed := by
  obtain ⟨frame, innermost, _⟩ := Option.bind_eq_some_iff.mp current
  obtain ⟨outer, opened⟩ := List.head?_eq_some_iff.mp innermost
  -- The innermost frame goes on at the block, and the others stay where they are.
  have moved : start.scopes.moveTo block =
      .ok { start.scopes with
        frames := { frame with block := some block } :: outer, cursor := some block } := by
    simp [Scopes.moveTo, opened]
  unfold moveTo
  rw [bind_ends, scopes_ends, moved]
  refine ⟨sound.moveTo moved current same placed, rfl, ?_, rfl⟩
  show Builder.Continues [] start.scopes.frames ({ frame with block := some block } :: outer)
  rw [opened]
  exact ⟨some block, by simp⟩

/-- A new name is declared in the current frame. -/
theorem declare_declares (sound : start.Sound) (current : start.block? = some here)
    {name : String} {frame : Frame} (innermost : start.scopes.current? = some frame)
    (new : frame.has name = false) {binding : Binding}
    (fits : binding.Fits start.code here.function)
    (own : ∀ slot ∈ binding.slot?, slot ∉ start.scopes.frames.flatMap Frame.slots)
    (place : Location) :
    (declare name binding place).Ends start
      (fun _ finish => finish.Sound ∧ start.Declares finish name binding) failed := by
  obtain ⟨outer, opened⟩ := List.head?_eq_some_iff.mp innermost
  -- The name is new to the innermost frame, so the declaration succeeds.
  have declared : ∃ scopes, start.scopes.declare name binding = .ok scopes := by
    simp [Scopes.declare, opened, new]
  obtain ⟨scopes, declared⟩ := declared
  obtain ⟨_, _, same, _, _, frames⟩ := Builder.declare_ok declared
  rw [opened] at same
  cases same
  unfold declare
  rw [bind_ends, scopes_ends, declared]
  refine ⟨sound.declare declared current fits own, rfl, ?_, ?_⟩
  -- Only the names of this frame have grown.
  · show Builder.Continues [(name, binding)] start.scopes.frames scopes.frames
    rw [opened, frames]
    exact ⟨frame.block, rfl⟩
  · simp [Builder.block?, Scopes.current?, frames, opened]

end Steps

/-- A frame is opened in front of a computation and closed behind it, however that ends. -/
theorem withFrame_ends {action : Lowering α} {done : α → Builder → Prop}
    {refused : Failure → Prop} (kept : base.Grows start) {block : BlockRef}
    {options : FrameOptions} (target : base.block? = some block ∨ base.code.body? block = none)
    (inside : action.Ends (start.pushed block options)
      (fun answer inner => inner.Sound ∧ (start.pushed block options).Grows inner ∧
        done answer inner) (fun failure inner => Fails (start.pushed block options) failure inner ∧
        refused failure)) :
    (withFrame (some block) options action).Ends start
      (fun answer finish => finish.Sound ∧ base.Grows finish ∧
        Builder.Continues [] start.scopes.frames finish.scopes.frames ∧
        ∃ inner, (start.pushed block options).Grows inner ∧ done answer inner ∧
        finish.code = inner.code ∧
          finish.block? = if options.isFunction then start.block? else inner.block?)
      (fun failure finish => Fails base failure finish ∧ refused failure) := by
  -- Closing the frame is the same behind success and behind failure.
  have closes : ∀ {inner : Builder}, inner.Sound → (start.pushed block options).Grows inner →
      ∀ result : Except Failure α, ∃ scopes,
      closeFrame result inner = (result, { inner with scopes }) ∧
        Builder.Sound { inner with scopes } ∧ base.Grows { inner with scopes } ∧
        Builder.Continues [] start.scopes.frames scopes.frames ∧
        ({ inner with scopes } : Builder).block? = if options.isFunction then start.block?
        else inner.block? := by
    intro inner sound grows result
    obtain ⟨scopes, popped, closed⟩ := Builder.Sound.pop kept target grows sound
    exact ⟨scopes, by simp [closeFrame, popped, closed.1.not_adrift], closed⟩
  unfold Ends at inside ⊢
  -- To run in a frame is to run behind the push and to close the frame.
  have run : (withFrame (some block) options action).outcome start =
      closeFrame (action.outcome (start.pushed block options)).1
      (action.outcome (start.pushed block options)).2 := rfl
  rw [run]
  -- Behind a failure the frame is closed as well.
  revert inside
  rcases action.outcome (start.pushed block options) with ⟨failure | answer, inner⟩
  · rintro ⟨⟨sound, grows, unfinished, outside⟩, reason⟩
    obtain ⟨scopes, result, sound, grows, _⟩ := closes sound grows (.error failure)
    rw [result]
    exact ⟨⟨sound, grows, unfinished, outside⟩, reason⟩
  · rintro ⟨sound, grows, answered⟩
    obtain ⟨scopes, result, closed, kept, continues, current⟩ := closes sound grows (.ok answer)
    rw [result]
    exact ⟨closed, kept, continues, inner, grows, answered, rfl, current⟩

end Lowering

end LoopLang
