import LoopLang.Proofs.Lowering.Stage

/-! Lowering branches, loops, and nested blocks, given how their parts lower. -/

namespace LoopLang

open Code (Instruction Operand)

namespace Lowering

variable {α β : Type} {base start : Builder}

/-- Counting a group of blocks adds nothing. -/
theorem nextSuffix_adds {failed : Failure → Builder → Prop} (sound : start.Sound) :
    nextSuffix.Ends start (fun _ finish => finish.Sound ∧ start.Adds finish []) failed := by
  refine nextSuffix_ends.mpr
    ⟨⟨sound.tidy, sound.valid, sound.aligned, sound.fits, sound.enclosed, sound.separate⟩, ?_⟩
  exact ⟨rfl, .refl _, rfl, (Builder.Adds.refl start).bodies⟩

/-- Whether a number differs from zero. -/
def differs (value : Operand) (register : String) : Instruction :=
  .differ register value (.number (.ofFloat 0.0))

/-- A number may be compared with zero. -/
theorem differs_computes (sound : start.Sound) (ready : start.Ready) {value : Operand}
    (holds : start.Holds value) (number : value.kind = .num) :
    (emit "cond" (differs value)).Computes start fun register finish =>
      start.Gains finish register (differs value register) ∧ finish.Holds
        (.register register .bool) := by
  refine (emit_computes sound ready ⟨fun _ => rfl, fun _ => .inr rfl⟩ (fun _ => rfl) ?_).imp
    fun register finish _ held => ⟨held.1, held.2 .bool rfl⟩
  intro block function body name here owner found body_open
  refine ⟨body_open, fun operand member => ?_, by simp [differs, Instruction.targets],
    by simp [differs, Instruction.accessed?], number, rfl⟩
  simp only [differs, Instruction.operands, List.mem_cons, List.not_mem_nil, or_false] at member
  -- The value is compared with a constant, which needs no definition.
  rcases member with rfl | rfl
  · exact holds.isDefined here owner found
  · trivial

/-- A condition gives a truth value. -/
theorem lowerCondition_computes (sound : start.Sound) (ready : start.Ready) (condition : Tree) :
    (lowerCondition condition).Computes start fun operand finish =>
      finish.Holds operand ∧ operand.kind = .bool := by
  have lowered := Tree.lowerExpression_computes_all.1 condition start sound ready
  refine .bind (required_computes lowered) fun value middle sound more holds => ?_
  have middle_ready := more.ready ready
  -- A boolean is used as it is, and a number is compared.
  split
  · exact .pure sound ⟨holds, ‹_›⟩
  · rename_i number
    exact .bind (differs_computes sound middle_ready holds number)
      fun register finish sound _ held =>
        .pure sound ⟨held.2, rfl⟩

/-- A branch on a truth value goes to one of two blocks of the function. -/
theorem branch_adds {failed : Failure → Builder → Prop} (sound : start.Sound) {here : BlockRef}
    (current : start.block? = some here) (here_open : start.HasOpen here) {condition : Operand}
    (holds : start.Holds condition) (kind : condition.kind = .bool)
    {whenTrue whenFalse : BlockRef} (first : whenTrue.IsTarget start.code here.function)
    (second : whenFalse.IsTarget start.code here.function) :
    (terminate (.branch condition whenTrue.label whenFalse.label)).Ends start
      (fun _ finish => finish.Sound ∧ start.Adds finish
        [.branch condition whenTrue.label whenFalse.label]) failed := by
  refine terminate_adds sound current here_open rfl rfl
    fun block function body _ at_ owner found body_open => ?_
  have defined := holds.isDefined at_ owner found
  rw [current] at at_
  cases at_
  -- The function of both targets is the one that is found.
  obtain ⟨_, _, held, first⟩ := first
  obtain ⟨_, _, also, second⟩ := second
  rw [owner] at held also
  cases held
  cases also
  refine ⟨body_open, by simpa [Instruction.operands] using defined, fun target member => ?_,
    by simp [Instruction.accessed?], kind⟩
  simp only [Instruction.targets, List.mem_cons, List.not_mem_nil, or_false] at member
  -- Both targets are blocks of the function that the branch stands in.
  rcases member with rfl | rfl
  · exact first
  · exact second

variable {here : BlockRef} {waiting : List BlockRef} {refused : Failure → Prop}

/-- A condition, with what is known of it besides. -/
theorem Stage.tests (stage : Stage base start here waiting) (here_open : start.HasOpen here)
    {condition : Tree} {done : Operand → Builder → Prop}
    (ends : (lowerCondition condition).Ends start done fun failure _ => refused failure) :
    (lowerCondition condition).Ends start
      (fun value finish => Stage base finish here waiting ∧ finish.HasOpen here ∧
        start.Extends finish ∧ (finish.Holds value ∧ value.kind = .bool) ∧ done value finish)
      (fun failure finish => Fails base failure finish ∧ refused failure) :=
  stage.extends here_open
    (lowerCondition_computes stage.sound (stage.ready here_open) condition) ends

/-- An arm is lowered in the block that waits for it, and jumps on to another one. -/
theorem Stage.arm {origin : Builder} {more : List Instruction} {block merge from_ : BlockRef}
    {arm : Lowering Unit} {next : Unit → Lowering Unit} {done : Unit → Builder → Prop}
    (prepares : origin.Prepares start more) (before : origin.block? = some from_)
    (same : from_.function = here.function) (stage : Stage base start here (block :: waiting))
    (finished : ¬ start.HasOpen here) (target : merge.IsTarget start.code here.function)
    (rest : ∀ begun, origin.Turns begun more block → Builder.Continues
      [] origin.scopes.frames begun.scopes.frames → arm.LowersTo begun block
        (fun ended => ∀ finish last added, Stage base finish last waiting → ¬ finish.HasOpen last →
          last.function = here.function → start.code.Grows finish.code → ended.block? = some last →
          ended.Prepares finish added → (ended.HasOpen last → added = [.jump merge.label]) →
          (next ()).Ends finish done fun failure finish =>
            Fails base failure finish ∧ refused failure) refused) :
    (Lowering.moveTo block >>= fun _ => arm >>= fun _ => jumpUnlessTerminated merge >>= next).Ends
      start done (fun failure finish => Fails base failure finish ∧ refused failure) := by
  have awaits := stage.awaits block List.mem_cons_self
  have owner : block.function = here.function := awaits.target.1
  -- The arm begins in its block, which has waited for it.
  refine .bind (stage.moveTo finished) fun _ begun ⟨stage, begun_open, moves⟩ => ?_
  have turns := prepares.turns stage.sound moves.code moves.current awaits.empty before
    (owner.trans same.symm)
  have frames : Builder.Continues [] origin.scopes.frames begun.scopes.frames :=
    prepares.scopes ▸ moves.frames
  refine bind_ends.mpr
    ((rest begun turns frames).imp (fun _ ended held => ?_) fun failure finish held => ?_)
  -- The arm ends in a block of the same function, from which it goes on to the merge.
  · obtain ⟨⟨last, last_owner, inner⟩, continues⟩ := held
    have code : start.code.Grows ended.code := moves.code ▸ inner.kept.code
    have last_owner : last.function = here.function := last_owner.trans owner
    -- What has waited outside of the arm still waits.
    have stage := stage.through inner (last_owner.trans owner.symm)
    refine .bind (jumpUnlessTerminated_adds stage.sound stage.current
      (last_owner ▸ target.grow code)) fun _ finish held => ?_
    obtain ⟨sound, finished, added, adds, jumps⟩ := held
    have prepares := (Builder.Prepares.refl ended).adds adds
    exact continues finish last added (stage.adds sound adds) finished last_owner
      (code.trans adds.code) stage.current prepares jumps
  -- A failure inside of the arm is one of the whole.
  · exact ⟨held.1.through stage.kept, held.2⟩

/-- A branch with two arms: where each part begins and ends. -/
theorem Stage.choose {condition : Tree} {consequent alternate : Lowering Unit}
    {done : Builder → Prop} (stage : Stage start start here []) (here_open : start.HasOpen here)
    (rest : ∀ counted, counted.Sound → counted.Ready → start.Adds counted [] →
      (lowerCondition condition).Ends counted
        (fun value tested => ∀ first second merge begun,
          tested.Turns begun [.branch value first.label second.label] first → Builder.Continues
            [] tested.scopes.frames begun.scopes.frames → consequent.LowersTo begun first
              (fun ended => ∀ more other, ended.Turns other more second →
                (ended.Ready → more = [.jump merge.label]) → Builder.Continues
                  [] ended.scopes.frames other.scopes.frames → alternate.LowersTo other second
                    (fun closed => ∀ more finish, closed.Turns finish more merge →
                      (closed.Ready → more = [.jump merge.label]) → Builder.Continues
                        [] closed.scopes.frames finish.scopes.frames → done finish) refused)
                          refused) fun failure _ => refused failure) :
    (lowerChoice condition consequent (some alternate)).LowersTo start here done refused := by
  unfold LowersTo lowerChoice
  -- The number of the branch is taken, and then its condition is lowered in the current block.
  refine .bind (nextSuffix_adds stage.sound) fun suffix counted ⟨sound, adds⟩ => ?_
  have stage := stage.adds sound adds
  have here_open : counted.HasOpen here := adds.hasOpen .nil here_open
  refine .bind (stage.tests here_open (rest counted sound (stage.ready here_open) adds))
    fun value tested held => ?_
  obtain ⟨stage, here_open, _, ⟨holds, kind⟩, rest⟩ := held
  have before := stage.current
  -- Three blocks are made, which wait while the current one is still open.
  refine .bind (stage.createBlock _) fun first one ⟨stage, makes, opens⟩ => ?_
  have prepares := (Builder.Prepares.refl tested).makes makes
  have here_open := opens.mpr here_open
  refine .bind (stage.createBlock _) fun second two ⟨stage, makes, opens⟩ => ?_
  have prepares := prepares.makes makes
  have here_open := opens.mpr here_open
  refine .bind (stage.createBlock _) fun merge three ⟨stage, makes, opens⟩ => ?_
  have prepares := prepares.makes makes
  have here_open := opens.mpr here_open
  -- The blocks take their turns in the order in which they were made.
  have stage := stage.perm (List.reverse_perm [first, second, merge])
  have first_target := (stage.awaits first (by simp)).target
  have second_target := (stage.awaits second (by simp)).target
  have merge_target := (stage.awaits merge (by simp)).target
  -- The branch ends the current block.
  refine .bind (branch_adds stage.sound stage.current here_open
    (prepares.holds holds) kind first_target second_target) fun _ branched ⟨sound, adds⟩ => ?_
  have finished := adds.finished stage.current (List.mem_singleton_self _) rfl
  have merge_target := merge_target.grow adds.code
  have prepares := prepares.adds adds
  refine (stage.adds sound adds).arm prepares before rfl finished merge_target
    fun begun turns frames => ?_
  refine (rest first second merge begun turns frames).imp (fun _ ended held => ⟨held.1, ?_⟩)
    fun _ _ held => held
  intro jumped last added stage finished owner code at_ prepares jumps
  -- Behind the first arm the second one begins, from wherever the first has ended.
  have merge_target := owner ▸ merge_target.grow code
  refine stage.arm prepares at_ rfl finished merge_target fun other turns frames => ?_
  have jumps : ended.Ready → added = [.jump merge.label] := fun ready => jumps (ready.hasOpen at_)
  refine (held.2 added other turns jumps frames).imp (fun _ closed held => ⟨held.1, ?_⟩)
    fun _ _ held => held
  intro ending final added stage finished final_owner code at_ prepares jumps
  -- Both arms have ended; what stands behind the branch goes on in the last block.
  have waits := stage.awaits merge (by simp)
  refine (stage.moveTo finished).imp (fun _ finish held => ?_) fun _ _ held => held
  obtain ⟨stage, _, moves⟩ := held
  have jumps : closed.Ready → added = [.jump merge.label] := fun ready => jumps (ready.hasOpen at_)
  refine ⟨⟨merge, waits.target.1.trans (final_owner.trans owner), stage⟩, ?_⟩
  exact held.2 added finish
    (prepares.turns stage.sound moves.code moves.current waits.empty at_ waits.target.1) jumps
    (prepares.scopes ▸ moves.frames)

/-- A branch with one arm: where each part begins and ends. -/
theorem Stage.chooseWhether {condition : Tree} {consequent : Lowering Unit}
    {done : Builder → Prop} (stage : Stage start start here []) (here_open : start.HasOpen here)
    (rest : ∀ counted, counted.Sound → counted.Ready → start.Adds counted [] →
      (lowerCondition condition).Ends counted
        (fun value tested => ∀ first merge begun,
          tested.Turns begun [.branch value first.label merge.label] first → Builder.Continues
            [] tested.scopes.frames begun.scopes.frames → consequent.LowersTo begun first
              (fun ended => ∀ more finish, ended.Turns finish more merge →
                (ended.Ready → more = [.jump merge.label]) → Builder.Continues
                  [] ended.scopes.frames finish.scopes.frames → done finish) refused)
                    fun failure _ => refused failure) :
    (lowerChoice condition consequent none).LowersTo start here done refused := by
  unfold LowersTo lowerChoice
  -- The number and the condition come first, as with two arms.
  refine .bind (nextSuffix_adds stage.sound) fun suffix counted ⟨sound, adds⟩ => ?_
  have stage := stage.adds sound adds
  have here_open : counted.HasOpen here := adds.hasOpen .nil here_open
  refine .bind (stage.tests here_open (rest counted sound (stage.ready here_open) adds))
    fun value tested held => ?_
  obtain ⟨stage, here_open, _, ⟨holds, kind⟩, rest⟩ := held
  have before := stage.current
  -- Two blocks are enough: without an alternative the branch goes to the merge.
  refine .bind (stage.createBlock _) fun first one ⟨stage, makes, opens⟩ => ?_
  have prepares := (Builder.Prepares.refl tested).makes makes
  have here_open := opens.mpr here_open
  refine .bind (stage.createBlock _) fun merge two ⟨stage, makes, opens⟩ => ?_
  have prepares := prepares.makes makes
  have here_open := opens.mpr here_open
  have stage := stage.perm (List.reverse_perm [first, merge])
  have first_target := (stage.awaits first (by simp)).target
  have merge_target := (stage.awaits merge (by simp)).target
  -- The branch ends the current block, and the arm begins in the first of the two.
  refine .bind (branch_adds stage.sound stage.current here_open
    (prepares.holds holds) kind first_target merge_target) fun _ branched ⟨sound, adds⟩ => ?_
  have finished := adds.finished stage.current (List.mem_singleton_self _) rfl
  have merge_target := merge_target.grow adds.code
  have prepares := prepares.adds adds
  refine (stage.adds sound adds).arm prepares before rfl finished merge_target
    fun begun turns frames => ?_
  refine (rest first merge begun turns frames).imp (fun _ ended held => ⟨held.1, ?_⟩)
    fun _ _ held => held
  intro jumped last added stage finished owner code at_ prepares jumps
  -- The arm has ended; what stands behind the branch goes on in the second block.
  have waits := stage.awaits merge (by simp)
  refine (stage.moveTo finished).imp (fun _ finish held => ?_) fun _ _ held => held
  obtain ⟨stage, _, moves⟩ := held
  have jumps : ended.Ready → added = [.jump merge.label] := fun ready => jumps (ready.hasOpen at_)
  refine ⟨⟨merge, waits.target.1.trans owner, stage⟩, ?_⟩
  exact held.2 added finish
    (prepares.turns stage.sound moves.code moves.current waits.empty at_ waits.target.1) jumps
    (prepares.scopes ▸ moves.frames)

/-- A branch lowers if its arms do. -/
theorem lowerChoice_lowers {condition : Tree} {consequent : Lowering Unit}
    {alternate : Option (Lowering Unit)} (consequent_lowers : Lowers consequent)
    (alternate_lowers : ∀ arm ∈ alternate, Lowers arm) :
    Lowers (lowerChoice condition consequent alternate) := by
  intro start here stage here_open
  -- Nothing is asked of the condition beyond what the stages say.
  have tests : ∀ counted, (lowerCondition condition).Ends counted (fun _ _ => True) fun _ _ =>
      True := fun _ => .any
  cases alternate with
  | none =>
    refine stage.chooseWhether here_open fun counted _ _ _ =>
      (tests counted).imp (fun _ tested _ => ?_) fun _ _ held => held
    intro first merge begun turns _
    exact (consequent_lowers begun first turns.stage turns.hasOpen).imp
      (fun _ _ held => ⟨held.1, fun _ _ _ _ _ => trivial⟩) fun _ _ held => held
  -- The second arm begins in its own block, and both end where they meet.
  | some arm =>
    refine stage.choose here_open fun counted _ _ _ => (tests counted).imp (fun _ tested _ => ?_)
      fun _ _ held => held
    intro first second merge begun turns _
    refine (consequent_lowers begun first turns.stage turns.hasOpen).imp
      (fun _ ended held => ⟨held.1, ?_⟩) fun _ _ held => held
    intro _ other turns _ _
    exact (alternate_lowers arm rfl other second turns.stage turns.hasOpen).imp
      (fun _ _ held => ⟨held.1, fun _ _ _ _ _ => trivial⟩) fun _ _ held => held

/-- A frame within the current function is opened at a block of that function. -/
theorem pushed_sound (sound : start.Sound) {here block : BlockRef}
    (current : start.block? = some here) (same : block.function = here.function)
    (placed : ∃ body, start.code.body? block = some body) (options : FrameOptions)
    (function : options.function = none) (opens : options.isFunction = false)
    (nextRound : ∀ target ∈ options.nextRound, target.IsTarget start.code here.function)
    (loopExit : ∀ target ∈ options.loopExit, target.IsTarget start.code here.function)
    (loop : options.isLoop = true → options.nextRound.isSome ∧ options.loopExit.isSome) :
    (start.pushed block options).Sound := by
  obtain ⟨frame, innermost, emits⟩ := Option.bind_eq_some_iff.mp current
  obtain ⟨outer, opened⟩ := List.head?_eq_some_iff.mp innermost
  obtain ⟨body, found⟩ := placed
  have around := sound.fits frame (List.mem_of_head? innermost)
  -- The new frame is in the function that the frame around it is in.
  have belongs : (Frame.opened (some block) options start.scopes.current?).function =
      some here.function := by
    simp [Frame.opened, function, innermost, around.function emits]
  have home : (Frame.opened (some block) options start.scopes.current?).home = here.function := by
    rw [Frame.home, belongs, Option.getD_some]
  -- A frame within a function says nothing of a result, and its loop is one of that function.
  refine sound.push ⟨⟨block, body, rfl, belongs.trans (congrArg some same.symm), found⟩,
    List.forall_mem_nil _, ?_, ?_, loop, ?_⟩ ⟨?_, sound.enclosed⟩
  · exact fun target member => home ▸ nextRound target member
  · exact fun target member => home ▸ loopExit target member
  · intro function
    simp [Frame.opened, opens] at function
  · rw [if_neg (by simp [Frame.opened, opens])]
    exact ⟨frame, outer, opened, (around.home_eq emits).trans home.symm⟩

/-- A part in a frame of its own within the current function; emission goes on where the frame
ends. -/
theorem Stage.within {action : Lowering Unit} {block : BlockRef} (options : FrameOptions)
    {done : Builder → Prop} (kept : base.Grows start)
    (target : base.block? = some block ∨ base.code.body? block = none)
    (opens : options.isFunction = false) (leaves : base.Leaves start (block :: waiting))
    (awaits : ∀ other ∈ waiting, (start.pushed block options).Awaits block.function other)
    (fresh : ∀ other ∈ waiting, base.code.body? other = none) (distinct : waiting.Nodup)
    (inside : action.LowersTo (start.pushed block options) block done refused) :
    (withFrame (some block) options action).Ends start
      (fun _ finish => Builder.Continues [] start.scopes.frames finish.scopes.frames ∧
        ∃ inner last, last.function = block.function ∧ inner.block? = some last ∧
        Stage base finish last waiting ∧
          (start.pushed block options).code.Grows inner.code ∧ finish.code = inner.code ∧
          done inner)
      (fun failure finish => Fails base failure finish ∧ refused failure) := by
  -- Inside the frame a stage begins in which nothing waits.
  have builds : action.Ends (start.pushed block options)
      (fun _ inner => inner.Sound ∧ (start.pushed block options).Grows inner ∧
        ∃ last, last.function = block.function ∧ Stage (start.pushed block options) inner last [] ∧
        done inner)
      (fun failure inner => Fails (start.pushed block options) failure inner ∧ refused failure) :=
    Ends.imp inside (fun _ inner held => by
      obtain ⟨⟨last, owner, stage⟩, answered⟩ := held
      exact ⟨stage.sound, stage.kept, last, owner, stage, answered⟩) fun _ _ held => held
  -- Closing the frame keeps what the contents have done.
  refine Ends.imp (withFrame_ends kept target builds) (fun _ finish held => ?_) fun _ _ held => held
  obtain ⟨sound, kept, frames, inner, grows, ⟨last, owner, stage, answered⟩, code, current⟩ := held
  rw [opens, if_neg (by simp), stage.current] at current
  refine ⟨frames, inner, last, owner, stage.current,
    ⟨sound, kept, current, ?_, fun other member => ?_, fresh, distinct⟩, grows.code, code, answered⟩
  · have begun : base.Leaves (start.pushed block options) (block :: waiting) := leaves.sameCode rfl
    exact (begun.step rfl stage.leaves).sameCode code
  -- Blocks that wait outside are not touched inside, so they go on to wait.
  · have waits := grows.awaits (awaits other member)
    rw [owner]
    exact ⟨by rw [code]; exact waits.target, by rw [code]; exact waits.empty,
      by rw [current, ← stage.current]; exact waits.apart⟩

/-- A nested block: where its inside begins and ends. -/
theorem Stage.nest {body : Lowering Unit} {done : Builder → Prop}
    (stage : Stage start start here []) (here_open : start.HasOpen here)
    (rest : Stage (start.pushed here {}) (start.pushed here {}) here [] →
      body.LowersTo (start.pushed here {}) here
        (fun ended => ∀ finish, finish.code = ended.code → finish.block? = ended.block? →
          Builder.Continues [] start.scopes.frames finish.scopes.frames → done finish) refused) :
    (inBlock body).LowersTo start here done refused := by
  have placed : ∃ body, start.code.body? here = some body := by
    obtain ⟨body, found, _⟩ := here_open
    exact ⟨body, found⟩
  -- A frame with no options, which stands in the block of the one around it.
  have sound := pushed_sound stage.sound stage.current rfl placed {} rfl rfl nofun nofun nofun
  unfold LowersTo inBlock
  rw [bind_ends, scopes_ends, stage.sound.aligned here stage.current]
  refine Ends.imp (Stage.within {} stage.kept (.inl stage.current) rfl stage.leaves
    (List.forall_mem_nil _)
    (List.forall_mem_nil _) List.nodup_nil (rest (.refl sound rfl))) (fun _ finish held => ?_)
      fun _ _ held => held
  obtain ⟨frames, inner, last, owner, at_, finished, _, code, continues⟩ := held
  exact ⟨⟨last, owner, finished⟩, continues finish code (finished.current.trans at_.symm) frames⟩

/-- A nested block lowers if its inside does. -/
theorem inBlock_lowers {body : Lowering Unit} (lowers : Lowers body) : Lowers (inBlock body) := by
  intro start here stage here_open
  exact stage.nest here_open fun inner => (lowers _ here inner here_open).imp
    (fun _ _ held => ⟨held.1, fun _ _ _ _ => trivial⟩) fun _ _ held => held

/-- The frame of a loop. -/
def loopOptions (head behind : BlockRef) (label : Option String) : FrameOptions :=
  { isLoop := true, nextRound := some head, loopExit := some behind, label }

/-- A loop: where its condition and its body begin and end. -/
theorem Stage.loop {condition : Tree} {label : Option String} {body : Lowering Unit}
    {done : Builder → Prop} (stage : Stage start start here []) (here_open : start.HasOpen here)
    (rest : ∀ entered head, start.Turns entered [.jump head.label] head → Builder.Continues
      [] start.scopes.frames entered.scopes.frames → (lowerCondition condition).Ends entered
        (fun value tested => ∀ inside behind begun,
          tested.Turns begun [.branch value inside.label behind.label] inside →
          begun.scopes.frames = Frame.opened inside
            (loopOptions head behind label) tested.scopes.current? :: tested.scopes.frames →
            body.LowersTo begun inside
              (fun ended => ∀ more finish, ended.Turns finish more behind →
                (ended.Ready → more = [.jump head.label]) → Builder.Continues
                  [] tested.scopes.frames finish.scopes.frames → done finish) refused)
                    fun failure _ => refused failure) :
    (lowerLoop condition label body).LowersTo start here done refused := by
  unfold LowersTo lowerLoop
  -- The number comes first, then the three blocks of the loop.
  refine .bind (nextSuffix_adds stage.sound) fun suffix counted ⟨sound, adds⟩ => ?_
  have before := stage.current
  have stage := stage.adds sound adds
  have here_open : counted.HasOpen here := adds.hasOpen .nil here_open
  have prepares := (Builder.Prepares.refl start).adds adds
  refine .bind (stage.createBlock _) fun head one ⟨stage, makes, opens⟩ => ?_
  have prepares := prepares.makes makes
  have here_open := opens.mpr here_open
  refine .bind (stage.createBlock _) fun inside two ⟨stage, makes, opens⟩ => ?_
  have prepares := prepares.makes makes
  have here_open := opens.mpr here_open
  refine .bind (stage.createBlock _) fun behind three ⟨stage, makes, opens⟩ => ?_
  have prepares := prepares.makes makes
  have here_open := opens.mpr here_open
  have stage := stage.perm (List.reverse_perm [head, inside, behind])
  have head_target := (stage.awaits head (by simp)).target
  have owner := head_target.1
  -- The current block goes on to the condition, whose block is the first to be filled.
  refine .bind (jump_adds stage.sound stage.current here_open head_target)
    fun _ jumped ⟨sound, adds⟩ => ?_
  have finished := adds.finished stage.current (List.mem_singleton_self _) rfl
  have head_target := head_target.grow adds.code
  have prepares := prepares.adds adds
  have stage := stage.adds sound adds
  have head_waits := stage.awaits head (by simp)
  refine .bind (stage.moveTo finished) fun _ entered ⟨stage, here_open, moves⟩ => ?_
  rw [← moves.code] at head_target
  have turns := prepares.turns stage.sound moves.code moves.current head_waits.empty before owner
  refine .bind (stage.tests here_open (rest entered head turns (prepares.scopes ▸ moves.frames)))
    fun value tested held => ?_
  obtain ⟨stage, here_open, more, ⟨holds, kind⟩, rest⟩ := held
  have head_target := head_target.grow more.code
  have at_head := stage.current
  -- The condition decides between the body and what stands behind the loop.
  refine .bind (branch_adds stage.sound stage.current here_open holds kind
    (stage.awaits inside (by simp)).target
    (stage.awaits behind (by simp)).target) fun _ branched ⟨sound, adds⟩ => ?_
  have finished := adds.finished stage.current (List.mem_singleton_self _) rfl
  have head_target := head_target.grow adds.code
  have prepares := (Builder.Prepares.refl tested).adds adds
  have stage := stage.adds sound adds
  have inside_waits := stage.awaits inside (by simp)
  have behind_waits := stage.awaits behind (by simp)
  obtain ⟨apart, distinct⟩ := List.nodup_cons.mp stage.distinct
  -- The body begins in the frame of the loop, which knows where its jumps go.
  have sound : (branched.pushed inside (loopOptions head behind label)).Sound := by
    refine pushed_sound stage.sound stage.current inside_waits.target.1
      ⟨_, inside_waits.empty⟩ _ rfl rfl
      (fun target member => ?_) (fun target member => ?_) fun _ => ⟨rfl, rfl⟩
    · cases member
      exact owner ▸ head_target
    · cases member
      exact behind_waits.target
  have turns := prepares.turns sound rfl rfl inside_waits.empty at_head inside_waits.target.1
  have frames : (branched.pushed inside (loopOptions head behind label)).scopes.frames =
      Frame.opened inside (loopOptions head behind label) tested.scopes.current? ::
      tested.scopes.frames := by
    rw [← prepares.scopes]
    rfl
  -- The body jumps back to the condition, still within its frame.
  have round : (body >>= fun _ => jumpUnlessTerminated head).LowersTo
      (branched.pushed inside (loopOptions head behind label)) inside
      (fun inner => (∀ last, inner.block? = some last → ¬ inner.HasOpen last) ∧
        ∃ (ended : Builder) (more : List Instruction), ended.Prepares inner more ∧
          (ended.Ready → more = [.jump head.label]) ∧
          ∀ more finish, ended.Turns finish more behind →
          (ended.Ready → more = [.jump head.label]) →
            Builder.Continues [] tested.scopes.frames finish.scopes.frames → done finish)
              refused := by
    refine bind_ends.mpr
      ((rest inside behind _ turns frames).imp (fun _ ended held => ?_) fun _ _ held => held)
    obtain ⟨⟨last, last_owner, stage⟩, continues⟩ := held
    -- The block of the condition is still there at the end of the body.
    have target : head.IsTarget ended.code last.function := by
      rw [last_owner, inside_waits.target.1, owner]
      exact head_target.grow stage.kept.code
    refine (jumpUnlessTerminated_adds stage.sound stage.current target).imp (fun _ inner held => ?_)
      fun _ _ held => held
    obtain ⟨sound, finished, added, adds, jumps⟩ := held
    refine ⟨⟨last, last_owner, stage.adds sound adds⟩, fun other at_ => ?_, ended, added,
      (Builder.Prepares.refl ended).adds adds,
      fun ready => jumps (ready.hasOpen stage.current), continues⟩
    rw [adds.block?, stage.current] at at_
    exact Option.some.inj at_ ▸ finished
  -- Behind the body its frame is closed, and what stands behind the loop has waited for its turn.
  refine .bind (Stage.within _ stage.kept (.inr (stage.fresh inside (by simp))) rfl
    (stage.leaves.finish finished) (fun other member => ?_)
    (fun other member => stage.fresh other (.tail _ member)) distinct round) fun _ popped held => ?_
  · have waits := stage.awaits other (.tail _ member)
    rw [inside_waits.target.1]
    refine ⟨waits.target, waits.empty, fun same => apart ?_⟩
    rw [show inside = other from Option.some.inj same]
    exact member
  · obtain ⟨frames, inner, last, last_owner, at_, stage, _, code, finished, ended, added, more,
      jumps, continues⟩ := held
    have ended_there : ended.block? = some last := by
      rw [Builder.block?, ← more.scopes]
      exact at_
    have finished : ¬ popped.HasOpen last := by
      simpa only [Builder.HasOpen, code] using finished last at_
    have waits := stage.awaits behind (by simp)
    refine (stage.moveTo finished).imp (fun _ finish held => ?_) fun _ _ held => held
    obtain ⟨stage, _, moves⟩ := held
    refine ⟨⟨behind, behind_waits.target.1.trans owner, stage⟩, continues added finish ?_ jumps ?_⟩
    · exact more.turns stage.sound (moves.code.trans code) moves.current
        (code ▸ waits.empty) ended_there waits.target.1
    · have moved := frames.trans moves.frames
      rwa [prepares.scopes] at moved

/-- A loop lowers if its body does. -/
theorem lowerLoop_lowers {condition : Tree} {label : Option String} {body : Lowering Unit}
    (lowers : Lowers body) :
    Lowers (lowerLoop condition label body) := by
  intro start here stage here_open
  refine stage.loop here_open fun entered _ _ _ => Ends.any.imp (fun _ tested _ => ?_)
    fun _ _ held => held
  -- The loop is done around its body, of which this is asked only.
  intro inside _ begun turns _
  exact (lowers begun inside turns.stage turns.hasOpen).imp
    (fun _ _ held => ⟨held.1, fun _ _ _ _ _ => trivial⟩) fun _ _ held => held

end Lowering

end LoopLang
