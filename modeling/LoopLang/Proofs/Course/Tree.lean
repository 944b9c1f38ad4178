import LoopLang.Proofs.Course.Flow

/-! The courses of whole trees: every statement of whatever shape is a passage. -/

namespace LoopLang

open Code (Instruction Name Operand Unended)

namespace Lowering

variable {α β : Type} {action : Lowering α} {base start finish : Builder} {before acts : List Act}
  {here : BlockRef} {waiting targets : List BlockRef}

/-- A function that was created is what its declaration says of it. -/
theorem Creates.fits {finish : Builder} {parameters : List TypedName} {result : ExactKind}
    {function : Code.Function} {owner : Name}
    (creates : Creates start finish parameters result function) :
    (Binding.fn function.name (.exact result)
      (parameters.map fun parameter => parameter.kind.exact)).Fits finish.code owner := by
  refine ⟨function, creates.found, by rw [creates.result], ?_⟩
  -- The function of the code has the kinds of the parameters, which the binding states as exact
  -- ones.
  have kinds := congrArg (List.map ValueKind.exact) creates.kinds
  simpa [Function.comp_def] using kinds.symm

namespace Course

/-- What flows on and goes where it may is a passage. -/
theorem Travels.of_flows {action : Lowering Unit} {course : Course action}
    (flows : ∀ {start here}, Builder.Sound start → start.block? = some here → start.HasOpen here →
      course.Flows start)
    (lowers : ∀ {start here}, Stage start start here [] → start.HasOpen here →
      action.LowersTo start here (fun finish => start.code.Aims start.LoopTarget finish.code)
        fun _ => True) :
    course.Travels := by
  intro start here stage here_open
  -- The passage begins here, with no block that is waited for.
  refine (Passage.refl stage.sound).leads_on (flows stage.sound stage.current here_open)
    ((lowers stage here_open).imp (fun _ finish held => ?_) fun _ _ _ => trivial)
  obtain ⟨⟨last, owner, ended⟩, aims⟩ := held
  exact ⟨ended.kept.code, aims.imp fun _ => .inr⟩

/-- An expression whose value is dropped is a passage. -/
theorem expression_travels (expression : Tree) :
    (Course.bind expression.expressionCourse fun _ => .still (.pure ())).Travels := by
  refine .of_flows (fun sound current here_open => ?_) fun stage here_open => ?_
  · exact .last (expression.expressionCourse_flows sound ⟨_, current, here_open⟩)
  · exact stage.drops here_open
      (Ends.any.imp (fun _ _ _ more => more.aims) fun _ _ held => held)

/-- A declaration is a passage: it goes to no block. -/
theorem lowerDeclaration_travels (place : Location) (name stated value : Tree) :
    (lowerDeclaration place name stated value).Travels := by
  refine .of_flows (fun sound current here_open =>
    lowerDeclaration_flows sound current here_open place name stated value)
    fun stage here_open => ?_
  -- Only a tree that carries a kind is taken for a stated one.
  by_cases carried : ∃ kind, stated = .kindValue kind
  · obtain ⟨kind, rfl⟩ := carried
    refine stage.declaration here_open place name kind (fun _ _ _ => ?_) (fun _ _ _ => trivial)
      fun _ _ => trivial
    refine Ends.any.imp (fun _ _ _ => ⟨fun _ more _ binds => ?_, fun _ _ => trivial⟩)
      fun _ _ held => held
    exact more.aims.trans more.code binds.aims fun _ => .inl
  -- Without a kind nothing is lowered at all.
  · rw [not_exists] at carried
    rw [lowerDeclaration_eq, carriedKind_eq_stop carried, stop_bind]
    exact ⟨stage.fails here_open (not_not_intro trivial), trivial⟩

/-- What returns goes nowhere. -/
theorem returning_targets (answer : Option Operand) : (returning answer).targets = [] := by
  cases answer <;> rfl

/-- What returns is a passage. -/
theorem lowerReturn_travels (place : Location) (value : Tree) :
    (lowerReturn place value).Travels := by
  refine .of_flows (fun sound current here_open =>
    lowerReturn_flows sound ⟨_, current, here_open⟩ place value)
    fun stage here_open => stage.returns here_open place fun _ _ =>
      Ends.any.imp (fun answer _ _ => ⟨fun _ more _ _ adds => ?_,
      fun _ _ => trivial⟩) fun _ _ held => held
  refine more.aims.trans more.code (adds.aims fun _ _ _ member target leads => ?_) fun _ => .inl
  -- The only instruction is the return itself, which leads nowhere.
  rw [List.mem_singleton.mp member, returning_targets] at leads
  cases leads

/-- A jump is a passage: it goes to a block of a loop that is open. -/
theorem lowerJump_travels (jump : Jump) (place : Location) (label : Option String) :
    (lowerJump jump place label).Travels := by
  refine .of_flows (fun sound current here_open =>
    lowerJump_flows sound ⟨_, current, here_open⟩ jump place label)
    fun {start here} stage here_open => stage.jumps here_open jump place label
      (fun frame block meant goes target _ adds => ?_) fun _ _ => trivial
  obtain ⟨current, innermost, -⟩ := Option.bind_eq_some_iff.mp stage.current
  obtain ⟨outer, opened⟩ := List.head?_eq_some_iff.mp innermost
  -- The loop that is meant is one of the open frames, so its blocks are those of an open loop.
  have enclosed := stage.sound.enclosed
  rw [Scopes.loopFrame?, opened] at meant
  rw [opened] at enclosed
  obtain ⟨member, -⟩ := enclosed.loopFrame meant
  refine adds.aims fun other at_ _ listed label leads => ?_
  cases at_.symm.trans stage.current
  cases List.mem_singleton.mp listed
  cases List.mem_singleton.mp leads
  rw [← target.1]
  refine ⟨frame, opened ▸ member, ?_⟩
  cases jump with
  | «break» => exact .inr goes
  | «continue» => exact .inl goes

/-- Behind a condition and its branch the arms are parts of the passage. -/
theorem lowerChoice_travels {condition : Tree} {consequent : Lowering Unit}
    {alternate : Option (Lowering Unit)} {first : Course consequent}
    {second : ∀ second ∈ alternate, Course second} (first_travels : first.Travels)
    (first_lowers : Lowers consequent)
    (second_travels : ∀ arm stands, (second arm stands).Travels)
    (second_lowers : ∀ arm ∈ alternate, Lowers arm) :
    (lowerChoice condition first second).Travels := by
  intro start here stage here_open
  cases alternate with
  | none =>
    unfold lowerChoice
    -- One arm: two blocks are made, one for it and one behind it.
    refine ((Passage.refl stage.sound).counts stage.sound).then
      fun suffix counted acts ⟨passage, sound, adds⟩ => ?_
    have stage := stage.adds sound adds
    refine (passage.tests stage (adds.hasOpen .nil here_open) condition).then
      fun value tested acts held => ?_
    obtain ⟨passage, stage, here_open, -, holds, kind⟩ := held
    refine (passage.creates stage here_open _).then
      fun one first acts ⟨passage, stage, here_open, makes⟩ => ?_
    have prepares := (Builder.Prepares.refl tested).makes makes
    refine (passage.creates stage here_open _).then
      fun merge second acts ⟨passage, stage, here_open, makes⟩ => ?_
    have holds := (prepares.makes makes).holds holds
    have stage := stage.perm (List.reverse_perm [one, merge])
    refine (passage.branches stage here_open holds kind (stage.awaits one (by simp)).target
      (stage.awaits merge (by simp)).target (by simp) (by simp)).then
        fun _ branched acts ⟨passage, stage, finished, _⟩ => ?_
    exact passage.takes_arm stage finished first_travels first_lowers (by simp) (by simp)
      fun passage stage finished =>
        passage.arrives stage finished
  | some arm =>
    unfold lowerChoice
    -- Two arms: three blocks are made, in the order of the text.
    refine ((Passage.refl stage.sound).counts stage.sound).then
      fun suffix counted acts ⟨passage, sound, adds⟩ => ?_
    have stage := stage.adds sound adds
    refine (passage.tests stage (adds.hasOpen .nil here_open) condition).then
      fun value tested acts held => ?_
    obtain ⟨passage, stage, here_open, -, holds, kind⟩ := held
    refine (passage.creates stage here_open _).then
      fun one first acts ⟨passage, stage, here_open, makes⟩ => ?_
    have prepares := (Builder.Prepares.refl tested).makes makes
    refine (passage.creates stage here_open _).then
      fun other second acts ⟨passage, stage, here_open, makes⟩ => ?_
    have prepares := prepares.makes makes
    refine (passage.creates stage here_open _).then
      fun merge third acts ⟨passage, stage, here_open, makes⟩ => ?_
    have holds := (prepares.makes makes).holds holds
    -- The blocks take their turns in the order in which they were made.
    have stage := stage.perm (List.reverse_perm [one, other, merge])
    refine (passage.branches stage here_open holds kind (stage.awaits one (by simp)).target
      (stage.awaits other (by simp)).target (by simp) (by simp)).then
        fun _ branched acts ⟨passage, stage, finished, _⟩ => ?_
    exact passage.takes_arm stage finished first_travels first_lowers (by simp) (by simp)
      fun passage stage finished =>
        passage.takes_arm stage finished (second_travels arm rfl) (second_lowers arm rfl)
          (by simp) (by simp)
          fun passage stage finished => passage.arrives stage finished

/-- The blocks of loops within a frame are those around it, and those of the frame itself. -/
theorem pushed_loopTarget {block target : BlockRef} {options : FrameOptions} :
    (start.pushed block options).LoopTarget target ↔
      (target ∈ options.nextRound ∨ target ∈ options.loopExit) ∨ start.LoopTarget target := by
  simp [Builder.LoopTarget, Builder.pushed, Scopes.push, Scopes.note, Frame.opened]

/-- What leads along a passage, or fails, and always leaves a sound builder. -/
theorem Leads.soundly {course : Course action}
    (leads : course.Leads [] start (fun _ finish acts => Passage start acts finish []) fun _ acts =>
      Act.AllProper start acts)
    (ends : action.Ends start (fun _ finish => finish.Sound) fun _ finish => finish.Sound) :
    course.Leads [] start (fun _ finish acts => Passage start acts finish [] ∧ finish.Sound)
      fun finish acts => Act.AllProper start acts ∧ finish.Sound :=
  (leads.and_ends ends).imp (fun _ _ _ held => held) fun _ _ held =>
    ⟨held.1, held.2.elim fun _ sound => sound⟩

/-- The inside of a frame is a passage that ends in a sound builder, or a failure that leaves
one. -/
theorem Travels.inside {action : Lowering Unit} {course : Course action}
    (travels : course.Travels) (lowers : Lowers action) (sound : start.Sound)
    (current : start.block? = some here) (here_open : start.HasOpen here) :
    course.Leads [] start (fun _ finish acts => Passage start acts finish [] ∧ finish.Sound)
      fun finish acts => Act.AllProper start acts ∧ finish.Sound := by
  -- A passage that begins here waits for nothing.
  have stage := Stage.refl sound current
  refine (travels start here stage here_open).soundly
    ((lowers start here stage here_open).imp (fun _ _ held => ?_) fun _ _ held => held.1.1)
  obtain ⟨⟨_, _, ended⟩, -⟩ := held
  exact ended.sound

/-- A block is a passage, if what it consists of is one. -/
theorem inBlock_travels {action : Lowering Unit} {course : Course action}
    (travels : course.Travels) (lowers : Lowers action) :
    (inBlock course).Travels := by
  intro start here stage here_open
  -- The cursor is aligned to the block of the frame, so the new frame gets this block.
  have cursor : Lowering.scopes.Ends start (fun scopes _ => scopes.cursor = some here)
      fun _ _ => True :=
    stage.sound.aligned here stage.current
  refine ((Passage.refl stage.sound).looks (fun _ => rfl) cursor).then ?_
  rintro ⟨_, _, _⟩ _ acts ⟨passage, rfl, same⟩
  cases same
  have sound := pushed_sound stage.sound stage.current rfl (stage.sound.body? stage.current)
    {} rfl rfl nofun nofun nofun
  refine passage.within stage.sound (travels.inside lowers sound rfl here_open)
    fun target loops => .inr ?_
  -- A frame without loop targets adds none.
  exact (pushed_loopTarget.mp loops).resolve_left fun inner => by simp at inner

/-- One round of a loop, with the jump to the next one. -/
theorem round_ends {body : Lowering Unit} (lowers : Lowers body) (sound : start.Sound)
    (current : start.block? = some here) (here_open : start.HasOpen here) {head : BlockRef}
    (target : head.IsTarget start.code here.function) :
    (body >>= fun _ => Lowering.jumpUnlessTerminated head).Ends start
      (fun _ finish => finish.Sound ∧ start.Grows finish ∧ True)
      (fun failure finish => Fails start failure finish ∧ True) := by
  -- The body may have moved on to another block, which jumps back if it is open.
  refine bind_ends.mpr ((lowers start here (.refl sound current) here_open).imp
    (fun _ ended held => ?_) fun _ _ held => held)
  obtain ⟨⟨last, owner, stage⟩, -⟩ := held
  refine (jumpUnlessTerminated_adds stage.sound stage.current
    (owner ▸ target.grow stage.kept.code)).imp (fun _ finish held => ?_) fun _ _ held => held
  obtain ⟨sound, _, more, adds, -⟩ := held
  exact ⟨sound, stage.kept.adds adds, trivial⟩

/-- One round of a loop is a passage within the frame of the loop. -/
theorem round_leads {body : Lowering Unit} {course : Course body} (travels : course.Travels)
    (lowers : Lowers body) (sound : start.Sound) (current : start.block? = some here)
    (here_open : start.HasOpen here) {head : BlockRef}
    (target : head.IsTarget start.code here.function) (goes : start.LoopTarget head) :
    (Course.bind course fun _ => .jumpUnlessTerminated head).Leads [] start
      (fun _ finish acts => Passage start acts finish [] ∧ finish.Sound)
      fun finish acts => Act.AllProper start acts ∧ finish.Sound := by
  refine Leads.soundly ?_
    ((round_ends lowers sound current here_open target).imp (fun _ _ held => held.1)
    fun _ _ held => held.1.1)
  refine ((Passage.refl sound).lowers (.refl sound current) here_open travels lowers).then ?_
  -- The way back leads to the head of the loop, which is a target as long as its frame is there.
  rintro _ ended acts ⟨passage, last, owner, stage, code⟩
  exact (passage.closes stage (owner ▸ target.grow code) (.inr goes)).imp (fun _ _ _ held => held.1)
    fun _ _ held => held

/-- A loop is a passage, if its body is one; the block behind the loop is the last to be moved
to. -/
theorem lowerLoop_travels {condition : Tree} {label : Option String} {body : Lowering Unit}
    {course : Course body} (travels : course.Travels) (lowers : Lowers body) :
    (lowerLoop condition label course).Travels := by
  intro start here stage here_open
  unfold lowerLoop
  refine ((Passage.refl stage.sound).counts stage.sound).then
    fun suffix counted acts ⟨passage, sound, adds⟩ => ?_
  have stage := stage.adds sound adds
  -- Three blocks are made: for the condition, for the body, and behind the loop.
  refine (passage.creates stage (adds.hasOpen .nil here_open) _).then
    fun head one acts ⟨passage, stage, here_open, _⟩ => ?_
  refine (passage.creates stage here_open _).then
    fun inside two acts ⟨passage, stage, here_open, _⟩ => ?_
  refine (passage.creates stage here_open _).then
    fun behind three acts ⟨passage, stage, here_open, _⟩ => ?_
  have stage := stage.perm (List.reverse_perm [head, inside, behind])
  have head_target := (stage.awaits head (by simp)).target
  have owner := head_target.1
  -- The loop begins with its condition, which decides about the body.
  refine (passage.jumps stage here_open head_target (by simp)).then
    fun _ jumped acts ⟨passage, stage, finished, code⟩ => ?_
  have head_target := head_target.grow code
  refine (passage.turns stage finished).then
    fun _ entered acts ⟨passage, stage, here_open, same⟩ => ?_
  refine (passage.tests stage here_open condition).then fun value tested acts held => ?_
  obtain ⟨passage, stage, here_open, code, holds, kind⟩ := held
  have head_target := (same ▸ head_target).grow code
  refine (passage.branches stage here_open holds kind (stage.awaits inside (by simp)).target
    (stage.awaits behind (by simp)).target (by simp) (by simp)).then
      fun _ branched acts ⟨passage, stage, finished, code⟩ => ?_
  have head_target := head_target.grow code
  have inside_waits := stage.awaits inside (by simp)
  have behind_waits := stage.awaits behind (by simp)
  -- The body begins in the frame of the loop, which knows where its jumps go.
  have sound : (branched.pushed inside (loopOptions head behind label)).Sound := by
    refine pushed_sound stage.sound stage.current inside_waits.target.1
      ⟨_, inside_waits.empty⟩ _ rfl rfl
      (fun target member => ?_) (fun target member => ?_) fun _ => ⟨rfl, rfl⟩
    · cases member
      exact owner ▸ head_target
    · cases member
      exact behind_waits.target
  have begun_open : (branched.pushed inside (loopOptions head behind label)).HasOpen inside :=
    ⟨[], inside_waits.empty, .nil⟩
  have goes : head.IsTarget
      (branched.pushed inside (loopOptions head behind label)).code inside.function := by
    rw [inside_waits.target.1, owner]
    exact head_target
  have ends := round_ends lowers sound rfl begun_open goes
  have round := round_leads travels lowers sound rfl begun_open goes
    (pushed_loopTarget.mpr (.inl (.inl rfl)))
  refine ((passage.within stage.sound round fun target loops => ?_).and_ends
    (withFrame_ends stage.kept (.inr (stage.fresh inside (by simp))) ends)).imp
      (fun _ _ _ held => held)
      (fun _ _ held => held.1) |>.then fun _ popped acts ⟨passage, sound, _⟩ => ?_
  -- Jumps in the body go to the loop itself or to one around it.
  · rcases pushed_loopTarget.mp loops with (here | here) | outer
    · cases here
      exact .inl (by simp)
    · cases here
      exact .inl (by simp)
    · exact .inr (stage.loopTarget.mp outer)
  · exact (passage.moves sound behind).imp (fun _ _ _ held => held.fewer (List.nil_subset _))
      fun _ _ held => held

/-- What closes a function goes nowhere. -/
theorem closing_targets (result : ExactKind) : (closing result).targets = [] := by
  cases result <;> rfl

/-- What is within a function is a passage: its parameters, its body, and its end. -/
theorem functionInside_leads {function grown : Code.Function} {parameters : List TypedName}
    {body : Lowering Unit} {course : Course body} (sound : start.Sound)
    (current : start.block? = some here) (here_open : start.HasOpen here)
    (kept : start.code.function? here.function = some grown)
    (result : grown.result = function.result)
    (kinds : function.parameters.map Prod.snd = parameters.map TypedName.kind)
    (holds : ∀ parameter ∈ function.parameters, start.Holds (.register parameter.1 parameter.2))
    (travels : course.Travels) (lowers : Lowers body) :
    (Course.bind (.storeParameters function.parameters parameters) fun _ =>
      .bind course fun _ => .closeFunction function.result).Leads [] start
      (fun _ finish acts => Passage start acts finish [] ∧ finish.Sound)
      fun finish acts => Act.AllProper start acts ∧ finish.Sound := by
  have stage := Stage.refl sound current
  have ends := stage.functionInside here_open kept result kinds holds
    (fun _ begun stage begun_open _ => lowers begun here stage begun_open) fun _ _ => trivial
  refine Leads.soundly ?_ (ends.imp (fun _ _ held => held.1) fun _ _ held => held.1.1)
  -- The parameters are stored in the first block, which stays open.
  have stores : (Lowering.storeParameters function.parameters parameters).Ends start (fun _ begun =>
      start.code.Grows begun.code ∧ start.code.Aims
        (fun block => block ∈ [] ∨ start.LoopTarget block) begun.code ∧
        Stage start begun here [] ∧ begun.HasOpen here) fun _ _ => True :=
    (stage.storeParameters here_open kinds holds).imp
      (fun _ _ held => ⟨held.1.kept.code, held.2.2.2.aims, held.1, held.2.1⟩) fun _ _ _ => trivial
  refine ((Passage.refl sound).leads
    (storeParameters_flows sound current here_open kinds holds) stores).then ?_
  rintro _ begun acts ⟨passage, stage, begun_open⟩
  -- Then comes the body.
  refine (passage.lowers stage begun_open travels lowers).then ?_
  rintro _ ended acts ⟨passage, last, owner, stage, -⟩
  -- What the end of the function adds depends on the result that it was created with.
  obtain ⟨final, found, further⟩ := stage.kept.code.functions here.function grown kept
  rw [← owner] at found
  refine passage.leads_on (closeFunction_flows stage.sound stage.current _)
    ((further.result.trans result ▸ stage.closeFunction found).imp (fun _ finish held => ?_)
      fun _ _ held => held)
  obtain ⟨finished, -, more, adds, falls⟩ := held
  refine ⟨adds.code, adds.aims_unless stage.sound finished.sound stage.current falls
    fun target leads => ?_⟩
  rw [closing_targets] at leads
  cases leads

/-- A new function is a part of the passage: all that stands in it is its own. -/
theorem functionBody_leads {function : Code.Function} {parameters : List TypedName}
    {body : Lowering Unit} {course : Course body} (passage : Passage base before start targets)
    (sound : start.Sound) (owner : start.code.function? function.name = some function)
    (outside : ∀ frame ∈ start.scopes.frames, frame.home ≠ function.name)
    (kinds : function.parameters.map Prod.snd = parameters.map TypedName.kind)
    (loops : ∀ target, start.LoopTarget target → base.LoopTarget target)
    (travels : course.Travels) (lowers : Lowers body) :
    (lowerFunctionBody function parameters course).Leads before start
      (fun _ finish acts => Passage base acts finish targets)
      fun _ acts => Act.AllProper base acts := by
  refine (passage.leads (addBlock_flows sound _ _) ((addBlock_makes sound owner "entry").imp
    (fun _ _ held => ⟨held.2.1.code, held.2.1.aims, held⟩) fun _ _ held => held)).then ?_
  -- The entry block is new and empty, and belongs to the function.
  rintro entry opened acts ⟨passage, opened_sound, makes, belongs⟩
  obtain ⟨grown, kept, larger⟩ := makes.code.functions _ function owner
  have made : opened.code.body? entry = some [] := by rw [makes.bodies, if_pos rfl]
  have inner_sound := pushedFunction_sound opened_sound belongs ⟨[], made⟩ kept larger.result
    (makes.scopes ▸ outside)
  -- Parameters are defined wherever the body stands.
  have holds : ∀ parameter ∈ function.parameters,
      (opened.pushed entry (functionOptions function)).Holds (.register parameter.1 parameter.2) :=
    fun parameter member =>
      ⟨entry, grown, [], rfl, belongs ▸ kept, made, .inl (larger.parameters ▸ member)⟩
  refine passage.within opened_sound
    (functionInside_leads inner_sound rfl ⟨[], made, .nil⟩ (belongs ▸ kept) larger.result
    kinds holds travels lowers) fun target inner => .inr (loops target ?_)
  -- The frame of a function is no loop, so loop targets inside come from outside.
  have around := (pushed_loopTarget.mp inner).resolve_left fun own => by simp at own
  rwa [Builder.LoopTarget, makes.scopes] at around

/-- A declaration of a function is a passage, if the body is one. -/
theorem lowerFunction_travels (place : Location) (name arguments result : Tree)
    {body : Lowering Unit} {course : Course body} (travels : course.Travels)
    (lowers : Lowers body) :
    (lowerFunction place name arguments result course).Travels := by
  intro start here stage here_open
  obtain ⟨frame, innermost, -⟩ := Option.bind_eq_some_iff.mp stage.current
  unfold lowerFunction
  -- Parameters, result and name are read in the scopes from before.
  refine ((Passage.refl stage.sound).looks _ .any).then ?_
  rintro parameters _ acts ⟨passage, rfl, -⟩
  refine (passage.looks _ .any).then ?_
  rintro stated _ acts ⟨passage, rfl, -⟩
  refine (passage.looks _ .any).then ?_
  rintro name _ acts ⟨passage, rfl, -⟩
  have found : Lowering.currentFrame.Ends start (fun found _ => frame = found) fun _ _ => True :=
    (currentFrame_ends innermost).mpr rfl
  refine (passage.looks _ found).then ?_
  rintro _ _ acts ⟨passage, rfl, rfl⟩
  -- A name that is taken is refused.
  refine Leads.ite (fun _ => ?_) fun new => ?_
  · have refused : (Lowering.refuse (.functionAlreadyDefined name) place : Lowering Unit).Ends start
        (fun _ _ => False) fun _ _ => True := trivial
    exact (passage.looks _ refused).then fun _ _ _ held => held.2.2.elim
  -- The function is there, and its name is declared, before its body is lowered.
  refine (passage.leads (createTypedFunction_flows stage.sound (.text name) parameters stated)
    ((createTypedFunction_ends stage.sound (.text name) parameters stated).imp
      (fun function created creates =>
        ⟨creates.grows.code, .of_old fun block _ found =>
          .inr (creates.bodies block ▸ found), creates⟩)
        fun _ _ held => held)).then ?_
  rintro function created acts ⟨passage, creates⟩
  have current : created.block? = some here := by
    rw [Builder.block?, Scopes.current?, creates.frames]
    exact stage.current
  have still : created.scopes.current? = some frame := by
    rw [Scopes.current?, creates.frames]
    exact innermost
  refine (passage.leads (declare_flows creates.sound _ _ _)
    ((declare_declares creates.sound current still (by simpa using new)
    creates.fits (fun _ reserved => by cases reserved) place).imp
      (fun _ declared held => ⟨held.2.code ▸ .refl _, held.2.code ▸ .refl _, held⟩) fun _ _ held =>
        held)).then ?_
  rintro _ declared acts ⟨passage, sound, declares⟩
  refine functionBody_leads passage sound (declares.code ▸ creates.found)
    (creates.outside sound declares.code) creates.kinds (fun target loops => ?_) travels lowers
  rwa [declares.frames.loopTarget, Builder.LoopTarget, creates.frames] at loops

/-- The entry function is a passage from any sound builder. -/
theorem lowerEntry_leads {name : Document} {body : Lowering Unit} {course : Course body}
    (sound : start.Sound) (travels : course.Travels) (lowers : Lowers body) :
    (lowerEntry name course).Leads [] start
      (fun _ finish acts => Lowering.Passage start acts finish [])
      fun _ acts => Act.AllProper start acts := by
  refine ((Passage.refl sound).looks _ .any).then ?_
  -- Reading the name of the entry does nothing to the code.
  rintro read _ acts ⟨passage, rfl, -⟩
  refine (passage.leads (createTypedFunction_flows sound read [] .void)
    ((createTypedFunction_ends sound read [] .void).imp (fun function created creates =>
      ⟨creates.grows.code, .of_old fun block _ found =>
        .inr (creates.bodies block ▸ found), creates⟩)
      fun _ _ held => held)).then fun function created acts ⟨passage, creates⟩ => ?_
  refine (functionBody_leads passage creates.sound creates.found
    (creates.outside creates.sound rfl) creates.kinds
    (fun target loops => ?_) travels lowers).then fun _ finish acts passage => ?_
  -- The new function changes no frame, so loop targets are those from before.
  · rwa [Builder.LoopTarget, creates.frames] at loops
  · exact (passage.looks (.pure _) .any).imp (fun _ _ _ held => held.1) fun _ _ held => held

end Course

/-- A computation that succeeds yields what it ends with. -/
theorem Ends.yields :
    action.Ends start (fun answer finish => action.Yields start answer finish) fun _ _ => True := by
  unfold Ends Yields
  split <;> rename_i ended
  · exact ended
  · trivial

/-- Behind a terminator in it the current block is not open. -/
theorem Adds.not_ready {instruction : Instruction} (adds : start.Adds finish [instruction])
    (ends : instruction.isTerminator = true) (current : start.block? = some here) :
    ¬ finish.Ready := by
  rintro ⟨block, at_, body, found, body_open⟩
  have same : finish.block? = some here := by rw [Builder.block?, adds.scopes]; exact current
  cases same.symm.trans at_
  rw [adds.bodies, if_pos current] at found
  obtain ⟨old, -, rfl⟩ := Option.map_eq_some_iff.mp found
  -- The block at hand now ends with the terminator, so it is not open.
  exact Bool.noConfusion
    (ends.symm.trans (body_open instruction (List.mem_append_right _ List.mem_cons_self)))

/-- Behind a statement that departs, the current block has its terminator. -/
theorem departs_ends {tree : Tree} (departs : tree.Departs) (stage : Stage start start here [])
    (here_open : start.HasOpen here) :
    tree.lowerStatement.Ends start (fun _ finish => ¬ finish.Ready) fun _ _ => True := by
  -- A jump ends the block, if there is a loop for it.
  have jumps : ∀ jump place label,
      (lowerJump jump place label).Ends start (fun _ finish => ¬ finish.Ready) fun _ _ => True :=
    fun jump place label => (stage.jumps here_open jump place label
      (fun _ _ _ _ _ _ adds => Adds.not_ready adds rfl stage.current) fun _ _ => trivial).imp
        (fun _ _ held => held.2) fun _ _ held => held.2
  cases tree <;> try exact departs.elim
  -- A return ends it with a value or without.
  case returnStatement place value =>
    have returns : (lowerReturn place value).LowersTo start here (fun finish => ¬ finish.Ready)
        fun _ => True :=
      stage.returns here_open place fun _ _ =>
        Ends.any.imp (fun answer _ _ => ⟨fun _ more _ _ adds =>
          Adds.not_ready adds (by cases answer <;> rfl) (more.block?.trans stage.current),
            fun _ _ => trivial⟩) fun _ _ held => held
    exact returns.imp (fun _ _ held => held.2) fun _ _ held => held.2
  case breakStatement place label => exact jumps .break place _
  case continueStatement place label => exact jumps .continue place _

/-- Emission stays where it is, or goes on in a new block, which is empty. -/
structure Lands (start opened : Builder) (here : BlockRef) : Prop where
  old : ∀ block body, opened.code.body? block = some body →
    body = [] ∨ start.code.body? block = some body
  loops : ∀ block, opened.LoopTarget block → start.LoopTarget block
  island : ¬ start.HasOpen here → ∃ block,
    opened.block? = some block ∧ block.function = here.function ∧
    start.code.body? block = none ∧ opened.code.body? block = some []

/-- Where statements begin, emission stays where it is in an open block, and goes on in a new one
behind a terminator. -/
theorem Stage.lands (stage : Stage start start here []) :
    Lowering.ensureOpen.Ends start
      (fun _ opened => opened = start.reopened ∧ Lands start opened here ∧
      ∃ last, Stage start opened last [] ∧ opened.HasOpen last) fun _ _ => True := by
  -- Where the block has ended there is a new one behind, and it is open.
  have reopens : Lowering.ensureOpen.Ends start (fun _ opened => Reopens start opened ∧
      ∃ last, last.function = here.function ∧ Stage start opened last [] ∧ opened.HasOpen last)
        fun _ _ => True :=
    stage.ensureOpen
  -- The new block is fresh and empty, and no other one has changed.
  have blocks : Lowering.ensureOpen.Ends start (fun _ opened =>
      (∀ block body, opened.code.body? block = some body →
        body = [] ∨ start.code.body? block = some body) ∧
        (¬ start.HasOpen here → ∃ block,
          opened.block? = some block ∧ block.function = here.function ∧
          start.code.body? block = none ∧ opened.code.body? block = some [])) fun _ _ => True := by
    unfold Lowering.ensureOpen
    rw [bind_ends, isTerminated_ends stage.sound stage.current]
    cases seen : start.code.isTerminated here with
    -- An open block is used as it is.
    | false =>
      have here_open := (hasOpen_iff stage.sound stage.current).mpr seen
      exact ⟨fun _ _ found => .inr found, fun finished => absurd here_open finished⟩
    | true =>
      refine Ends.bind (createBlock_makes stage.sound stage.current "unreachable")
        fun block created held => ?_
      obtain ⟨sound, makes, awaits⟩ := held
      have empty := awaits.empty
      refine (moveTo_moves sound (makes.block?.trans stage.current) awaits.target.1 ⟨[], empty⟩).imp
        (fun _ opened held => ⟨fun other body found => ?_, fun _ => ?_⟩) fun _ _ held => held
      · rw [held.2.code, makes.bodies] at found
        split at found
        · exact .inl (Option.some.inj found).symm
        · exact .inr found
      · exact ⟨block, held.2.current, awaits.target.1, makes.fresh, held.2.code ▸ empty⟩
  refine ((reopens.and blocks).and Ends.yields).imp (fun _ opened held => ?_) fun _ _ _ => trivial
  obtain ⟨⟨⟨reopens, last, _, ended, last_open⟩, old, island⟩, same⟩ := held
  exact ⟨(congrArg Prod.snd same).symm, ⟨old, fun _ => reopens.frames.loopTarget.mp, island⟩, last,
    ended, last_open⟩

/-- Where the current block has its terminator, no block that was there is changed. -/
theorem Stage.unchanged {last : BlockRef} (ended : Stage start finish last [])
    (current : start.block? = some here) (finished : ¬ start.HasOpen here) {block : BlockRef}
    {body : List Instruction} (found : start.code.body? block = some body) :
    finish.code.body? block = some body := by
  -- Only the block at hand could have grown, and it had ended.
  by_cases own : block = here
  · subst own
    obtain ⟨more, longer⟩ := ended.kept.code.body? found
    rw [ended.sound.valid.finished longer fun body_open => finished ⟨body, found, body_open⟩,
      List.append_nil] at longer
    exact longer
  · exact ended.kept.others block body found fun same =>
      own (Option.some.inj (same.symm.trans current))

/--
Behind statements that began behind a terminator, nothing goes to where they began, or from outside
to any block of theirs.
-/
theorem Sealed.begin {items : List Tree} {last : BlockRef} (stage : Stage start start here [])
    (finished : ¬ start.HasOpen here) (ended : Stage start finish last [])
    (same : finish = ((Tree.lowerStatements items).outcome start).2)
    (lands : Lands start start.reopened here) (grows : start.reopened.code.Grows finish.code)
    (aims : start.reopened.code.Aims start.reopened.LoopTarget finish.code) :
    Sealed start start items finish [] := by
  -- Behind the end of a block the statements begin in a fresh one.
  obtain ⟨first, at_, owner, fresh, empty⟩ := lands.island finished
  refine ⟨.refl _, same ▸ ended.kept.code, same ▸ .refl _, ⟨first, at_, ?_⟩, List.forall_mem_nil _,
    fun block body found => ?_, ?_, ?_⟩
  · obtain ⟨more, made⟩ := grows.body? empty
    exact ⟨⟨here, stage.current, owner⟩, fresh, _, same ▸ made⟩
  · exact same ▸ ended.unchanged stage.current finished found
  · intro block body found instruction member target leads here_too
    have first_is : first = ⟨block.function, target⟩ := Option.some.inj (at_.symm.trans here_too)
    -- What was there before goes to blocks that were, and what was added goes to newer ones or to
    -- those of loops.
    have absent : ∀ body, start.code.body? ⟨block.function, target⟩ ≠ some body := by
      intro body held
      rw [← first_is, fresh] at held
      cases held
    rcases aims block body found instruction member with ⟨earlier, held, inside⟩ | goes
    · rcases lands.old block earlier held with rfl | before
      · cases inside
      · obtain ⟨_, placed⟩ := stage.sound.target_placed before inside leads
        exact absent _ placed
    · rcases goes target leads with missing | may
      · rw [← first_is, empty] at missing
        cases missing
      · obtain ⟨_, placed⟩ := stage.sound.loopTarget (lands.loops _ may)
        exact absent _ placed
  · intro block body found instruction member target leads strands
    refine ⟨strands.owner, ?_, body, same ▸ found⟩
    -- A block that was there before is as it was, and goes to blocks that were there.
    cases before : start.code.body? block with
    | none => rfl
    | some earlier =>
      cases found.symm.trans (ended.unchanged stage.current finished before)
      obtain ⟨_, placed⟩ := stage.sound.target_placed before member leads
      rw [strands.fresh] at placed
      cases placed

/-- A mark stands in front of a passage. -/
theorem Passage.mark {items : List Tree} (passage : Passage base acts finish [])
    (left : ¬ base.Ready → Sealed base base items finish [])
    (ensues : ∀ first rest, items = first :: rest → rest ≠ [] → Ensues base acts base first rest) :
    Passage base (.statements items :: acts) finish [] where
  begun := passage.begun
  reaches := passage.reaches
  proper := .mark passage.begun passage.proper
  grows := passage.grows
  awaits := passage.awaits
  aims := passage.aims
  -- The mark is the first moment, and nothing has been done before it.
  left := fun moment other meets behind => by
    cases meets with
    | here => exact left behind
    | later meets => exact passage.left moment other meets behind
  ensues := fun moment first rest meets more => by
    -- For the moments behind the mark nothing has changed.
    have held : Ensues base acts moment first rest := by
      cases meets with
      | here => exact ensues first rest rfl more
      | later meets => exact passage.ensues moment first rest meets more
    show Ensues base ([.statements items] ++ acts) moment first rest
    exact held.within rfl

namespace Course

open LoopLang.Tree

/--
From where emission is open, a statement and the ones behind it are parts of one passage, and the
one leads to the others.
-/
theorem opened_leads {statement : Tree} {rest : List Tree}
    (first : statement.statementCourse.Travels) (second : (statementsCourse rest).TravelsAll)
    (stage : Stage start start here []) (here_open : start.HasOpen here) :
    (Course.bind (.marked (.statement statement) (fun _ => rfl) statement.statementCourse) fun _ =>
      statementsCourse rest).Leads [] start
        (fun _ finish acts => Passage start acts finish [] ∧
          (rest ≠ [] → ∃ middle, Act.Meets start acts middle (.statements rest) ∧
          statement.lowerStatement.Yields start () middle ∧ ∃ here, middle.block? = some here ∧
            (statement.Departs → middle.code.isTerminated here = true)))
        fun _ acts => Act.AllProper start acts := by
  have begins : Passage start ([] ++ [.statement statement]) start [] := by
    refine (Passage.refl stage.sound).step rfl (fun moment next meets => ?_) (.refl _) (.refl _)
      fun _ => .inl
    obtain ⟨rfl, rfl⟩ := Act.meets_single.mp meets
    exact ⟨⟨stage.sound, fun _ => stage.ready here_open⟩, nofun⟩
  -- Behind a statement that departs nothing is open.
  have ends : statement.lowerStatement.Ends start
      (fun _ middle => statement.lowerStatement.Yields start () middle ∧
      (statement.Departs → ¬ middle.Ready)) fun _ _ => True := by
    by_cases departs : statement.Departs
    · exact (Ends.yields.and (departs_ends departs stage here_open)).imp
        (fun _ _ held => ⟨held.1, fun _ => held.2⟩) fun _ _ _ => trivial
    · exact Ends.yields.imp (fun _ _ held => ⟨held, fun departed => absurd departed departs⟩)
        fun _ _ _ => trivial
  refine (((begins.lowers stage here_open first (lower_all.1 statement)).and_ends ends).imp
    (fun _ _ _ held => held) fun _ _ held => held.1).marked.then fun _ middle acts held => ?_
  obtain ⟨⟨passage, last, _, stage, _⟩, yields, behind⟩ := held
  refine ((second middle last (.refl stage.sound stage.current)).and_acts.behind acts).imp
    (fun _ finish _ held => ?_) fun _ _ held => ?_
  · obtain ⟨more, rfl, part, done⟩ := held
    have terminated : statement.Departs → middle.code.isTerminated last = true := fun departs =>
      Bool.of_not_eq_false fun seen =>
        behind departs (stage.ready ((hasOpen_iff stage.sound stage.current).mpr seen))
    refine ⟨passage.through part fun target => .inr ∘ stage.loopTarget.mp, fun others =>
      ⟨middle, ?_, yields, last, stage.current, terminated⟩⟩
    -- The statements behind this one begin with their mark.
    refine Act.meets_append.mpr (.inr ?_)
    rw [passage.reaches, done]
    cases rest with
    | nil => exact absurd rfl others
    | cons => exact .here
  · obtain ⟨more, rfl, proper⟩ := held
    exact passage.proper.append (passage.reaches ▸ proper)

/-- A statement and the ones behind it are parts of one passage. -/
theorem TravelsAll.cons {statement : Tree} {rest : List Tree}
    (first : statement.statementCourse.Travels) (second : (statementsCourse rest).TravelsAll) :
    (statementsCourse (statement :: rest)).TravelsAll := by
  intro start here stage
  -- A block is opened if the one at hand has ended.
  have opens : Lowering.ensureOpen.Ends start (fun _ opened => start.code.Grows opened.code ∧
      start.code.Aims (fun block => block ∈ [] ∨ start.LoopTarget block) opened.code ∧
      opened = start.reopened ∧
        Lands start opened here ∧ ∃ last, Stage start opened last [] ∧ opened.HasOpen last)
          fun _ _ => True := by
    refine stage.lands.imp (fun _ opened held => ?_) fun _ _ _ => trivial
    obtain ⟨-, lands, _, ended, -⟩ := id held
    exact ⟨ended.kept.code, .of_old lands.old, held⟩
  have leads : (Course.bind .ensureOpen fun _ =>
      .bind (.marked (.statement statement) (fun _ => rfl) statement.statementCourse) fun _ =>
        statementsCourse rest).Leads [] start (fun _ finish acts => Passage start acts finish [] ∧
          Lands start start.reopened here ∧ start.reopened.code.Grows finish.code ∧
          start.reopened.code.Aims start.reopened.LoopTarget finish.code ∧
          (rest ≠ [] → Ensues start acts start statement rest))
        fun _ acts => Act.AllProper start acts := by
    refine ((Passage.refl stage.sound).leads
      (ensureOpen_flows stage.sound stage.current) opens).then ?_
    rintro _ opened acts ⟨passage, rfl, lands, last, stage, last_open⟩
    refine ((opened_leads first second (.refl stage.sound stage.current) last_open).behind acts).imp
      (fun _ finish acts held => ?_) fun _ acts held => ?_
    · obtain ⟨more, rfl, part, ensues⟩ := held
      refine ⟨passage.through part fun target => .inr ∘ stage.loopTarget.mp, lands, part.grows,
        part.aims, fun others => ?_⟩
      obtain ⟨middle, meets, held⟩ := ensues others
      exact ⟨middle, Act.meets_append.mpr (.inr (passage.reaches ▸ meets)), held⟩
    · obtain ⟨more, rfl, proper⟩ := held
      exact passage.proper.append (passage.reaches ▸ proper)
  -- What the lowering of all the statements comes to.
  have ends : (lowerStatements (statement :: rest)).Ends start
      (fun _ finish => (lowerStatements (statement :: rest)).Yields start () finish ∧ ∃ last,
        Stage start finish last [])
      fun _ _ => True :=
    (Ends.yields.and (lower_all.2.2.2 (statement :: rest) start here stage)).imp
      (fun _ _ ⟨same, ⟨last, _, ended⟩, _⟩ => ⟨same, last, ended⟩) fun _ _ _ => trivial
  -- Behind all of them it is known what the statements have left behind, if they began behind a
  -- terminator.
  have whole := (leads.behind [.statements (statement :: rest)]).and_ends ends
  refine Leads.marked (whole.imp (fun _ finish acts held => ?_) fun _ acts held => ?_)
  · obtain ⟨⟨inner, rfl, passage, lands, grows, aims, ensues⟩, same, last, ended⟩ := held
    refine passage.mark
      (fun behind => .begin stage (fun here_open => behind (stage.ready here_open)) ended
      (congrArg Prod.snd same).symm lands grows aims) fun first others parts more => ?_
    cases parts
    exact ensues more
  · obtain ⟨⟨inner, rfl, proper⟩, -⟩ := held
    exact .mark stage.sound proper

/-- What leaves the builder as it is is no way at all. -/
theorem Travels.still {action : Lowering Unit} (stays : IsStill action) :
    (Course.still stays).Travels :=
  fun _ _ stage _ => ((Passage.refl stage.sound).looks stays .any).imp
    (fun _ _ _ held => held.2.1 ▸ held.1) fun _ _ held => held

/-- What changes nothing travels over no statements. -/
theorem TravelsAll.still {action : Lowering Unit} (stays : IsStill action) :
    (Course.still stays).TravelsAll :=
  fun _ _ stage => ((Passage.refl stage.sound).looks stays .any).imp
    (fun _ _ _ held => held.2.1 ▸ held.1) fun _ _ held => held

/-- Statements of which each travels travel one after the other. -/
theorem TravelsAll.travels {action : Lowering Unit} {course : Course action}
    (all : course.TravelsAll) : course.Travels :=
  fun start here stage _ => all start here stage

/-- A course of the same action travels as the other does. -/
theorem Travels.of_eq {action other : Lowering Unit} {course : Course action}
    (same : action = other) (travels : course.Travels) : (course.of_eq same).Travels :=
  fun start here stage here_open => (travels start here stage here_open).of_eq

/-- The second arm of a branch is a passage, if there is one. -/
theorem secondCourse_travels {arm : Tree} {lowered : Lowering Unit} {course : Course lowered}
    (travels : course.Travels) :
    ∀ second stands, (secondCourse arm course second stands).Travels :=
  fun second stands => travels.of_eq
    (secondArm_forall (motive := fun arm => lowered = arm) rfl second stands)

end Course

end Lowering

namespace Tree

open Lowering Lowering.Course

/-- The arms of a branch lower, the second one if it is there. -/
theorem secondArm_lowers (arm : Tree) : ∀ second ∈ secondArm? arm (lowerArm arm), Lowers second :=
  secondArm_forall (lower_all.2.1 arm)

mutual

/-- Every statement is a passage. -/
theorem statementCourse_travels : (tree : Tree) → tree.statementCourse.Travels
  | functionDeclaration place id arguments body result => by
    cases body
    case blockStatement at_ content =>
      cases id
      case identifier _ name _ =>
        exact lowerFunction_travels place name arguments result (bodyCourse_travels content)
          (lower_all.2.2.1 content)
      all_goals exact .still (.refuse .functionNeedsIdentifier place)
    -- What is no block cannot be a body.
    all_goals exact .still (by cases id <;> exact .refuse _ _)
  | variableDeclaration place id value => by
    cases id
    case identifier _ name stated => exact lowerDeclaration_travels place name stated value
    all_goals exact .still (.refuse .variableNeedsIdentifier place)
  | blockStatement _ content =>
    inBlock_travels (bodyCourse_travels content) (lower_all.2.2.1 content)
  | returnStatement place value => lowerReturn_travels place value
  -- A missing second arm is none; any other tree is one.
  | ifStatement _ condition consequent alternate =>
    lowerChoice_travels (armCourse_travels consequent) (lower_all.2.1 consequent)
      (secondCourse_travels (armCourse_travels alternate)) (secondArm_lowers alternate)
  | loopStatement place condition body label => by
    cases body
    case blockStatement _ content =>
      exact lowerLoop_travels (bodyCourse_travels content)
        (lower_all.2.2.1 content)
    all_goals exact .still (.refuse .loopBodyNotBlock place)
  | breakStatement place label => lowerJump_travels .break place (labelName? label)
  | continueStatement place label => lowerJump_travels .continue place (labelName? label)
  | expressionStatement _ expression => expression_travels expression
  -- No other node is a statement.
  | null | boolean _ | integer _ | real _ | text _ | kindValue _ | list _ | node _ | program ..
  | callExpression .. | binaryExpression ..
  | assignmentExpression .. | identifier .. | numberLiteral ..
  | booleanLiteral .. => .still (.refuse _ _)
termination_by structural tree => tree

/-- Every arm is a passage. -/
theorem armCourse_travels : (tree : Tree) → tree.armCourse.Travels
  | ifStatement _ _ consequent alternate =>
    -- A choice as an arm gets a frame of its own, like a block.
    inBlock_travels
      (lowerChoice_travels (armCourse_travels consequent) (lower_all.2.1 consequent)
        (secondCourse_travels (armCourse_travels alternate)) (secondArm_lowers alternate))
      (lowerChoice_lowers (lower_all.2.1 consequent) (secondArm_lowers alternate))
  | blockStatement _ content =>
    inBlock_travels (bodyCourse_travels content) (lower_all.2.2.1 content)
  -- No other node is an arm.
  | null | boolean _ | integer _ | real _ | text _ | kindValue _ | list _ | node _ | program ..
  | functionDeclaration ..
  | variableDeclaration .. | returnStatement .. | expressionStatement .. | loopStatement ..
  | breakStatement ..
  | continueStatement .. | callExpression .. | binaryExpression .. | assignmentExpression ..
  | identifier .. | numberLiteral .. | booleanLiteral .. => .still (.refuse _ _)
termination_by structural tree => tree

/-- What a block consists of is a passage. -/
theorem bodyCourse_travels : (tree : Tree) → tree.bodyCourse.Travels
  | list items => (statementsCourse_travels items).travels
  | text value => by
    intro start here stage here_open
    refine Leads.ite (fun _ => Travels.still (.pure _) start here stage here_open) fun _ => ?_
    -- What is refused ends the passage behind the step that opens a block.
    refine ((Passage.refl stage.sound).leads_on (ensureOpen_flows stage.sound stage.current)
      (stage.lands.imp (fun _ _ held => ?_) fun _ _ _ => trivial)).then fun _ _ _ passage => ?_
    · obtain ⟨-, lands, _, ended, -⟩ := held
      exact ⟨ended.kept.code, .of_old lands.old⟩
    · exact (passage.looks (.refuse _ _) .any).imp (fun _ _ _ held => held.1) fun _ _ held => held
  | null | boolean _ | integer _ | real _ | kindValue _ | node _ | program ..
  | functionDeclaration .. | variableDeclaration ..
  | blockStatement .. | returnStatement .. | expressionStatement .. | ifStatement ..
  | loopStatement .. | breakStatement ..
  | continueStatement .. | callExpression .. | binaryExpression .. | assignmentExpression ..
  | identifier .. | numberLiteral .. | booleanLiteral .. => .still (.stop _)
termination_by structural tree => tree

/-- Statements are a passage, whether or not they begin behind a terminator. -/
theorem statementsCourse_travels : (items : List Tree) → (statementsCourse items).TravelsAll
  | [] => .still (.pure _)
  | statement :: rest => .cons (statementCourse_travels statement) (statementsCourse_travels rest)
termination_by structural items => items

end

/-- The course of a whole program, from any sound builder: every moment of it is as it should be. -/
theorem programCourse_leads {start : Builder} (sound : start.Sound) (entry : Document) :
    (tree : Tree) →
    (programCourse entry tree).Leads [] start
      (fun _ finish acts => Lowering.Passage start acts finish [])
      fun _ acts => Act.AllProper start acts
  | program _ body => lowerEntry_leads sound (bodyCourse_travels body) (lower_all.2.2.1 body)
  -- Nothing is done for a tree that is no program.
  | null | boolean _ | integer _ | real _ | text _ | kindValue _ | list _ | node _
  | functionDeclaration .. | variableDeclaration ..
  | blockStatement .. | returnStatement .. | expressionStatement .. | ifStatement ..
  | loopStatement .. | breakStatement ..
  | continueStatement .. | callExpression .. | binaryExpression .. | assignmentExpression ..
  | identifier .. | numberLiteral .. | booleanLiteral .. =>
    ((Lowering.Passage.refl sound).looks (.refuse _ _) .any).imp
      (fun _ _ _ held => held.2.1 ▸ held.1) fun _ _ held => held

end Tree

end LoopLang
