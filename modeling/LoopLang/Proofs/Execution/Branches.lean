import LoopLang.Proofs.Execution.Function

/-! The code of nested blocks, branches, and loops does what they do, given that the code of their
parts does so. -/

namespace LoopLang

open Code (Activation Configuration Lasts Module Operand Waiting)
open Evaluation (Signal)

/-- What lowering has built between two builders performs statements, whatever code comes of it. -/
def Performed (functions behind : List (String × Closure)) (closures : List Closure)
    (perform : Nat → Evaluation Signal) (start finish : Builder) : Prop :=
  Enacts functions behind closures start finish fun code fuel =>
    Acts code fuel start finish (perform fuel)

/-- Where a jump goes from within a loop that is meant by it. -/
def Jump.landing (head behind : BlockRef) : Jump → BlockRef
  | .break => behind
  | .continue => head

section Loop

open Lowering (jumpBlock? loopOptions)

/-- The frame of a loop is meant by jumps without a label and by those with its own. -/
theorem Lowering.loopFrame_isTarget (inside head behind : BlockRef) (label meant : Option String)
    (enclosing : Option Frame) :
    (Frame.opened inside (loopOptions head behind label) enclosing).isTarget meant =
      decide (meant = none ∨ meant = label) := by
  cases meant with
  | none => simp [Frame.isTarget, Frame.opened, loopOptions]
  | some name =>
    simp only [Frame.isTarget, Frame.opened, loopOptions, Bool.true_and, Option.isNone_some,
      Bool.false_or, reduceCtorEq, false_or]
    rw [Bool.eq_iff_iff, beq_iff_eq, decide_eq_true_iff]
    exact eq_comm

variable {code : Module} {start entered begun ended finish : Builder}
  {head inside behind : BlockRef}
  {label : Option String} {waiting : List Waiting} {activation : Activation}
  {after : Evaluation.Variables}

/-- Where a jump goes that means the loop of the innermost frame. -/
theorem Lowering.jumpBlock?_loop {enclosing : Option Frame} {outer : List Frame} (jump : Jump)
    {meant : Option String} (this : meant = none ∨ meant = label) :
    jumpBlock? (Frame.opened inside (loopOptions head behind label) enclosing :: outer) jump meant =
      some (jump.landing head behind) := by
  -- The innermost frame is that of the loop, and the jump means it.
  have target : (Frame.opened inside (loopOptions head behind label) enclosing).isTarget
      meant = true := by
    rw [Lowering.loopFrame_isTarget]
    exact decide_eq_true this
  simp only [jumpBlock?, Scopes.loopFrameIn, target, if_true]
  cases jump <;> rfl

/--
The code of a loop as a call goes through it whose slots agree with the frames around: where its
head, its body, and what stands behind it begin, and that control comes back to the head from the
end of the body.
-/
structure Loops (code : Module) (around entered begun ended finish : Builder)
    (head inside behind : BlockRef) (label : Option String) : Prop where
  opened : begun.scopes.frames =
    Frame.opened inside (loopOptions head behind label) around.scopes.current? ::
    around.scopes.frames
  enters : ∀ next locals, next.At code head [] → Keeps next.slots around.scopes.frames locals →
    entered.Mirrors code next locals
  begins : ∀ next locals, next.At code inside [] → Keeps next.slots around.scopes.frames locals →
    begun.Mirrors code next ([] :: locals)
  exits : ∀ next locals, next.At code behind [] → Keeps next.slots around.scopes.frames locals →
    finish.Mirrors code next locals
  again : ∀ waiting next after, ended.Mirrors code next after →
    ∃ last, next.Goes code waiting last ∧ entered.Mirrors code last after.tail

variable (loops : Loops code start entered begun ended finish head inside behind label)

include loops

/--
Behind a round of a loop control is at its head again, or it has left the loop: to where that ends,
to where a jump further out goes, or out of the function.
-/
theorem Departs.round {signal : Signal}
    (departs : Departs code begun ended waiting activation after signal) :
    (signal.behindRound label = none ∧ ∃ next,
      activation.Goes code waiting next ∧ entered.Mirrors code next after.tail) ∨
      ∃ left, signal.behindRound label = some left ∧
      Departs code start finish waiting activation after.tail left := by
  -- A jump that means this loop goes to its head or behind it, and any other one further out.
  have jumped : ∀ {jump meant}, Jumps code begun.scopes.frames waiting activation jump meant after →
      (meant = none ∨ meant = label) → ∃ next, activation.Goes code waiting next ∧
        next.At code (jump.landing head behind) [] ∧
        Keeps next.slots start.scopes.frames after.tail := by
    rintro jump meant ⟨block, next, target, goes, at_, around⟩ this
    rw [loops.opened, Lowering.jumpBlock?_loop jump this] at target
    cases target
    exact ⟨next, goes, at_, around _ _ loops.opened rfl⟩
  have outside : ∀ {jump meant},
      Jumps code begun.scopes.frames waiting activation jump meant after →
      ¬ (meant = none ∨ meant = label) →
      Jumps code start.scopes.frames waiting activation jump meant after.tail := by
    intro jump meant jumps other
    rw [loops.opened] at jumps
    exact jumps.outside (by rw [Lowering.loopFrame_isTarget]; exact decide_eq_false other) rfl
  -- The ways in which control leaves the body, one by one.
  cases departs with
  | next goes mirrors =>
    obtain ⟨last, further, mirrors⟩ := loops.again waiting _ _ mirrors
    exact .inl ⟨rfl, last, goes.trans further, mirrors⟩
  | «break» jumps =>
    rename_i meant
    by_cases this : meant = none ∨ meant = label
    · obtain ⟨next, goes, at_, keeps⟩ := jumped jumps this
      exact .inr ⟨.next, if_pos this, .next goes (loops.exits next _ at_ keeps)⟩
    · exact .inr ⟨.break meant, if_neg this, .break (outside jumps this)⟩
  -- The next round of this loop begins at its head; that of another one ends this loop.
  | «continue» jumps =>
    rename_i meant
    by_cases this : meant = none ∨ meant = label
    · obtain ⟨next, goes, at_, keeps⟩ := jumped jumps this
      exact .inl ⟨if_pos this, next, goes, loops.enters next _ at_ keeps⟩
    · exact .inr ⟨.continue meant, if_neg this, .continue (outside jumps this)⟩
  | «return» returns kind => exact .inr ⟨_, rfl, .return returns kind⟩

/-- A loop does what its rounds do, of which each takes a step at least. -/
theorem Acts.rounds {fuel : Nat} {condition : Evaluation Bool} {body : Evaluation Signal}
    (acts : Acts code fuel begun ended body)
    (tests : ∀ activation locals waiting, entered.Mirrors code activation locals →
      condition.Ends locals (fun holds after => ∃ next middle, activation.Goes code waiting next ∧
        next.Enters code waiting middle (if holds then inside else behind) ∧
        Keeps middle.slots start.scopes.frames after) (Lasts code (fuel + 1) ⟨activation, waiting⟩))
    {limit : Nat} (enough : limit ≤ fuel + 1) {activation : Activation}
    {locals : Evaluation.Variables} (mirrors : entered.Mirrors code activation locals) :
    (Evaluation.rounds label condition (Evaluation.within body) limit).Ends locals
      (fun signal after => Departs code start finish waiting activation after signal)
      (Lasts code limit ⟨activation, waiting⟩) := by
  -- By induction on how many rounds are left. Testing a condition takes one step at least, so that
  -- rounds without end outlast any number of steps.
  induction limit generalizing activation locals with
  | zero => exact (rfl : Lasts code 0 _)
  | succ limit ih =>
    rw [Evaluation.rounds, Evaluation.bind_ends]
    refine (tests activation locals waiting mirrors).imp (fun holds after held => ?_) fun lasts =>
      lasts.less enough
    obtain ⟨next, middle, goes, enters, keeps⟩ := held
    cases holds with
    -- The condition fails, and control goes behind the loop.
    | false => exact .next (goes.trans enters.goes) (loops.exits middle _ enters.at_ keeps)
    | true =>
      have lasts : Lasts code limit ⟨middle, waiting⟩ →
          Lasts code (limit + 1) ⟨activation, waiting⟩ := fun lasts =>
        goes.reaches.lasts (lasts.step enters.step)
      have goes := goes.trans enters.goes
      rw [if_pos rfl, Evaluation.bind_ends, Evaluation.within_ends]
      refine (acts middle _ waiting (loops.begins middle _ enters.at_ keeps)).imp
        (fun signal final departs => ?_) fun long => lasts (long.less (Nat.le_of_succ_le enough))
      -- The body leads to another round or out of the loop.
      rcases departs.round loops with ⟨again, last, further, mirrors⟩ | ⟨left, out, departs⟩
      · rw [again]
        refine (ih (Nat.le_of_succ_le enough) mirrors).imp (fun signal after departs => ?_)
          fun long =>
            lasts (further.reaches.lasts long)
        exact departs.before (goes.trans further) (.refl _)
      · rw [out]
        exact departs.before goes (.refl _)

end Loop

section Branch

variable {start counted tested begun : Builder} {first second : BlockRef} {value : Operand}

/-- Where the first arm of a branch begins, the functions are those of the start. -/
theorem Builder.Turns.passes
    (turns : tested.Turns begun [.branch value first.label second.label] first)
    (adds : start.Adds counted []) (more : counted.Extends tested)
    (frames : Builder.Continues [] tested.scopes.frames begun.scopes.frames) :
    start.Passes begun := by
  refine .of_continues (adds.code.trans (more.code.trans turns.code)) ?_ ?_
  · rw [turns.handles, more.handles, adds.handles]
  · rwa [more.scopes, adds.scopes] at frames

/-- A branch tests its condition and goes to one of its two blocks, with the variables as they are
then. -/
theorem Builder.Turns.decides
    (turns : tested.Turns begun [.branch value first.label second.label] first)
    (adds : start.Adds counted [])
    (frames : Builder.Continues [] tested.scopes.frames begun.scopes.frames)
    {test : List (String × Closure) → Nat → Evaluation Bool}
    (follows : Imitates counted tested test fun activation holds =>
      activation.value? value = some (.boolean holds))
    (other : ∀ here, tested.block? = some here → second.function = here.function) {code : Module}
    {fuel : Nat} (leads : begun.Leads code) {functions : List (String × Closure)}
    (known : Knows (Simulates code fuel) start.scopes.frames functions) {activation : Activation}
    {locals : Evaluation.Variables} (mirrors : start.Mirrors code activation locals)
    (waiting : List Waiting) :
    (test functions fuel).Ends locals
      (fun holds after => ∃ entered, activation.Goes code waiting entered ∧
        entered.At code (if holds then first else second) [] ∧
        Keeps entered.slots begun.scopes.frames after)
      (Lasts code (fuel + 1) ⟨activation, waiting⟩) := by
  -- The code runs on to where the condition was tested, and the branch leads to one of the blocks.
  have follows := follows code fuel functions (leads.before turns.code) (adds.scopes ▸ known)
  refine (turns.tests leads other follows (mirrors.same adds)).imp (fun holds after held => ?_) id
  obtain ⟨next, entered, goes, enters, keeps⟩ := held
  exact ⟨entered, goes.trans enters.goes, enters.at_, keeps.continues frames⟩

end Branch

namespace Lowering

variable {action : Lowering Unit} {start : Builder} {here : BlockRef}
  {functions : List (String × Closure)}
  {closures others : List Closure} {perform otherwise : Nat → Evaluation Signal}

/-- Statements are lowered to code that performs them, wherever that begins. -/
def PerformsAll (action : Lowering Unit) (functions : List (String × Closure))
    (closures : List Closure) (perform : Nat → Evaluation Signal) : Prop :=
  ∀ {start : Builder} {here : BlockRef}, Stage start start here [] →
    action.LowersTo start here
    (fun finish => ∃ behind, Performed functions behind closures perform start finish)
      fun _ => True

/-- An arm is lowered to code that performs it, wherever a block is open; behind it the frames are
as before. -/
def PerformsArm (action : Lowering Unit) (functions : List (String × Closure))
    (closures : List Closure) (perform : Nat → Evaluation Signal) : Prop :=
  ∀ {start : Builder} {here : BlockRef}, Stage start start here [] → start.HasOpen here →
    action.LowersTo start here
    (fun finish => Builder.Continues [] start.scopes.frames finish.scopes.frames ∧
      Performed functions functions closures perform start finish) fun _ => True

/-- The code of a condition decides what evaluating it decides. -/
theorem lowerCondition_follows (sound : start.Sound) (ready : start.Ready)
    (condition : Expression) :
    (lowerCondition condition.toTree).Ends start
      (fun operand finish => Imitates start finish
        (fun functions fuel => condition.evaluate functions (Closure.run fuel) >>= Evaluation.truth)
        fun activation holds => activation.value? operand = some (.boolean holds))
          fun _ _ => True := by
  unfold lowerCondition
  refine Computes.follow
    (required_computes (Tree.lowerExpression_computes_all.1 _ start sound ready))
    (Expression.required_follows _ (condition.lowerExpression_follows sound ready))
    fun value middle sound more holds follows => ?_
  -- A boolean is what it says, and a number is compared with zero.
  split
  · intro code fuel functions leads known
    rename_i boolean
    refine (follows code fuel functions leads known).bind more
      fun result next after waiting mirrors gives => ?_
    cases gives with
    | value has kind =>
    rename_i stored
    cases stored with
    | number _ =>
      rw [boolean] at kind
      cases kind
    | boolean holds => exact ⟨next, mirrors.arrives waiting, has⟩
  · rename_i number
    refine Computes.follow (differs_computes sound (more.ready ready) holds number) .any
      fun register finish _ added ⟨gains, _⟩ _ => ?_
    intro code fuel functions leads known
    refine (follows code fuel functions (leads.before added.code) known).bind more
      fun result next after waiting mirrors gives => ?_
    obtain ⟨stored, rfl, has⟩ := gives.number number
    have zero : next.value? (.number (.ofFloat 0.0)) = some (.number 0.0) := rfl
    -- The comparison is one more instruction, with its result in a register.
    obtain ⟨last, arrives, held⟩ :=
      mirrors.gains waiting gains rfl leads (.boolean (orderedDiffer stored 0.0))
        fun rest comes => by
          refine .step ((Configuration.step_eq code comes waiting).trans ?_)
          simp [differs, Configuration.perform, Configuration.continueWith,
            Activation.number?, has, zero]
    exact ⟨last, arrives, held .bool⟩

/-- Testing a condition extends the current block, by code that decides what evaluating it
decides. -/
theorem lowerCondition_tests (sound : start.Sound) (ready : start.Ready) (condition : Expression) :
    (lowerCondition condition.toTree).Ends start
      (fun operand finish => start.Extends finish ∧ Imitates start finish
        (fun functions fuel => condition.evaluate functions (Closure.run fuel) >>= Evaluation.truth)
        fun activation holds => activation.value? operand = some (.boolean holds))
      fun _ _ => True := by
  have computes := lowerCondition_computes sound ready condition.toTree
  -- What it computes and what follows from it, taken together.
  refine Ends.imp (Ends.and computes (lowerCondition_follows sound ready condition))
    (fun _ _ held => ?_) fun _ _ _ => trivial
  exact ⟨held.1.2.1, held.2⟩

/-- What is in a block is performed in a frame of its own. -/
theorem PerformsAll.inBlock (performs : action.PerformsAll functions closures perform) :
    (Lowering.inBlock action).PerformsArm functions closures fun fuel =>
      Evaluation.within (perform fuel) := by
  intro start here stage here_open
  refine stage.nest here_open fun inner => ?_
  refine (performs inner).imp (fun _ ended held => ⟨held.1, ?_⟩) fun _ _ held => held
  intro finish same_code same_block frames
  obtain ⟨⟨last, _, inside⟩, behind, performed⟩ := held
  have passes : start.Passes (start.pushed here {}) :=
    ⟨.refl _, rfl, fun _ _ known => known.push here {} _⟩
  refine ⟨frames, performed.around passes (same_code ▸ .refl _) (by rw [same_code])
    (fun _ known _ => known.continues frames (List.forall_mem_nil _))
    fun code fuel leads known acts => ?_⟩
  intro activation locals waiting mirrors
  rw [Evaluation.within_ends]
  -- The block begins with a layer of its own for the names in it.
  have begins : (start.pushed here {}).Mirrors code activation ([] :: locals) := by
    obtain ⟨block, body, current, found, body_open, at_⟩ := mirrors.placed
    cases stage.current.symm.trans current
    exact ⟨⟨here, body, rfl, found, body_open, at_⟩, mirrors.keeps.push here rfl _⟩
  obtain ⟨more, block, shape⟩ := inside.kept.frames
  refine (acts activation _ waiting begins).imp (fun signal after departs => ?_) id
  -- Behind the block its frame is gone, and code is emitted where the block has ended.
  refine departs.outside rfl rfl rfl fun next mirrors => ⟨?_, ?_⟩
  · obtain ⟨block, body, current, found, body_open, at_⟩ := mirrors.placed
    exact ⟨block, body, same_block.trans current, same_code ▸ found, body_open, at_⟩
  · exact ((shape ▸ mirrors.keeps).tail rfl).continues frames

/-- A branch with one arm performs it where its condition holds. -/
theorem PerformsArm.when (arm : action.PerformsArm functions closures perform)
    (stage : Stage start start here []) (here_open : start.HasOpen here) (condition : Expression) :
    (lowerChoice condition.toTree action none).LowersTo start here
      (Performed functions functions closures (fun fuel => do
        if ← Evaluation.truth (← condition.evaluate functions (Closure.run fuel)) then perform fuel
        else return .next) start)
      fun _ => True := by
  refine stage.chooseWhether here_open fun counted sound ready adds => ?_
  refine (lowerCondition_tests sound ready condition).imp (fun value tested held => ?_)
    fun _ _ held => held
  obtain ⟨more, follows⟩ := held
  intro first merge begun begins frames
  refine (arm begins.stage begins.hasOpen).imp (fun _ ended held => ⟨held.1, ?_⟩)
    fun _ _ held => held
  obtain ⟨⟨last, owner, inside⟩, inner, performed⟩ := held
  intro _ finish ends jumps outer
  have grows : begun.code.Grows finish.code := inside.kept.code.trans ends.code
  -- What is known in front of the branch is known where the arm begins.
  have passes := begins.passes adds more frames
  refine performed.around passes ends.code ends.handles
    (fun _ _ known => known.continues outer (List.forall_mem_nil _))
    fun code fuel leads known acts => ?_
  have other : ∀ at_, tested.block? = some at_ → merge.function = at_.function := fun at_ current =>
    (ends.owner last inside.current).trans (owner.trans (begins.owner at_ current))
  -- The condition decides between the arm and what stands behind it.
  intro activation locals waiting mirrors
  rw [Evaluation.decided_ends]
  refine (begins.decides adds frames follows other (leads.before grows) known mirrors waiting).imp
    (fun holds after held => ?_) id
  obtain ⟨entered, goes, at_, keeps⟩ := held
  -- Without the arm control goes behind the branch directly.
  cases holds with
  | false => exact .next goes (ends.mirrors at_ (keeps.continues (inner.trans outer)))
  | true =>
    have starts : Builder.Continues [] start.scopes.frames begun.scopes.frames := by
      rwa [more.scopes, adds.scopes] at frames
    exact acts.along goes (begins.mirrors at_ keeps) starts fun next after =>
      ends.onward jumps outer leads

/-- A branch with two arms performs the one that its condition says. -/
theorem PerformsArm.choose {alternate : Lowering Unit}
    (first_arm : action.PerformsArm functions closures perform)
    (second_arm : alternate.PerformsArm functions others otherwise)
    (stage : Stage start start here []) (here_open : start.HasOpen here) (condition : Expression) :
    (lowerChoice condition.toTree action (some alternate)).LowersTo start here
      (Performed functions functions (closures ++ others) (fun fuel => do
        if ← Evaluation.truth (← condition.evaluate functions (Closure.run fuel)) then perform fuel
        else otherwise fuel) start)
      fun _ => True := by
  refine stage.choose here_open fun counted sound ready adds => ?_
  refine (lowerCondition_tests sound ready condition).imp (fun value tested held => ?_)
    fun _ _ held => held
  obtain ⟨more, follows⟩ := held
  -- The first arm is lowered in its block, and the second one in its own behind it.
  intro first second merge begun begins frames
  refine (first_arm begins.stage begins.hasOpen).imp (fun _ ended held => ⟨held.1, ?_⟩)
    fun _ _ held => held
  obtain ⟨⟨last, owner, inside⟩, inner, performed⟩ := held
  intro _ other turns leaves between
  refine (second_arm turns.stage turns.hasOpen).imp (fun _ closed held => ⟨held.1, ?_⟩)
    fun _ _ held => held
  obtain ⟨⟨final, final_owner, further⟩, also_inner, also_performed⟩ := held
  intro _ finish ends jumps outer
  have late : other.code.Grows finish.code := further.kept.code.trans ends.code
  have grows : begun.code.Grows finish.code := inside.kept.code.trans (turns.code.trans late)
  have passes := begins.passes adds more frames
  -- The functions of the first arm come before those of the second one.
  have joined := performed.join
    (.of_continues turns.code turns.handles between) also_performed further.kept.code
  refine joined.around passes ends.code ends.handles
    (fun _ _ known => known.continues outer (List.forall_mem_nil _))
    fun code fuel leads known ⟨acts, also_acts⟩ => ?_
  -- Both arms go on in the same block.
  have second_owner : ∀ at_, tested.block? = some at_ → second.function = at_.function :=
    fun at_ current =>
      (turns.owner last inside.current).trans (owner.trans (begins.owner at_ current))
  have merge_owner : ∀ at_, ended.block? = some at_ → merge.function = at_.function :=
    fun at_ current =>
      (ends.owner final further.current).trans (final_owner.trans (turns.owner at_ current))
  have starts : Builder.Continues [] start.scopes.frames begun.scopes.frames := by
    rwa [more.scopes, adds.scopes] at frames
  intro activation locals waiting mirrors
  rw [Evaluation.decided_ends]
  refine (begins.decides adds frames follows second_owner
    (leads.before grows) known mirrors waiting).imp (fun holds after held => ?_) id
  obtain ⟨entered, goes, at_, keeps⟩ := held
  -- The second arm ends where emission goes on, while the first one has to jump there.
  cases holds with
  | false =>
    have across := inner.trans between
    exact also_acts.along goes (turns.mirrors at_ (keeps.continues across)) (starts.trans across)
      fun next after =>
        ends.onward jumps outer leads
  | true =>
    refine acts.along goes (begins.mirrors at_ keeps) starts fun next after mirrors => ?_
    obtain rfl := leaves mirrors.placed.ready
    obtain ⟨last, enters⟩ := mirrors.placed.jumps (leads.before late) turns.ends merge_owner
    have behind := (between.trans also_inner).trans outer
    exact ⟨last, enters.goes,
      ends.mirrors enters.at_ (enters.slots ▸ mirrors.keeps.continues behind)⟩

/-- A loop performs its body in rounds, each in a frame of its own. -/
theorem PerformsAll.loop (performs : action.PerformsAll functions closures perform)
    (stage : Stage start start here []) (here_open : start.HasOpen here) (condition : Expression)
    (label : Option String) :
    (lowerLoop condition.toTree label action).LowersTo start here
      (Performed functions functions closures (fun fuel => Evaluation.rounds label
        (do Evaluation.truth (← condition.evaluate functions (Closure.run fuel)))
          (Evaluation.within (perform fuel))
        (fuel + 1)) start) fun _ => True := by
  refine stage.loop here_open fun entered head turns frames => ?_
  have ready : entered.Ready := ⟨head, turns.current, turns.hasOpen⟩
  refine (lowerCondition_tests turns.sound ready condition).imp (fun value tested held => ?_)
    fun _ _ held => held
  obtain ⟨tests, follows⟩ := held
  -- The body is lowered in the frame of the loop.
  intro inside behind begun begins opened
  refine (performs begins.stage).imp (fun _ ended held => ⟨held.1, ?_⟩) fun _ _ held => held
  obtain ⟨⟨last, owner, inner⟩, _, performed⟩ := held
  intro more finish ends jumps continues
  have grows : begun.code.Grows finish.code := inner.kept.code.trans ends.code
  have late : tested.code.Grows finish.code := begins.code.trans grows
  rw [← tests.scopes] at frames
  -- What is known in front of the loop is known where its body begins.
  have passes : start.Passes begun := by
    refine ⟨turns.code.trans (tests.code.trans begins.code), ?_, fun _ _ known => ?_⟩
    · rw [begins.handles, tests.handles, turns.handles]
    · rw [opened]
      exact (known.continues frames (List.forall_mem_nil _)).push inside _ _
  refine performed.around passes ends.code ends.handles
    (fun _ known _ => (known.continues frames (List.forall_mem_nil _)).continues continues
      (List.forall_mem_nil _))
    fun code fuel leads known acts => ?_
  -- All blocks of the loop belong to the function of its head.
  have at_head : tested.block? = some head := tests.block?.trans turns.current
  have inside_owner : inside.function = head.function := begins.owner head at_head
  have last_owner : last.function = head.function := owner.trans inside_owner
  have behind_owner : behind.function = head.function :=
    (ends.owner last inner.current).trans last_owner
  obtain ⟨names, shape⟩ := inner.kept.frames
  rw [opened] at shape
  obtain ⟨block, shape⟩ := shape
  -- Where the parts of the loop begin, as a call finds them in each of its rounds.
  have loops : Loops code tested entered begun ended finish head inside behind label := {
    opened := opened
    enters := fun next locals at_ keeps => turns.mirrors at_ (tests.scopes ▸ keeps)
    begins := fun next locals at_ keeps => begins.mirrors at_ (opened ▸ keeps.push inside rfl _)
    exits := fun next locals at_ keeps => ends.mirrors at_ (keeps.continues continues)
    again := fun waiting next after mirrors => by
      obtain rfl := jumps mirrors.placed.ready
      obtain ⟨last, enters⟩ := mirrors.placed.jumps leads ends.ends fun at_ current => by
        cases current.symm.trans inner.current
        exact last_owner.symm
      have keeps := (shape ▸ mirrors.keeps).tail rfl
      exact ⟨last, enters.goes, turns.mirrors enters.at_ (enters.slots ▸ tests.scopes ▸ keeps)⟩ }
  have known : Knows (Simulates code fuel) entered.scopes.frames functions :=
    tests.scopes ▸ known.continues frames (List.forall_mem_nil _)
  have follows := follows code fuel functions (leads.before late) known
  have behind_from : ∀ at_, tested.block? = some at_ → behind.function = at_.function :=
    fun at_ current => by
      cases current.symm.trans at_head
      exact behind_owner
  intro activation locals waiting mirrors
  -- The current block jumps to the head, where the first round begins.
  obtain ⟨next, enters⟩ : ∃ next, activation.Enters code waiting next head :=
    mirrors.placed.jumps (leads.before (tests.code.trans late)) turns.ends turns.owner
  have first := turns.mirrors enters.at_
    (enters.slots ▸ mirrors.keeps.continues (tests.scopes ▸ frames))
  refine (acts.rounds loops (fun activation locals waiting mirrors =>
    begins.tests (leads.before grows) behind_from follows mirrors) (Nat.le_refl _) first).imp
    (fun signal after departs => departs.before enters.goes frames) enters.goes.reaches.lasts

end Lowering

end LoopLang
