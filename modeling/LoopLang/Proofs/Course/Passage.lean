import LoopLang.Proofs.Course.Act
import LoopLang.Proofs.Lowering.Tree

/-!
The passage of a course: what holds at every moment of it. Each act is performed on a sound builder,
in an open block where it needs one; what is emitted goes to new blocks or to those of the loops
around; and nothing goes to the blocks of statements that stand behind a terminator.
-/

namespace LoopLang

open Code (Instruction Module)

namespace Act

/-- Acts that need an open block: what emits or reserves something, and the beginning of a
statement. -/
def NeedsOpen : Act → Prop
  | emit .. | reserve .. | statement _ => True
  | addBlock .. | addFunction .. | count | note _ | moveTo _ | declare .. | push .. | pop
  | statements _ => False

/-- An act is performed where it may be. -/
structure Proper (act : Act) (moment : Builder) : Prop where
  sound : moment.Sound
  ready : act.NeedsOpen → moment.Ready

/-- Some acts lead through a moment at which an act is next. -/
inductive Meets : (start : Builder) → (acts : List Act) → (moment : Builder) → (next : Act) → Prop
  | here {start : Builder} {act : Act} {rest : List Act} : Meets start (act :: rest) start act
  | later {start moment : Builder} {act next : Act} {rest : List Act}
      (meets : Meets (act.perform start) rest moment next) :
    Meets start (act :: rest) moment next

/-- Nothing is next where nothing is left to do. -/
theorem not_meets_nil {start moment : Builder} {next : Act} : ¬ Meets start [] moment next := by
  intro meets
  cases meets

/-- The moments of two lists of acts are those of the first one, and then those of the second
one. -/
theorem meets_append {start moment : Builder} {next : Act} {first second : List Act} :
    Meets start (first ++ second) moment next ↔
      Meets start first moment next ∨ Meets (performAll start first) second moment next := by
  -- Taking the first act off leaves the same question from the builder behind it.
  induction first generalizing start with
  | nil => exact ⟨.inr, fun held => held.elim (absurd · not_meets_nil) id⟩
  | cons act rest ih =>
    constructor
    · intro meets
      cases meets with
      | here => exact .inl .here
      | later meets => exact (ih.mp meets).imp_left .later
    · rintro (meets | meets)
      · cases meets with
        | here => exact .here
        | later meets => exact .later (ih.mpr (.inl meets))
      · exact .later (ih.mpr (.inr meets))

/-- Each of some acts is performed where it may be. -/
def AllProper (start : Builder) (acts : List Act) : Prop :=
  ∀ moment next, Meets start acts moment next → next.Proper moment

/-- Nothing to do is proper anywhere. -/
theorem AllProper.nil (start : Builder) : AllProper start [] :=
  fun _ _ meets => absurd meets not_meets_nil

/-- The second of two parts has to be proper from where the first one leads. -/
theorem AllProper.append {start : Builder} {first second : List Act} (begun : AllProper start first)
    (ended : AllProper (performAll start first) second) : AllProper start (first ++ second) :=
  fun moment next meets => (meets_append.mp meets).elim (begun moment next) (ended moment next)

/-- A mark in front of some acts may stand anywhere. -/
theorem AllProper.mark {start : Builder} {acts : List Act} {items : List Tree} (sound : start.Sound)
    (proper : AllProper start acts) : AllProper start (.statements items :: acts) := by
  intro moment next meets
  cases meets with
  | here => exact ⟨sound, False.elim⟩
  | later meets => exact proper moment next meets

/-- A single act is next at its start only. -/
theorem meets_single {start moment : Builder} {act next : Act} :
    Meets start [act] moment next ↔ moment = start ∧ next = act := by
  constructor
  · intro meets
    cases meets with
    | here => exact ⟨rfl, rfl⟩
    | later meets => exact absurd meets not_meets_nil
  · rintro ⟨rfl, rfl⟩
    exact .here

end Act

/-- What is added to code goes to blocks that are new, or that are allowed. -/
def Code.Module.Aims (allowed : BlockRef → Prop) (code later : Module) : Prop :=
  ∀ block body, later.body? block = some body → ∀ instruction ∈ body,
    (∃ old, code.body? block = some old ∧ instruction ∈ old) ∨
      ∀ target ∈ instruction.targets,
        code.body? ⟨block.function, target⟩ = none ∨ allowed ⟨block.function, target⟩

/-- Instructions that end nothing go nowhere. -/
theorem Code.Unended.targets {body : List Instruction} (body_open : Code.Unended body)
    {instruction : Instruction} (member : instruction ∈ body) : instruction.targets = [] := by
  have goes_on := body_open instruction member
  cases instruction <;> first | rfl | cases goes_on

namespace Code.Module

variable {code middle later : Module} {allowed other : BlockRef → Prop}

/-- Where no body is longer nothing goes anywhere. -/
theorem Aims.of_old
    (old : ∀ block body, later.body? block = some body → body = [] ∨ code.body? block = some body) :
    code.Aims allowed later := by
  intro block body found instruction member
  rcases old block body found with rfl | before
  · cases member
  · exact .inl ⟨body, before, member⟩

/-- Where nothing is added nothing goes anywhere. -/
theorem Aims.refl (code : Module) : code.Aims allowed code := .of_old fun _ _ found => .inr found

/-- What is added in two parts goes where each of them may go. -/
theorem Aims.trans (first : code.Aims allowed middle) (grows : code.Grows middle)
    (second : middle.Aims other later)
    (weaker : ∀ block, other block → allowed block ∨ code.body? block = none) :
    code.Aims allowed later := by
  intro block body found instruction member
  -- An instruction of the second part goes where that part may go; all others are from the first
  -- part or older.
  rcases second block body found instruction member with ⟨old, before, inside⟩ | goes
  · exact first block old before instruction inside
  · refine .inr fun target leads => ?_
    rcases goes target leads with absent | may
    · exact .inl (grows.body?_eq_none absent)
    · exact (weaker _ may).symm

/-- More may be allowed. -/
theorem Aims.imp (aims : code.Aims allowed later) (weaker : ∀ block, allowed block → other block) :
    code.Aims other later :=
  fun block body found instruction member => (aims block body found instruction member).imp_right
    fun goes target leads => (goes target leads).imp_right (weaker _)

end Code.Module

namespace Builder

/-- A block that jumps within an open loop go to. -/
def LoopTarget (builder : Builder) (block : BlockRef) : Prop :=
  ∃ frame ∈ builder.scopes.frames, block ∈ frame.nextRound ∨ block ∈ frame.loopExit

/-- The blocks of open loops are there. -/
theorem Sound.loopTarget {builder : Builder} (sound : builder.Sound) {block : BlockRef}
    (target : builder.LoopTarget block) :
    ∃ body, builder.code.body? block = some body := by
  obtain ⟨frame, member, goes⟩ := target
  have fits := sound.fits frame member
  -- The frame of a loop knows its two blocks, and both fit to the code.
  have placed : block.IsTarget builder.code frame.home :=
    goes.elim (fits.nextRound block) (fits.loopExit block)
  obtain ⟨owner, function, found, ⟨body, inside⟩, -⟩ := placed
  exact ⟨body, by simp [Module.body?, owner, found, inside]⟩

/-- Loops stay open while frames go on. -/
theorem Continues.loopTarget {builder later : Builder} {more : List (String × Binding)}
    (continues : Continues more builder.scopes.frames later.scopes.frames) {block : BlockRef} :
    later.LoopTarget block ↔ builder.LoopTarget block := by
  unfold LoopTarget
  -- The frames differ only in the bindings of the innermost one.
  cases frames : builder.scopes.frames with
  | nil =>
    rw [frames] at continues
    rw [continues.1]
  | cons frame outer =>
    rw [frames] at continues
    obtain ⟨last, ended⟩ := continues
    simp [ended]

/-- What is added to the current block goes where its instructions go. -/
theorem Adds.aims {builder later : Builder} {more : List Instruction}
    (adds : builder.Adds later more) {allowed : BlockRef → Prop}
    (goes : ∀ here, builder.block? = some here → ∀ instruction ∈ more,
      ∀ target ∈ instruction.targets, allowed ⟨here.function, target⟩) :
    builder.code.Aims allowed later.code := by
  intro block body found instruction member
  rw [adds.bodies] at found
  split at found
  · rename_i here
    obtain ⟨old, before, rfl⟩ := Option.map_eq_some_iff.mp found
    -- An instruction of the longer block was there before, or has just been added.
    rcases List.mem_append.mp member with inside | new
    · exact .inl ⟨old, before, inside⟩
    · exact .inr fun target leads => .inr (goes block here instruction new target leads)
  · exact .inl ⟨body, found, member⟩

/-- What only goes on goes to no other block. -/
theorem Extends.aims {builder later : Builder} (more : builder.Extends later)
    {allowed : BlockRef → Prop} :
    builder.code.Aims allowed later.code := by
  obtain ⟨rest, adds, rest_open⟩ := more
  refine adds.aims fun here _ instruction member target leads => ?_
  rw [rest_open.targets member] at leads
  cases leads

/-- A new block goes to no other one. -/
theorem Makes.aims {builder later : Builder} {block : BlockRef} (makes : builder.Makes later block)
    {allowed : BlockRef → Prop} : builder.code.Aims allowed later.code := by
  -- The new block is empty, and every other one is as it was.
  refine .of_old fun other body found => ?_
  rw [makes.bodies] at found
  split at found
  · exact .inl (Option.some.inj found).symm
  · exact .inr found

/-- Where statements begin, emission goes on in an open block. -/
def reopened (builder : Builder) : Builder := (Lowering.ensureOpen.outcome builder).2

/-- Blocks of the current function that are made while some statements are lowered. -/
structure Strands (moment : Builder) (items : List Tree) (block : BlockRef) : Prop where
  owner : ∃ here, moment.block? = some here ∧ block.function = here.function
  fresh : moment.code.body? block = none
  made : ∃ body, ((Tree.lowerStatements items).outcome moment).2.code.body? block = some body

end Builder

/-- Statements behind which nothing of the same list is done. -/
def Tree.Departs : Tree → Prop
  | returnStatement .. | breakStatement .. | continueStatement .. => True
  | _ => False

namespace Lowering

variable {α β : Type} {action : Lowering α} {base start finish moment : Builder}
  {before acts : List Act}
  {waiting more : List BlockRef} {items : List Tree}

/--
Statements that began behind a terminator have been left behind: they changed no block that was
there, nothing goes to the block that they began in, nothing from outside goes to any block of
theirs, and what still waits is none of these.
-/
structure Sealed (base moment : Builder) (items : List Tree) (builder : Builder)
    (waiting : List BlockRef) : Prop where
  ahead : base.code.Grows moment.code
  during : moment.code.Grows ((Tree.lowerStatements items).outcome moment).2.code
  behind : ((Tree.lowerStatements items).outcome moment).2.code.Grows builder.code
  island : ∃ block, moment.reopened.block? = some block ∧ moment.Strands items block
  apart : ∀ block ∈ waiting, ¬ moment.Strands items block
  kept : ∀ block body, moment.code.body? block = some body →
    ((Tree.lowerStatements items).outcome moment).2.code.body? block = some body
  untargeted : ∀ block body, builder.code.body? block = some body → ∀ instruction ∈ body,
    ∀ target ∈ instruction.targets, moment.reopened.block? ≠ some ⟨block.function, target⟩
  inside : ∀ block body, builder.code.body? block = some body → ∀ instruction ∈ body,
    ∀ target ∈ instruction.targets, moment.Strands items ⟨block.function, target⟩ →
    moment.Strands items block

/-- A block that was left behind is still there. -/
theorem Sealed.placed {builder : Builder} (left : Sealed base moment items builder waiting)
    {block : BlockRef} (strands : moment.Strands items block) :
    ∃ body, builder.code.body? block = some body := by
  obtain ⟨body, found⟩ := strands.made
  obtain ⟨rest, held⟩ := left.behind.body? found
  exact ⟨_, held⟩

/-- What is added later goes to none of the blocks that were left behind. -/
theorem Sealed.step (left : Sealed base moment items start waiting) (begun : base.Sound)
    (grows : start.code.Grows finish.code)
    (aims : start.code.Aims (fun block => block ∈ waiting ∨ base.LoopTarget block) finish.code)
    (kept : ∀ block ∈ more, block ∈ waiting ∨ start.code.body? block = none) :
    Sealed base moment items finish more := by
  -- An instruction that goes to a block that was left behind was there before.
  have old : ∀ block body, finish.code.body? block = some body → ∀ instruction ∈ body,
      ∀ target ∈ instruction.targets,
      moment.Strands items ⟨block.function, target⟩ → ∃ old,
      start.code.body? block = some old ∧ instruction ∈ old := by
    intro block body found instruction member target leads strands
    refine (aims block body found instruction member).resolve_right fun goes => ?_
    -- What is new goes to no block of theirs: that is there, waits for nothing, and is younger than
    -- the loops around.
    obtain ⟨there, held⟩ := left.placed strands
    rcases goes target leads with absent | waits | loops
    · rw [held] at absent
      cases absent
    · exact left.apart _ waits strands
    · obtain ⟨inner, present⟩ := begun.loopTarget loops
      obtain ⟨_, longer⟩ := left.ahead.body? present
      rw [strands.fresh] at longer
      cases longer
  refine ⟨left.ahead, left.during, left.behind.trans grows, left.island,
    fun block member strands => ?_, left.kept, ?_, ?_⟩
  -- Blocks that wait are not left behind, whether they waited before or are new.
  · rcases kept block member with waits | absent
    · exact left.apart block waits strands
    · obtain ⟨body, held⟩ := left.placed strands
      rw [absent] at held
      cases held
  -- So nothing new goes to the block in which the statements began, or into theirs from outside.
  · intro block body found instruction member target leads same
    obtain ⟨first, at_, strands⟩ := left.island
    cases at_.symm.trans same
    obtain ⟨earlier, held, inside⟩ := old block body found instruction member target leads strands
    exact left.untargeted block earlier held instruction inside target leads same
  · intro block body found instruction member target leads strands
    obtain ⟨earlier, held, inside⟩ := old block body found instruction member target leads strands
    exact left.inside block earlier held instruction inside target leads strands

/-- Behind the first of some statements the others are next, behind its terminator if it departs. -/
def Ensues (base : Builder) (acts : List Act) (moment : Builder) (first : Tree) (rest : List Tree) :
    Prop :=
  ∃ middle, Act.Meets base acts middle (.statements rest) ∧
    first.lowerStatement.Yields moment.reopened () middle ∧
    ∃ here, middle.block? = some here ∧ (first.Departs → middle.code.isTerminated here = true)

/-- What ensues goes on to do so when more is done. -/
theorem Ensues.extend {first : Tree} {rest : List Tree} {later : List Act}
    (ensues : Ensues base acts moment first rest) :
    Ensues base (acts ++ later) moment first rest := by
  obtain ⟨middle, meets, held⟩ := ensues
  exact ⟨middle, Act.meets_append.mpr (.inl meets), held⟩

/-- What ensues does so behind what was done before. -/
theorem Ensues.within {first : Tree} {rest : List Tree}
    (ensues : Ensues start acts moment first rest) (reaches : Act.performAll base before = start) :
    Ensues base (before ++ acts) moment first rest := by
  obtain ⟨middle, meets, held⟩ := ensues
  exact ⟨middle, Act.meets_append.mpr (.inr (reaches ▸ meets)), held⟩

/-- Some acts have led from a base to a builder, and some new blocks wait for them to go on. -/
structure Passage (base : Builder) (acts : List Act) (builder : Builder) (waiting : List BlockRef) :
    Prop where
  begun : base.Sound
  reaches : Act.performAll base acts = builder
  proper : Act.AllProper base acts
  grows : base.code.Grows builder.code
  awaits : ∀ block ∈ waiting, base.code.body? block = none ∧ ∃ body,
    builder.code.body? block = some body
  aims : base.code.Aims base.LoopTarget builder.code
  left : ∀ moment items, Act.Meets base acts moment (.statements items) → ¬ moment.Ready →
    Sealed base moment items builder waiting
  ensues : ∀ moment first rest, Act.Meets base acts moment (.statements (first :: rest)) →
    rest ≠ [] → Ensues base acts moment first rest

/-- Acts that are proper, none of which marks the rest of a block. -/
def Course.Flows (course : Course action) (start : Builder) : Prop :=
  ∀ moment act, Act.Meets start (course.acts start) moment act → act.Proper moment ∧ ∀ items,
    act ≠ .statements items

/-- However a computation ends, what it has done by then, behind what was done before, is as
wanted. -/
def Course.Leads (course : Course action) (before : List Act) (start : Builder)
    (done : α → Builder → List Act → Prop) (failed : Builder → List Act → Prop) : Prop :=
  match action.outcome start with
  | (.ok answer, finish) => done answer finish (before ++ course.acts start)
  | (.error _, finish) => failed finish (before ++ course.acts start)

namespace Passage

/-- Nothing has been done yet. -/
theorem refl (sound : base.Sound) : Passage base [] base [] where
  begun := sound
  reaches := rfl
  proper := .nil base
  grows := .refl _
  awaits := List.forall_mem_nil _
  aims := .refl _
  left := fun _ _ meets => absurd meets Act.not_meets_nil
  ensues := fun _ _ _ meets => absurd meets Act.not_meets_nil

/-- More is done, without any mark; new blocks may be waiting from now on. -/
theorem step (passage : Passage base before start waiting)
    (reaches : Act.performAll start acts = finish)
    (flows : ∀ moment act, Act.Meets start acts moment act → act.Proper moment ∧ ∀ items,
      act ≠ .statements items)
    (grows : start.code.Grows finish.code)
    (aims : start.code.Aims (fun block => block ∈ waiting ∨ base.LoopTarget block) finish.code)
    (kept : ∀ block ∈ more, block ∈ waiting ∨ start.code.body? block = none ∧ ∃ body,
      finish.code.body? block = some body) :
    Passage base (before ++ acts) finish more where
  begun := passage.begun
  reaches := by rw [Act.performAll_append, passage.reaches, reaches]
  proper := passage.proper.append fun moment act meets =>
    (flows moment act (passage.reaches ▸ meets)).1
  grows := passage.grows.trans grows
  -- A block waits from before, or is made by these acts.
  awaits := fun block member => by
    rcases kept block member with waits | ⟨absent, made⟩
    · obtain ⟨fresh, body, held⟩ := passage.awaits block waits
      obtain ⟨rest, longer⟩ := grows.body? held
      exact ⟨fresh, _, longer⟩
    · exact ⟨passage.grows.body?_eq_none absent, made⟩
  aims := passage.aims.trans passage.grows aims fun block may =>
    may.elim (fun waits => .inr (passage.awaits block waits).1) .inl
  -- No mark is among the new acts, so that nothing is left behind by them; what was left behind
  -- stays so.
  left := fun moment items meets behind => by
    rcases Act.meets_append.mp meets with earlier | later
    · exact (passage.left moment items earlier behind).step passage.begun grows aims
        fun block member =>
          (kept block member).imp_right And.left
    · exact absurd rfl ((flows moment _ (passage.reaches ▸ later)).2 items)
  -- What comes behind a statement has been recorded before; there is nothing new.
  ensues := fun moment first rest meets more => by
    rcases Act.meets_append.mp meets with earlier | later
    · exact (passage.ensues moment first rest earlier more).extend
    · exact absurd rfl ((flows moment _ (passage.reaches ▸ later)).2 _)

/-- A part that has a passage of its own is a part of the whole one. -/
theorem through (passage : Passage base before start waiting) (inner : Passage start acts finish [])
    (loops : ∀ block, start.LoopTarget block → block ∈ waiting ∨ base.LoopTarget block) :
    Passage base (before ++ acts) finish waiting where
  begun := passage.begun
  reaches := by rw [Act.performAll_append, passage.reaches, inner.reaches]
  proper := passage.proper.append (passage.reaches ▸ inner.proper)
  grows := passage.grows.trans inner.grows
  -- What waits outside still waits behind the part inside.
  awaits := fun block member => by
    obtain ⟨fresh, body, held⟩ := passage.awaits block member
    obtain ⟨rest, longer⟩ := inner.grows.body? held
    exact ⟨fresh, _, longer⟩
  aims := passage.aims.trans passage.grows inner.aims fun block target =>
    (loops block target).elim (fun waits => .inr (passage.awaits block waits).1) .inl
  left := fun moment items meets behind => by
    rcases Act.meets_append.mp meets with earlier | later
    · exact (passage.left moment items earlier behind).step passage.begun inner.grows
        (inner.aims.imp loops) fun _ => .inl
    -- What waits outside was there before the part began, so it is no block that the part has left
    -- behind.
    · have left := inner.left moment items (passage.reaches ▸ later) behind
      refine ⟨passage.grows.trans left.ahead, left.during, left.behind, left.island,
        fun block member strands => ?_, left.kept, left.untargeted, left.inside⟩
      obtain ⟨_, body, held⟩ := passage.awaits block member
      obtain ⟨rest, longer⟩ := left.ahead.body? held
      rw [strands.fresh] at longer
      cases longer
  -- What comes behind a statement is recorded outside or inside.
  ensues := fun moment first rest meets more => by
    rcases Act.meets_append.mp meets with earlier | later
    · exact (passage.ensues moment first rest earlier more).extend
    · exact (inner.ensues moment first rest (passage.reaches ▸ later) more).within passage.reaches

/-- Fewer blocks may be waiting. -/
theorem fewer (passage : Passage base before start waiting) (kept : more ⊆ waiting) :
    Passage base before start more := by
  have same : Passage base (before ++ []) start more :=
    passage.step rfl (fun _ _ meets => absurd meets Act.not_meets_nil) (.refl _) (.refl _)
      fun block member => .inl (kept member)
  rwa [List.append_nil] at same

end Passage

namespace Course

variable {course : Course action} {done wanted : α → Builder → List Act → Prop}
  {failed refused : Builder → List Act → Prop}

/-- Less may be wanted of either end. -/
theorem Leads.imp (leads : course.Leads before start done failed)
    (succeeds : ∀ answer finish acts, done answer finish acts → wanted answer finish acts)
    (fails : ∀ finish acts, failed finish acts → refused finish acts) :
    course.Leads before start wanted refused := by
  unfold Leads at *
  -- The course ends in one of the two ways.
  split <;> rename_i ended <;> rw [ended] at leads
  · exact succeeds _ _ _ leads
  · exact fails _ _ leads

/-- The acts of two computations, the second of which is there only if the first one succeeds. -/
theorem bind_acts {next : α → Lowering β} {second : ∀ answer, Course (next answer)} :
    (course.bind second).acts start = course.acts start ++
      match action.outcome start with
      | (.ok answer, middle) => (second answer).acts middle
      | (.error _, _) => [] := rfl

/-- Two computations lead as wanted, if the second one does behind whatever the first one has
done. -/
theorem Leads.bind {next : α → Lowering β} {second : ∀ answer, Course (next answer)}
    {done : β → Builder → List Act → Prop}
    (first : course.Leads before start
      (fun answer middle acts => (second answer).Leads acts middle done failed) failed) :
    (course.bind second).Leads before start done failed := by
  unfold Leads at first ⊢
  rw [outcome_bind, bind_acts]
  -- After a failure there are no more acts, and what they did so far has to do.
  cases ended : action.outcome start with
  | mk result middle =>
    rw [ended] at first
    cases result with
    | error failure => simpa only [List.append_nil] using first
    | ok answer => simpa only [List.append_assoc] using first

/-- The second of two computations leads on from wherever the first one has led. -/
theorem Leads.then {next : α → Lowering β} {second : ∀ answer, Course (next answer)}
    {done : β → Builder → List Act → Prop} (first : course.Leads before start wanted failed)
    (rest : ∀ answer middle acts,
      wanted answer middle acts → (second answer).Leads acts middle done failed) :
    (course.bind second).Leads before start done failed :=
  .bind (first.imp rest fun _ _ held => held)

/-- What is known of how a computation ends holds besides. -/
theorem Leads.and_ends {ended : α → Builder → Prop} {stopped : Failure → Builder → Prop}
    (leads : course.Leads before start done failed) (ends : action.Ends start ended stopped) :
    course.Leads before start
      (fun answer finish acts => done answer finish acts ∧ ended answer finish)
      fun finish acts => failed finish acts ∧ ∃ failure, stopped failure finish := by
  unfold Leads Ends at *
  revert leads ends
  rcases action.outcome start with ⟨failure | answer, finish⟩
  · exact fun leads ends => ⟨leads, failure, ends⟩
  · exact fun leads ends => ⟨leads, ends⟩

/-- What is done behind what was done before are the acts of the course. -/
theorem Leads.and_acts (leads : course.Leads before start done failed) :
    course.Leads before start
      (fun answer finish acts => done answer finish acts ∧ acts = before ++ course.acts start)
      failed := by
  unfold Leads at *
  revert leads
  rcases action.outcome start with ⟨failure | answer, finish⟩
  · exact id
  · exact fun leads => ⟨leads, rfl⟩

/-- What leads on its own leads behind what was done before. -/
theorem Leads.behind (leads : course.Leads [] start done failed) (before : List Act) :
    course.Leads before start
      (fun answer finish acts => ∃ inner, acts = before ++ inner ∧ done answer finish inner)
      fun finish acts => ∃ inner, acts = before ++ inner ∧ failed finish inner := by
  unfold Leads at *
  revert leads
  rcases action.outcome start with ⟨failure | answer, finish⟩ <;> exact fun leads => ⟨_, rfl, leads⟩

/-- One of two computations leads as wanted. -/
theorem Leads.ite {condition : Prop} [decided : Decidable condition] {other : Lowering α}
    {second : Course other} (first : condition → course.Leads before start done failed)
    (otherwise : ¬ condition → second.Leads before start done failed) :
    (Course.ite course second : Course (if condition then action else other)).Leads before start
      done failed := by
  cases decided with
  | isTrue held => exact first held
  | isFalse absent => exact otherwise absent

/-- A mark stands in front of what is done. -/
theorem Leads.marked {mark : Act} {silent : ∀ start, mark.perform start = start}
    (leads : course.Leads (before ++ [mark]) start done failed) :
    (course.marked mark silent).Leads before start done failed := by
  -- The mark is the first act, and it changes nothing.
  have same : before ++ (course.marked mark silent).acts start = (before ++ [mark]) ++
      course.acts start := by
    simp [Course.marked]
  unfold Leads at leads ⊢
  rw [same]
  exact leads

/-- Courses of the same computation lead to the same. -/
theorem Leads.of_eq {other : Lowering α} {same : action = other}
    (leads : course.Leads before start done failed) :
    (course.of_eq same).Leads before start done failed := by
  subst same
  exact leads

end Course

namespace Passage

variable {course : Course action} {done : α → Builder → Prop}

/-- What flows on is a part of the passage, behind which other blocks may be waiting. -/
theorem leads_more (passage : Passage base before start waiting) (flows : course.Flows start)
    (more : α → List BlockRef)
    (ends : action.Ends start
      (fun answer finish => start.code.Grows finish.code ∧ start.code.Aims
        (fun block => block ∈ waiting ∨ base.LoopTarget block) finish.code ∧
        (∀ block ∈ more answer, block ∈ waiting ∨ start.code.body? block = none ∧ ∃ body,
          finish.code.body? block = some body) ∧ done answer finish) fun _ _ => True) :
    course.Leads before start
      (fun answer finish acts => Passage base acts finish (more answer) ∧ done answer finish)
      fun _ acts => Act.AllProper base acts := by
  have reaches := course.reaches start
  unfold Course.Leads Ends at *
  revert ends reaches
  rcases action.outcome start with ⟨failure | answer, finish⟩
  -- After a failure only the acts done so far have to be proper.
  · exact fun _ _ => passage.proper.append fun moment act meets =>
      (flows moment act (passage.reaches ▸ meets)).1
  · exact fun ⟨grows, aims, kept, answered⟩ reaches =>
      ⟨passage.step reaches flows grows aims kept, answered⟩

/-- What flows on is a part of the passage. -/
theorem leads (passage : Passage base before start waiting) (flows : course.Flows start)
    (ends : action.Ends start
      (fun answer finish => start.code.Grows finish.code ∧ start.code.Aims
        (fun block => block ∈ waiting ∨ base.LoopTarget block) finish.code ∧ done answer finish)
          fun _ _ => True) :
    course.Leads before start
      (fun answer finish acts => Passage base acts finish waiting ∧ done answer finish)
      fun _ acts => Act.AllProper base acts :=
  passage.leads_more flows (fun _ => waiting) (ends.imp
    (fun _ _ held => ⟨held.1, held.2.1, fun _ => .inl, held.2.2⟩) fun _ _ _ => trivial)

/-- The same where nothing else is known of the end. -/
theorem leads_on (passage : Passage base before start waiting) (flows : course.Flows start)
    (ends : action.Ends start
      (fun _ finish => start.code.Grows finish.code ∧ start.code.Aims
        (fun block => block ∈ waiting ∨ base.LoopTarget block) finish.code) fun _ _ => True) :
    course.Leads before start (fun _ finish acts => Passage base acts finish waiting)
      fun _ acts => Act.AllProper base acts := by
  -- What flows from here to here keeps the passage.
  have leads := passage.leads flows
    (ends.imp (fun _ _ held => ⟨held.1, held.2, held.1⟩) fun _ _ held => held)
  exact leads.imp (fun _ _ _ held => held.1) fun _ _ held => held

end Passage

end Lowering

end LoopLang
