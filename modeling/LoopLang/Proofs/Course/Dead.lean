import LoopLang.Proofs.Course.Moments
import LoopLang.Proofs.Execution.Machine
import Mathlib.Data.List.Forall2

/-!
Dead code: what is lowered from statements behind a terminator stands in blocks that control never
comes to, neither along the jumps of its function nor in any run.
-/

namespace LoopLang

namespace Code

/-- Control can come from the first block of a function to the one with a label. -/
inductive Function.Reachable (function : Function) : String → Prop
  | start {label : String} (first : function.start? = some label) : Reachable function label
  | goes {label target : String} {block : Block} {instruction : Instruction}
      (before : Reachable function label) (found : function.block? label = some block)
      (stands : instruction ∈ block.instructions) (leads : target ∈ instruction.targets) :
      Reachable function target

/-- The blocks where the calls in progress stand, the active one first, behind the next instruction
of that call. -/
def Instruction.places (module : Module) (active : Activation) (places : List BlockRef) :
    Instruction → List BlockRef
  | jump target => places.modifyHead ({ · with label := target })
  | branch condition whenTrue whenFalse =>
    places.modifyHead
      ({ · with label := if active.boolean? condition = some true then whenTrue else whenFalse })
  -- A call puts the first block of its callee on top, and a return takes it away.
  | call _ callee _ =>
    match (module.function? callee).bind (·.start?) with
    | some label => ⟨callee, label⟩ :: places
    | none => places
  | returnVoid | returnValue _ => places.tail
  | _ => places

/-- What an execution of a call comes to, step by step, and in which blocks the calls in progress
stand there. -/
inductive Walks (module : Module) (start : Activation) : Configuration → List BlockRef → Prop
  | start {label : String} (first : start.function.start? = some label) :
    Walks module start ⟨start, []⟩ [⟨start.function.name, label⟩]
  | step {configuration next : Configuration} {places : List BlockRef} {instruction : Instruction}
      {rest : List Instruction} (before : Walks module start configuration places)
      (comes : configuration.active.rest = instruction :: rest)
      (steps : configuration.step module = .running next) :
    Walks module start next (instruction.places module configuration.active places)

/-- No execution is left out: whatever the next step leads to, the calls stand somewhere. -/
theorem Walks.next {module : Module} {start : Activation} {configuration next : Configuration}
    {places : List BlockRef} (walks : Walks module start configuration places)
    (steps : configuration.step module = .running next) :
    ∃ places, Walks module start next places := by
  cases comes : configuration.active.rest with
  | nil => simp [Configuration.step, comes] at steps
  | cons instruction rest => exact ⟨_, walks.step comes steps⟩

/-- A call stands in a block of its function that control can come to, in front of some of its last
instructions. -/
structure Activation.Stands (module : Module) (activation : Activation) (place : BlockRef) :
    Prop where
  owner : module.function? place.function = some activation.function
  within : ∃ block, activation.function.block? place.label = some block ∧
    activation.rest <:+ block.instructions
  reachable : activation.function.Reachable place.label

namespace Activation.Stands

variable {module : Module} {activation next : Activation} {place : BlockRef}
  {instruction : Instruction}
  {rest : List Instruction}

/-- A call begins in the first block of its function. -/
theorem start {name : Name} {function : Function} (found : module.function? name = some function)
    {arguments : List Value} (starts : Activation.start? function arguments = some activation) :
    ∃ label, function.start? = some label ∧ activation.Stands module ⟨name, label⟩ := by
  unfold Activation.start? at starts
  split at starts
  · obtain ⟨block, first, rfl⟩ := Option.map_eq_some_iff.mp starts
    -- Execution starts at the first block of the function.
    obtain ⟨others, blocks⟩ := List.head?_eq_some_iff.mp first
    have begins : function.start? = some block.label := by simp [Function.start?, blocks]
    exact ⟨block.label, begins, found,
      ⟨block, by simp [Function.block?, blocks], List.suffix_refl _⟩, .start begins⟩
  · cases starts

/-- It goes on in its block behind an instruction. -/
theorem advance (stands : activation.Stands module place)
    (comes : activation.rest = instruction :: rest) (same : next.function = activation.function)
    (left : next.rest = rest) : next.Stands module place where
  owner := same ▸ stands.owner
  within := by
    obtain ⟨block, found, inside⟩ := stands.within
    exact ⟨block, same ▸ found, left ▸ (List.suffix_cons instruction rest).trans (comes ▸ inside)⟩
  reachable := same ▸ stands.reachable

/-- It goes to a block that the instruction leads to. -/
theorem enter (stands : activation.Stands module place)
    (comes : activation.rest = instruction :: rest) {target : String}
    (leads : target ∈ instruction.targets)
    (enters : Activation.enter? { activation with rest } target = some next) :
    next.Stands module ⟨place.function, target⟩ := by
  obtain ⟨block, found, inside⟩ := stands.within
  obtain ⟨other, met, rfl⟩ := Option.map_eq_some_iff.mp enters
  -- The instruction belongs to the block, so its targets can be reached from there.
  have member : instruction ∈ block.instructions := inside.subset (comes ▸ List.mem_cons_self)
  exact ⟨stands.owner, ⟨other, met, List.suffix_refl _⟩, stands.reachable.goes found member leads⟩

end Activation.Stands

/-- Each of the calls in progress stands in its block. -/
def Configuration.Stands (module : Module) (configuration : Configuration)
    (places : List BlockRef) : Prop :=
  List.Forall₂ (Activation.Stands module)
    (configuration.active :: configuration.waiting.map Waiting.activation) places

namespace Configuration.Stands

variable {module : Module} {configuration next : Configuration} {place : BlockRef}
  {places : List BlockRef}

/-- Some call stands in each of the blocks. -/
theorem call (stands : configuration.Stands module places) (member : place ∈ places) :
    ∃ activation : Activation, activation.Stands module place := by
  unfold Configuration.Stands at stands
  -- The active function and the waiting ones are one list.
  generalize configuration.active :: configuration.waiting.map Waiting.activation = calls at stands
  induction stands with
  | nil => cases member
  | cons first _ ih =>
    rcases List.mem_cons.mp member with rfl | later
    · exact ⟨_, first⟩
    · exact ih later

/-- The active call goes on, in the same block or in another one. -/
theorem continueWith (stands : configuration.Stands module (place :: places)) {other : BlockRef}
    {result : Option Activation}
    (active : ∀ activation, result = some activation → activation.Stands module other)
    (continues : configuration.continueWith result = .running next) :
    next.Stands module (other :: places) := by
  cases result with
  -- Without a next activation the run is stuck.
  | none => cases continues
  | some activation =>
    cases continues
    exact .cons (active activation rfl) (List.forall₂_cons.mp stands).2

/-- Where the active call returns, the one that has waited goes on where it stood. -/
theorem leave (stands : configuration.Stands module (place :: places)) {result : Option Value}
    (leaves : configuration.leave result = .running next) : next.Stands module places := by
  obtain ⟨active, waits⟩ := configuration
  have around := (List.forall₂_cons.mp stands).2
  cases waits with
  | nil => cases leaves
  | cons caller waiting =>
    obtain ⟨activation, register⟩ := caller
    cases around with
    | cons first rest =>
      -- A result goes to a register of the caller, and none where none is expected; its place is
      -- the same.
      cases register <;> cases result <;> cases leaves
      · exact .cons first rest
      · exact .cons ⟨first.owner, first.within, first.reachable⟩ rest

/-- A step leads every call in progress to a block that control can come to. -/
theorem step (stands : configuration.Stands module places) {instruction : Instruction}
    {rest : List Instruction} (comes : configuration.active.rest = instruction :: rest)
    (steps : configuration.step module = .running next) :
    next.Stands module (instruction.places module configuration.active places) := by
  rw [Configuration.step_eq module comes configuration.waiting] at steps
  -- Only the active call is changed by the step; a call or a return changes which one that is.
  cases places with
  | nil => cases stands
  | cons place others =>
    obtain ⟨active, around⟩ := List.forall₂_cons.mp stands
    cases instruction with
    -- Most instructions go on behind themselves, in the same block.
    | alloca name kind =>
      cases steps
      exact .cons (active.advance comes rfl rfl) around
    | load name kind slot =>
      refine stands.continueWith (fun activation found => ?_) steps
      obtain ⟨value, _, rfl⟩ := Option.map_eq_some_iff.mp found
      exact active.advance comes rfl rfl
    | store value kind slot =>
      refine stands.continueWith (fun activation found => ?_) steps
      obtain ⟨stored, _, rfl⟩ := Option.map_eq_some_iff.mp found
      exact active.advance comes rfl rfl
    | arithmetic name operator left right | differ name left right =>
      refine stands.continueWith (fun activation found => ?_) steps
      obtain ⟨first, _, found⟩ := Option.bind_eq_some_iff.mp found
      obtain ⟨second, _, found⟩ := Option.bind_eq_some_iff.mp found
      cases found
      exact active.advance comes rfl rfl
    | call result callee arguments =>
      simp only [perform, enterCall] at steps
      split at steps
      · rename_i values function _ found
        split at steps
        · rename_i activation starts
          cases steps
          -- The callee begins in its first block, and the caller waits behind its call.
          obtain ⟨label, first, begins⟩ := Activation.Stands.start found starts
          simp only [Instruction.places, found, Option.bind_some, first]
          exact .cons begins (.cons (active.advance comes rfl rfl) around)
        · cases steps
      · cases steps
    -- A jump enters the block that it names, which can be reached from here.
    | jump target =>
      exact stands.continueWith
        (fun activation found => active.enter comes (List.mem_singleton.mpr rfl) found) steps
    | branch condition whenTrue whenFalse =>
      refine stands.continueWith (fun activation found => ?_) steps
      obtain ⟨choice, seen, found⟩ := Option.bind_eq_some_iff.mp found
      -- The block that the step enters is the one that the condition has chosen.
      have same : configuration.active.boolean? condition = some choice := seen
      rw [same]
      cases choice <;> exact active.enter comes (by simp [Instruction.targets]) found
    | returnVoid => exact stands.leave steps
    | returnValue value =>
      simp only [perform] at steps
      split at steps
      · exact stands.leave steps
      · cases steps

end Configuration.Stands

/-- However a function is executed, every call in progress stands in a block that control can come
to. -/
theorem Walks.stands {module : Module} {name : Name} {function : Function}
    (found : module.function? name = some function) {arguments : List Value} {start : Activation}
    (starts : Activation.start? function arguments = some start) {configuration : Configuration}
    {places : List BlockRef} (walks : Walks module start configuration places) :
    configuration.Stands module places := by
  -- An activation stands in the block that the walk has come to, and every step keeps that.
  induction walks with
  | start first =>
    rename_i label
    obtain ⟨other, begins, stands⟩ := Activation.Stands.start found starts
    have same : start.function = function := Option.some.inj (stands.owner.symm.trans found)
    rw [same, begins] at first
    cases first
    rw [Module.function?_name stands.owner]
    exact .cons stands .nil
  | step _ comes steps before => exact before.step comes steps

/-- An instruction that goes somewhere is in the body of its block: it reserves no slot. -/
theorem Block.mem_body_of_target {block : Block} {instruction : Instruction}
    (stands : instruction ∈ block.instructions) {target : String}
    (leads : target ∈ instruction.targets) : instruction ∈ block.body :=
  block.mem_body stands (List.ne_nil_of_mem (List.mem_append_right _ leads))

end Code

open Code (Module Name)

/-- The act at some place of a list is next behind those in front of it. -/
theorem Act.meets_of_getElem? {start : Builder} {acts : List Act} {next : Act} (index : Nat)
    (found : acts[index]? = some next) :
    Act.Meets start acts (Act.performAll start (acts.take index)) next := by
  obtain ⟨bound, rfl⟩ := List.getElem?_eq_some_iff.mp found
  have meets : Act.Meets start (acts.take index ++ acts[index] :: acts.drop (index + 1))
      (Act.performAll start (acts.take index)) acts[index] := Act.meets_append.mpr (.inr .here)
  rwa [List.getElem_cons_drop, List.take_append_drop] at meets

/--
What becomes of statements that are next behind a terminator. They begin in a new block, to which
nothing goes, and control comes to no block that is made for them in the same function: neither
along the jumps of the function, nor in a call that is executed. Slots apart, none of their
instructions is in a block that was there before.
-/
structure Buried (moment : Builder) (items : List Tree) (code : Module) : Prop where
  begins : ∃ block, moment.reopened.block? = some block ∧ moment.Strands items block
  untargeted : ∀ block, moment.reopened.block? = some block → ∀ function ∈ code.functions,
    ∀ other ∈ function.blocks,
    ∀ instruction ∈ other.instructions, ∀ target ∈ instruction.targets,
    block ≠ ⟨function.name, target⟩
  unreachable : ∀ block, moment.Strands items block → ∀ function,
    code.function? block.function = some function → ¬ function.Reachable block.label
  others : ∀ block body, moment.code.body? block = some body →
    ((Tree.lowerStatements items).outcome moment).2.code.body? block = some body
  executes : ∀ name function, code.function? name = some function → ∀ arguments start,
    Code.Activation.start? function arguments = some start → ∀ configuration places,
      Code.Walks code start configuration places →
        configuration.Stands code places ∧ ∀ place ∈ places, ¬ moment.Strands items place

namespace Lowering

variable {base moment builder : Builder} {items : List Tree}

/-- Nothing that control can come to was made for statements that have been left behind. -/
theorem Sealed.unreachable (left : Sealed base moment items builder []) (sound : moment.Sound)
    {owner : Name} {function : Code.Function}
    (found : builder.code.function? owner = some function) {label : String}
    (reachable : function.Reachable label) : ¬ moment.Strands items ⟨owner, label⟩ := by
  -- By induction on the way to the block: the first one was there before, and nothing from outside
  -- goes in.
  induction reachable with
  | @start label first =>
    intro strands
    -- The function had its first block when the statements began, and theirs were made later.
    obtain ⟨here, current, same⟩ := strands.owner
    obtain ⟨body, standing⟩ := sound.body? current
    obtain ⟨earlier, owned, inside⟩ := Option.bind_eq_some_iff.mp standing
    obtain ⟨start, entry, begins, entered⟩ := Code.Function.start?_of_body? inside
    obtain ⟨later, kept, grown⟩ :=
      (left.during.trans left.behind).functions here.function earlier owned
    change owner = here.function at same
    rw [same, kept] at found
    cases found
    have fresh := strands.fresh
    rw [same] at fresh
    rw [grown.start start begins] at first
    cases first
    simp [Module.body?, owned, entered] at fresh
  | @goes label target block instruction _ met stands leads apart =>
    intro strands
    have member := block.mem_body_of_target stands leads
    refine apart (left.inside ⟨owner, label⟩ block.body ?_ instruction member target leads strands)
    simp [Module.body?, found, Code.Function.body?, met]

/-- Statements that have been left behind are buried. -/
theorem Sealed.buried (left : Sealed base moment items builder []) (sound : moment.Sound)
    (tidy : builder.code.Tidy) :
    Buried moment items builder.code where
  begins := left.island
  untargeted := fun block at_ function inside other member instruction stands target leads same =>
    left.untargeted ⟨function.name, other.label⟩ other.body
      (tidy.body?_eq inside member) instruction
      (other.mem_body_of_target stands leads) target leads (same ▸ at_)
  unreachable := fun _ strands _ found reachable => left.unreachable sound found reachable strands
  others := left.kept
  -- Every call in progress stands where control can come to, so in none of the blocks.
  executes := fun _ _ found _ _ starts _ _ walks => by
    have stands := walks.stands found starts
    refine ⟨stands, fun place member strands => ?_⟩
    obtain ⟨activation, there⟩ := stands.call member
    exact left.unreachable sound there.owner there.reachable strands

end Lowering

namespace Session

/--
How a session buries dead statements where it compiles a tree. Wherever statements are next while
the current block has its terminator, they are buried in the code behind the compilation. And where
a statement that departs is next with others of the same list behind it, these are next later on,
while the current block has its terminator.
-/
structure Buries (session : Session) (tree : Tree) : Prop where
  buried : ∀ moment items, Act.Meets session.builder (session.acts tree) moment
    (.statements items) → ∀ here, moment.block? = some here → moment.code.isTerminated here = true →
      Buried moment items (session.compile tree).2.builder.code
  departs : ∀ moment first rest,
    Act.Meets session.builder (session.acts tree) moment (.statements (first :: rest)) →
    first.Departs → rest ≠ [] → ∃ middle here,
    Act.Meets session.builder (session.acts tree) middle (.statements rest) ∧
      first.lowerStatement.Yields moment.reopened () middle ∧ middle.block? = some here ∧
      middle.code.isTerminated here = true

/--
Whatever a session has compiled, and with whatever result: where it compiles another tree
successfully, dead statements are buried.
-/
theorem compile_buries {overrides : Document} {debug : Bool} {session : Session}
    (started : Session.start overrides debug = .ok session) (earlier : List Tree) {tree : Tree}
    {entry : Name} (compiled : ((session.compileAll earlier).2.compile tree).1 = .ok entry) :
    (session.compileAll earlier).2.Buries tree := by
  have sound : session.builder.Sound := start_builder started ▸ .empty
  have current := (compileAll_grows sound earlier).1
  have passage := acts_passage current compiled
  -- What follows a finished block, then what follows a statement that leaves it.
  refine ⟨fun moment items meets here at_ seen => ?_,
    fun moment first rest meets departs more => ?_⟩
  -- A block with a terminator is one that is not open.
  · have moment_sound := (passage.proper moment _ meets).sound
    have finished : ¬ moment.Ready := by
      rintro ⟨block, standing, block_open⟩
      cases standing.symm.trans at_
      exact Bool.noConfusion
        (seen.symm.trans ((Lowering.hasOpen_iff moment_sound at_).mp block_open))
    exact (passage.left moment items meets finished).buried moment_sound
      (compile_grows current tree).1.tidy
  -- The statement has left an ended block behind it, and the next one opens a fresh one.
  · obtain ⟨middle, next, yields, here, at_, terminated⟩ :=
      passage.ensues moment first rest meets more
    exact ⟨middle, here, next, yields, at_, terminated departs⟩

/-- What stands behind a jump: a variable, and a branch on it that jumps once more. -/
def behindJump : List Tree := [
  .variableDeclaration .start (.identifier .start (.text "x") (.kindValue .infer))
  (.booleanLiteral .start true),
  .ifStatement .start (.identifier .start (.text "x") (.kindValue .infer))
  (.blockStatement .start (.list [.continueStatement .start .null])) .null]

/-- A loop that is left at once, with statements behind the jump. -/
def leftAtOnce : Tree :=
  .program .start (.list [.loopStatement .start (.booleanLiteral .start true)
    (.blockStatement .start (.list (.breakStatement .start .null :: behindJump))) .null])

/-- A session that has not compiled anything. -/
def justStarted : Session := ⟨Settings.default, false, .empty, none⟩

/-- What stands behind the jump is buried, also behind the sample. -/
theorem leftAtOnce_buries : ∃ session entry, Session.start (.object []) false = .ok session ∧
    ((session.compileAll [sample]).2.compile leftAtOnce).1 = .ok entry ∧
    (session.compileAll [sample]).2.Buries leftAtOnce := by
  have started : Session.start (.object []) false = .ok justStarted := rfl
  -- Evaluated once: the sample is compiled, and then the program behind it.
  have succeeds : ((justStarted.compileAll [sample]).2.compile leftAtOnce).1.isOk = true := by
    decide +kernel
  obtain ⟨entry, after, compiled⟩ := compiled_of_isOk succeeds
  have answer := congrArg Prod.fst compiled
  exact ⟨justStarted, entry, started, answer, compile_buries started [sample] answer⟩

/-- The slot that statements behind a jump need is reserved all the same where the function is
executed. -/
theorem leftAtOnce_reserves : ∃ session moment here function start rest next,
    Session.start (.object []) false = .ok session ∧ (session.compile leftAtOnce).1.isOk = true ∧
      Act.Meets session.builder (session.acts leftAtOnce) moment (.statements behindJump) ∧
        moment.block? = some here ∧ moment.code.isTerminated here = true ∧
          (moment.code.function? here.function).map (·.slots) = some [] ∧
            (((Tree.lowerStatements behindJump).outcome moment).2.code.function? here.function).map
              (·.slots) = some [("x", .bool)] ∧
              (session.compile leftAtOnce).2.builder.code.function? here.function = some function ∧
                Code.Activation.start? function [] = some start ∧
                start.rest = .alloca "x" .bool :: rest ∧
                  (⟨start, []⟩ : Code.Configuration).step
                    (session.compile leftAtOnce).2.builder.code = .running next := by
  -- The slot of the dead declaration is the first instruction of the program's function.
  have begins : (((justStarted.compile leftAtOnce).2.builder.code.function? (.text "entry")).bind
      (Code.Activation.start? · [])).bind
        (·.rest.head?) = some (.alloca "x" .bool) := by decide +kernel
  obtain ⟨start, called, first⟩ := Option.bind_eq_some_iff.mp begins
  obtain ⟨function, found, starts⟩ := Option.bind_eq_some_iff.mp called
  obtain ⟨rest, comes⟩ := List.head?_eq_some_iff.mp first
  -- The mark of the statements behind the jump is the eighteenth act.
  have next : (justStarted.acts leftAtOnce)[17]? = some (.statements behindJump) := by rfl
  have steps := Code.Configuration.step_eq (justStarted.compile leftAtOnce).2.builder.code comes []
  exact ⟨justStarted, _, ⟨.text "entry", "loop_body.0"⟩, function, start, rest, _,
    rfl, by decide +kernel,
    Act.meets_of_getElem? 17 next, by
      decide +kernel, by
        decide +kernel, by decide +kernel, by decide +kernel, found, starts, comes, steps⟩

end Session

end LoopLang
