import LoopLang.Proofs.Execution.Expression
import LoopLang.Proofs.Lowering.Tree

/-! Where control goes in the code of statements, and what is known of the functions that are
declared on the way. -/

namespace LoopLang

open Code (Activation Configuration Instruction Lasts Module Name Operand Returns Waiting)
open Evaluation (Signal)

namespace Knows

variable {related wanted : Name → Closure → Prop} {frames later : List Frame}
  {functions : List (String × Closure)}

/-- Variables that are declared may hide functions, but they add none. -/
theorem continues (known : Knows related frames functions) {more : List (String × Binding)}
    (continues : Builder.Continues more frames later)
    (plain : ∀ entry ∈ more, entry.2.isFunction = false) :
    Knows related later functions := by
  cases frames with
  | nil =>
    obtain ⟨rfl, _⟩ := continues
    exact known
  | cons frame outer =>
    obtain ⟨block, rfl⟩ := continues
    intro name handle result parameters found
    refine known name handle result parameters ?_
    rw [List.findSome?_cons] at found ⊢
    unfold Frame.find? at found ⊢
    rw [List.lookup_append] at found
    -- An older name of the frame is found before a new one.
    cases inside : frame.symbols.lookup name with
    | some binding => simpa [inside] using found
    | none =>
      cases new : more.lookup name with
      | none => simpa [inside, new] using found
      | some binding =>
        -- What is new under this name is a variable.
        simp only [inside, new, Option.none_or, Option.some.injEq] at found
        subst found
        cases plain _ (mem_of_lookup new)

/-- A frame that is opened has no functions yet. -/
theorem push (known : Knows related frames functions) (block : BlockRef) (options : FrameOptions)
    (enclosing : Option Frame) :
    Knows related (Frame.opened block options enclosing :: frames) functions :=
  known

/-- A function that is declared is visible from then on. -/
theorem declareFunction (known : Knows related frames functions) {name : String} {handle : Name}
    {result : Kind} {parameters : List ExactKind} {closure : Closure}
    (lacks : ∀ frame ∈ frames.head?, frame.has name = false)
    (continues : Builder.Continues [(name, .fn handle result parameters)] frames later)
    (belongs : related handle closure) :
    Knows related later ((name, closure) :: functions) := by
  cases frames with
  | nil =>
    obtain ⟨_, impossible⟩ := continues
    cases impossible
  | cons frame outer =>
    obtain ⟨block, rfl⟩ := continues
    -- The name is new in the innermost frame, so nothing in front of it is found.
    have absent : frame.symbols.lookup name = none := by
      simpa [Frame.has, Frame.find?] using lacks frame rfl
    intro wanted other kind kinds found
    rw [List.findSome?_cons] at found
    unfold Frame.find? at found
    rw [List.lookup_append] at found
    -- Under its own name the function is found, and under every other name what was found before.
    by_cases same : wanted = name
    · subst same
      simp only [absent, List.lookup_cons, beq_self_eq_true, Option.none_or, Option.some.injEq,
        Binding.fn.injEq] at found
      obtain ⟨rfl, _, _⟩ := found
      exact ⟨closure, by simp, belongs⟩
    · have apart : (wanted == name) = false := by simpa using same
      have visible : (frame :: outer).findSome? (·.find? wanted) = some (.fn other kind kinds) := by
        rw [List.findSome?_cons]
        unfold Frame.find?
        simpa [List.lookup_cons, apart] using found
      obtain ⟨earlier, bound, held⟩ := known wanted other kind kinds visible
      exact ⟨earlier, by rwa [List.lookup_cons, apart], held⟩

end Knows

/-- The block that a jump goes to from within frames, if a loop is meant by it. -/
def Lowering.jumpBlock? (frames : List Frame) (jump : Jump) (label : Option String) :
    Option BlockRef :=
  (Scopes.loopFrameIn label frames).bind (Lowering.jumpTarget? jump)

open Lowering (jumpBlock?)

/-- A call goes where a jump says, while the variables around the innermost frame agree with the
slots. -/
def Jumps (code : Module) (frames : List Frame) (waiting : List Waiting) (activation : Activation)
    (jump : Jump) (label : Option String) (after : Evaluation.Variables) : Prop :=
  ∃ block next, jumpBlock? frames jump label = some block ∧ activation.Goes code waiting next ∧
    next.At code block [] ∧
    ∀ frame outer, frames = frame :: outer → frame.isFunction = false →
    Keeps next.slots outer after.tail

/-- Where a call comes to when control leaves statements. -/
inductive Departs (code : Module) (start finish : Builder) (waiting : List Waiting)
    (activation : Activation) (after : Evaluation.Variables) : Signal → Prop
  | next {next : Activation} (goes : activation.Goes code waiting next)
      (mirrors : finish.Mirrors code next after) :
      Departs code start finish waiting activation after .next
  | break {label : Option String}
      (jumps : Jumps code start.scopes.frames waiting activation .break label after) :
      Departs code start finish waiting activation after (.break label)
  | continue {label : Option String}
      (jumps : Jumps code start.scopes.frames waiting activation .continue label after) :
      Departs code start finish waiting activation after (.continue label)
  | return {result : Option Value} (returns : Returns code ⟨activation, waiting⟩ result)
      (kind : resultKind result = activation.function.result) :
      Departs code start finish waiting activation after (.return result)

/-- What is emitted between two builders does what statements do, or outlasts the fuel where they
are cut short. -/
def Acts (code : Module) (fuel : Nat) (start finish : Builder) (evaluation : Evaluation Signal) :
    Prop :=
  ∀ activation locals waiting, start.Mirrors code activation locals →
    evaluation.Ends locals
    (fun signal after => Departs code start finish waiting activation after signal)
      (Lasts code (fuel + 1) ⟨activation, waiting⟩)

/-! Jumps and other ways out, seen from further outside. -/

section Outside

variable {code : Module} {start middle finish : Builder} {waiting : List Waiting}
  {activation next : Activation}
  {after : Evaluation.Variables} {frame : Frame} {frames outer later : List Frame}
  {more : List (String × Binding)}
  {jump : Jump} {label : Option String}

/-- Where a jump goes does not depend on names, nor on where emission goes on. -/
theorem Lowering.jumpBlock?_continues (continues : Builder.Continues more frames later) :
    jumpBlock? later jump label = jumpBlock? frames jump label := by
  cases frames with
  | nil =>
    obtain ⟨rfl, _⟩ := continues
    rfl
  | cons frame outer =>
    obtain ⟨block, rfl⟩ := continues
    -- Whether a frame is meant depends on its loop and its label, neither of which changes.
    by_cases target : frame.isTarget label = true
    · have still : { frame with block, symbols := frame.symbols ++ more }.isTarget label = true :=
        target
      cases jump <;> simp [jumpBlock?, Scopes.loopFrameIn, target, still, jumpTarget?]
    · have still : ¬ { frame with block, symbols := frame.symbols ++ more }.isTarget label = true :=
        target
      simp [jumpBlock?, Scopes.loopFrameIn, target, still]

/-- A jump that does not mean the loop of a frame goes further out. -/
theorem Lowering.jumpBlock?_cons (misses : frame.isTarget label = false)
    (inside : frame.isFunction = false) :
    jumpBlock? (frame :: outer) jump label = jumpBlock? outer jump label := by
  simp [jumpBlock?, Scopes.loopFrameIn, misses, inside]

/-- No jump leaves a function. -/
theorem Lowering.jumpBlock?_function (misses : frame.isTarget label = false)
    (opens : frame.isFunction = true) :
    jumpBlock? (frame :: outer) jump label = none := by
  simp [jumpBlock?, Scopes.loopFrameIn, misses, opens]

/-- What leads to a jump is a part of it. -/
theorem Jumps.before (jumps : Jumps code later waiting next jump label after)
    (goes : activation.Goes code waiting next) (continues : Builder.Continues more frames later) :
    Jumps code frames waiting activation jump label after := by
  obtain ⟨block, last, target, further, at_, around⟩ := jumps
  rw [Lowering.jumpBlock?_continues continues] at target
  -- Both lists of frames agree but for the innermost frame, around which nothing is new.
  refine ⟨block, last, target, goes.trans further, at_, ?_⟩
  rintro frame outer rfl inside
  obtain ⟨moved, rfl⟩ := continues
  exact around _ _ rfl inside

/-- A jump to a loop further out leaves the frame behind. -/
theorem Jumps.outside (jumps : Jumps code (frame :: outer) waiting activation jump label after)
    (misses : frame.isTarget label = false) (inside : frame.isFunction = false) :
    Jumps code outer waiting activation jump label after.tail := by
  obtain ⟨block, last, target, goes, at_, around⟩ := jumps
  rw [Lowering.jumpBlock?_cons misses inside] at target
  refine ⟨block, last, target, goes, at_, ?_⟩
  -- With each frame that is left one layer of variables is left behind.
  rintro next further rfl plain
  exact (around _ _ rfl inside).tail plain

/-- What leads to some statements is a part of the way out of them. -/
theorem Departs.before {signal : Signal}
    (departs : Departs code middle finish waiting next after signal)
    (goes : activation.Goes code waiting next)
    (continues : Builder.Continues more start.scopes.frames middle.scopes.frames) :
    Departs code start finish waiting activation after signal := by
  -- However control leaves in the end, the first part of the way is put in front.
  cases departs with
  | next further mirrors => exact .next (goes.trans further) mirrors
  | «break» jumps => exact .break (jumps.before goes continues)
  | «continue» jumps => exact .continue (jumps.before goes continues)
  | «return» returns kind => exact .return (goes.reaches.returns rfl returns) (goes.function ▸ kind)

/-- Statements within a frame of their own leave it behind, and the names in it are gone. -/
theorem Departs.outside {ended : Builder} {signal : Signal}
    (departs : Departs code middle ended waiting activation after signal)
    (opened : middle.scopes.frames = frame :: start.scopes.frames) (loop : frame.isLoop = false)
    (inside : frame.isFunction = false)
    (closes : ∀ next, ended.Mirrors code next after → finish.Mirrors code next after.tail) :
    Departs code start finish waiting activation after.tail signal := by
  have misses : ∀ label, frame.isTarget label = false := fun label => by simp [Frame.isTarget, loop]
  -- Jumps find no loop in the frame and go on outwards; a return leaves all frames at once.
  cases departs with
  | next goes mirrors => exact .next goes (closes _ mirrors)
  | «break» jumps => exact .break ((opened ▸ jumps).outside (misses _) inside)
  | «continue» jumps => exact .continue ((opened ▸ jumps).outside (misses _) inside)
  | «return» returns kind => exact .return returns kind

/-- Control that comes to the end of one part goes on to the end of another one. -/
theorem Departs.onward {ended : Builder} {signal : Signal}
    (departs : Departs code start ended waiting activation after signal)
    (on : ∀ next, ended.Mirrors code next after →
      ∃ last, next.Goes code waiting last ∧ finish.Mirrors code last after) :
    Departs code start finish waiting activation after signal := by
  -- Only control that comes to the end goes on.
  cases departs with
  | next goes mirrors =>
    obtain ⟨last, further, mirrors⟩ := on _ mirrors
    exact .next (goes.trans further) mirrors
  | «break» jumps => exact .break jumps
  | «continue» jumps => exact .continue jumps
  | «return» returns kind => exact .return returns kind

/-- Where control leaves statements for elsewhere does not depend on where they end. -/
theorem Departs.elsewhere {ended : Builder} {signal : Signal}
    (departs : Departs code start ended waiting activation after signal)
    (other : signal ≠ .next) : Departs code start finish waiting activation after signal := by
  -- Only going on depends on where the builder ends up.
  cases departs with
  | next _ _ => exact absurd rfl other
  | «break» jumps => exact .break jumps
  | «continue» jumps => exact .continue jumps
  | «return» returns kind => exact .return returns kind

/-- A part of the way, with what leads to it and where control goes on behind it. -/
theorem Acts.along {ended : Builder} {fuel : Nat} {evaluation : Evaluation Signal}
    (acts : Acts code fuel middle ended evaluation) (goes : activation.Goes code waiting next)
    (mirrors : middle.Mirrors code next after)
    (continues : Builder.Continues more start.scopes.frames middle.scopes.frames)
    (on : ∀ next after, ended.Mirrors code next after → ∃ last,
      next.Goes code waiting last ∧ finish.Mirrors code last after) :
    evaluation.Ends after
      (fun signal final => Departs code start finish waiting activation final signal)
      (Lasts code (fuel + 1) ⟨activation, waiting⟩) :=
  (acts next after waiting mirrors).imp (fun _ final departs =>
    (departs.onward fun next => on next final).before goes continues) goes.reaches.lasts

end Outside

/-! One step from block to block. -/

/-- In one step a call goes to the start of a block, and keeps its slots. -/
structure Code.Activation.Enters (code : Module) (waiting : List Waiting)
    (activation next : Activation) (block : BlockRef) :
    Prop where
  step : (⟨activation, waiting⟩ : Configuration).step code = .running ⟨next, waiting⟩
  function : next.function = activation.function
  at_ : next.At code block []
  slots : next.slots = activation.slots

/-- That is one way to go on. -/
theorem Code.Activation.Enters.goes {code : Module} {waiting : List Waiting}
    {activation next : Activation} {block : BlockRef}
    (enters : activation.Enters code waiting next block) : activation.Goes code waiting next :=
  ⟨.step enters.step, enters.function⟩

namespace Builder

variable {code : Module} {start finish : Builder} {waiting : List Waiting}
  {activation next : Activation}
  {locals : Evaluation.Variables} {block target first second : BlockRef} {more : List Instruction}
  {fuel : Nat}

/-- The last instruction of a block leads to one of its targets. -/
theorem Places.enters (placed : start.Places code activation) (leads : finish.Leads code)
    {instruction : Instruction}
    (ends : ∀ here body, start.block? = some here → start.code.body? here = some body →
      finish.code.body? here = some (body ++ [instruction]))
    (owner : ∀ here, start.block? = some here → target.function = here.function)
    (member : target.label ∈ instruction.targets)
    (performs : ∀ rest, Configuration.perform code ⟨activation, waiting⟩
      { activation with rest } instruction = Configuration.continueWith ⟨activation, waiting⟩
        (activation.enter? target.label)) :
    ∃ next, activation.Enters code waiting next target := by
  -- The call stands at the end of its block, so the instruction is the next one.
  obtain ⟨rest, comes⟩ :=
    placed.rest leads fun here body current found _ => ends here body current found
  obtain ⟨here, body, current, _, _, at_⟩ := placed
  obtain ⟨next, entered, starts, function, _, slots⟩ :=
    at_.enter leads.tidy ((at_.fits leads.valid comes).targets _ member)
  rw [← owner here current] at starts
  refine ⟨next, (Configuration.step_eq code comes waiting).trans ?_, function, starts, slots⟩
  rw [performs, entered]
  rfl

/-- A jump goes where it says. -/
theorem Places.jumps (placed : start.Places code activation) (leads : finish.Leads code)
    (ends : ∀ here body, start.block? = some here → start.code.body? here = some body →
      finish.code.body? here = some (body ++ [.jump target.label]))
    (owner : ∀ here, start.block? = some here → target.function = here.function) :
    ∃ next, activation.Enters code waiting next target :=
  placed.enters leads ends owner (List.mem_singleton_self _) fun _ => rfl

/-- A branch goes where its condition says. -/
theorem Places.branches (placed : start.Places code activation) (leads : finish.Leads code)
    {condition : Operand} {holds : Bool}
    (decided : activation.value? condition = some (.boolean holds))
    (ends : ∀ here body, start.block? = some here → start.code.body? here = some body →
      finish.code.body? here = some (body ++ [.branch condition first.label second.label]))
    (one : ∀ here, start.block? = some here → first.function = here.function)
    (other : ∀ here, start.block? = some here → second.function = here.function) :
    ∃ next, activation.Enters code waiting next (if holds then first else second) := by
  -- The branch ends the block, and its condition says which way it goes.
  refine placed.enters leads ends ?_ ?_ fun rest => ?_
  · cases holds
    · exact other
    · exact one
  · cases holds <;> simp [Instruction.targets]
  · cases holds <;> simp [Configuration.perform, Activation.boolean?, decided, Activation.enter?]

/-- Where emission turns to a block, a call that has entered it goes on. -/
theorem Turns.mirrors (turns : start.Turns finish more block) (at_ : next.At code block [])
    (keeps : Keeps next.slots finish.scopes.frames locals) : finish.Mirrors code next locals :=
  ⟨⟨block, [], turns.current, turns.begins, .nil, at_⟩, keeps⟩

/-- Control that comes to the end of a block goes on where emission has turned to, if the block
jumps there. -/
theorem Turns.onward (turns : start.Turns finish more block)
    (jumps : start.Ready → more = [.jump block.label])
    (continues : Continues [] start.scopes.frames finish.scopes.frames)
    (leads : finish.Leads code) (mirrors : start.Mirrors code activation locals) :
    ∃ last, activation.Goes code waiting last ∧ finish.Mirrors code last locals := by
  -- A call stands at the end, so that the block is open and a jump has been added to it.
  obtain rfl := jumps mirrors.placed.ready
  obtain ⟨last, enters⟩ := mirrors.placed.jumps leads turns.ends turns.owner
  exact ⟨last, enters.goes,
    turns.mirrors enters.at_ (enters.slots ▸ mirrors.keeps.continues continues)⟩

/-- Where nothing is added, a call stands as before. -/
theorem Mirrors.same (mirrors : start.Mirrors code activation locals)
    (adds : start.Adds finish []) :
    finish.Mirrors code activation locals :=
  ⟨mirrors.placed.adds adds .nil rfl rfl rfl, adds.scopes ▸ mirrors.keeps⟩

/-- A condition is tested, and one of two blocks is entered. -/
theorem Turns.tests {tested begun : Builder} {value : Operand} {test : Evaluation Bool}
    (turns : tested.Turns begun [.branch value first.label second.label] first)
    (leads : begun.Leads code)
    (other : ∀ here, tested.block? = some here → second.function = here.function)
    (follows : Follows code fuel start tested test fun activation holds =>
      activation.value? value = some (.boolean holds))
    (mirrors : start.Mirrors code activation locals) :
    test.Ends locals (fun holds after => ∃ next entered, activation.Goes code waiting next ∧
        next.Enters code waiting entered (if holds then first else second) ∧
        Keeps entered.slots tested.scopes.frames after)
          (Lasts code (fuel + 1) ⟨activation, waiting⟩) := by
  refine (follows activation locals waiting mirrors).imp (fun holds after held => ?_) id
  obtain ⟨next, arrives, decided⟩ := held
  -- Entering a block changes no slots, so the variables keep their values.
  obtain ⟨entered, enters⟩ :=
    arrives.mirrors.placed.branches leads decided turns.ends turns.owner other
  exact ⟨next, entered, arrives.goes, enters, enters.slots ▸ arrives.mirrors.keeps⟩

end Builder

/-! Functions that are declared on the way. -/

/-- One builder leads to another without another function, and the visible functions stay
visible. -/
structure Builder.Passes (builder later : Builder) : Prop where
  code : builder.code.Grows later.code
  handles : later.code.handles = builder.code.handles
  visible : ∀ related functions, Knows related builder.scopes.frames functions →
    Knows related later.scopes.frames functions

/--
Between two builders the functions are added that belong to closures, in their order, and those that
are visible behind it are known. As far as the visible functions and the added ones simulate what
they belong to, the added ones do so one call deeper, and what else is wanted of the code holds.
-/
def Enacts (functions behind : List (String × Closure)) (closures : List Closure)
    (start finish : Builder) (acts : Module → Nat → Prop) : Prop :=
  ∃ added : List (Name × Closure), added.map Prod.snd = closures ∧
    finish.code.handles = start.code.handles ++ added.map Prod.fst ∧ ∀ code, finish.Leads code →
      (∀ pair ∈ added, Matches code pair.1 pair.2) ∧
      ∀ fuel, Knows (Simulates code fuel) start.scopes.frames functions →
        (∀ pair ∈ added, Simulates code fuel pair.1 pair.2) →
        Knows (Simulates code fuel) finish.scopes.frames behind ∧
          (∀ pair ∈ added, Simulates code (fuel + 1) pair.1 pair.2) ∧ acts code fuel

section Parts

variable {start begun middle other ended finish : Builder}
  {functions between behind : List (String × Closure)}
  {closures others : List Closure} {first second acts : Module → Nat → Prop}

/-- A builder passes on to itself. -/
theorem Builder.Passes.refl (builder : Builder) : builder.Passes builder :=
  ⟨.refl _, rfl, fun _ _ => id⟩

/-- Where no name is added, the visible functions are the same. -/
theorem Builder.Passes.of_continues (grows : start.code.Grows finish.code)
    (handles : finish.code.handles = start.code.handles)
    (continues : Builder.Continues [] start.scopes.frames finish.scopes.frames) :
    start.Passes finish :=
  ⟨grows, handles, fun _ _ known => known.continues continues (List.forall_mem_nil _)⟩

/-- Two parts of the way, one behind the other. -/
theorem Enacts.join (one : Enacts functions between closures start middle first)
    (passes : middle.Passes other) (two : Enacts between behind others other finish second)
    (grows : other.code.Grows finish.code) :
    Enacts functions behind (closures ++ others) start finish fun code fuel =>
      first code fuel ∧ second code fuel := by
  obtain ⟨added, belong, handles, one⟩ := one
  obtain ⟨more, more_belong, further, two⟩ := two
  refine ⟨added ++ more, by rw [List.map_append, belong, more_belong], ?_, fun code leads => ?_⟩
  · rw [further, passes.handles, handles, List.map_append, List.append_assoc]
  obtain ⟨fit, one⟩ := one code (leads.before (passes.code.trans grows))
  obtain ⟨more_fit, two⟩ := two code leads
  -- The functions of both parts may call each other, so all of them are assumed to simulate.
  refine ⟨List.forall_mem_append.mpr ⟨fit, more_fit⟩, fun fuel known simulate => ?_⟩
  obtain ⟨early, late⟩ := List.forall_mem_append.mp simulate
  obtain ⟨known, deeper, begins⟩ := one fuel known early
  obtain ⟨known, others_deeper, ends⟩ := two fuel (passes.visible _ _ known) late
  exact ⟨known, List.forall_mem_append.mpr ⟨deeper, others_deeper⟩, begins, ends⟩

/-- What is known of a part of the way is known of the whole, if nothing else declares a
function. -/
theorem Enacts.around (inner : Enacts functions between closures begun ended first)
    (passes : start.Passes begun) (grows : ended.code.Grows finish.code)
    (handles : finish.code.handles = ended.code.handles)
    (visible : ∀ related, Knows related start.scopes.frames functions →
      Knows related ended.scopes.frames between → Knows related finish.scopes.frames behind)
    (rest : ∀ code fuel, finish.Leads code → Knows
      (Simulates code fuel) start.scopes.frames functions → first code fuel → acts code fuel) :
    Enacts functions behind closures start finish acts := by
  obtain ⟨added, belong, more, inner⟩ := inner
  refine ⟨added, belong, by rw [handles, more, passes.handles], fun code leads => ?_⟩
  obtain ⟨fit, inner⟩ := inner code (leads.before grows)
  refine ⟨fit, fun fuel known simulate => ?_⟩
  -- What is around declares no function, so that the inner part decides which ones are added.
  obtain ⟨inside, deeper, held⟩ := inner fuel (passes.visible _ _ known) simulate
  exact ⟨visible _ known inside, deeper, rest code fuel leads known held⟩

/-- Where no function is declared, only the code matters. -/
theorem Enacts.plain {more : List (String × Binding)}
    (handles : finish.code.handles = start.code.handles)
    (continues : Builder.Continues more start.scopes.frames finish.scopes.frames)
    (plain : ∀ entry ∈ more, entry.2.isFunction = false)
    (rest : ∀ code fuel, finish.Leads code →
      Knows (Simulates code fuel) start.scopes.frames functions → acts code fuel) :
    Enacts functions functions [] start finish acts := by
  -- No function is declared, so those known before are the ones known behind.
  refine ⟨[], rfl, by rw [handles, List.map_nil,
    List.append_nil], fun code leads => ⟨List.forall_mem_nil _, ?_⟩⟩
  exact fun fuel known _ =>
    ⟨known.continues continues plain, List.forall_mem_nil _, rest code fuel leads known⟩

end Parts

end LoopLang
