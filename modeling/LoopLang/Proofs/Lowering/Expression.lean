import LoopLang.Proofs.Lowering.Growth
import LoopLang.Proofs.Lowering.Looks

/-! Lowering an expression only adds instructions that fit to the current block, whatever the tree
is. -/

namespace LoopLang

open Code (Module Instruction Operand Unended)

/-- Failures that show a mistake in lowering itself, whatever tree it was given. -/
def Failure.IsInternal : Failure → Prop
  | .refused .noFunction _ => True
  | .refused .. => False
  | .fault breach => ¬ breach.IsOfTree

/-- Where the tree is at fault, lowering is not. -/
theorem Failure.IsOfTree.not_isInternal {failure : Failure} (held : failure.IsOfTree) :
    ¬ failure.IsInternal := by
  cases failure with
  | refused cause place => exact held.elim
  | fault breach => exact not_not_intro held

namespace Builder

/-- Instructions are added to the current block, and all else stays as it is. -/
structure Adds (builder later : Builder) (more : List Instruction) : Prop where
  scopes : later.scopes = builder.scopes
  code : builder.code.Grows later.code
  handles : later.code.handles = builder.code.handles
  bodies : ∀ block, later.code.body? block =
    if builder.block? = some block then (builder.code.body? block).map (· ++ more)
    else builder.code.body? block

/-- Instructions that end nothing are added to the current block, and all else stays as it is. -/
def Extends (builder later : Builder) : Prop := ∃ more, builder.Adds later more ∧ Unended more

/-- An operand may be used at the end of the current block. -/
def Holds (builder : Builder) (operand : Operand) : Prop :=
  ∃ block function body, builder.block? = some block ∧ builder.code.function? block.function =
    some function ∧
    builder.code.body? block = some body ∧ operand.IsDefined function.parameters body

/-- One instruction is added to the current block, with a register that none had before. -/
structure Gains (builder later : Builder) (register : String) (instruction : Instruction) :
    Prop where
  adds : builder.Adds later [instruction]
  fresh : ∀ kind, ¬ builder.Holds (.register register kind)

/-- A name is that of a variable of the current function, which has a slot. -/
structure Resolves (builder : Builder) (name : String) (kind : ValueKind) (slot : Slot) : Prop where
  bound : builder.scopes.lookup name = some (.var kind.exact (some slot))
  own : builder.scopes.function? = some slot.function

/-- The value of a variable is loaded. -/
inductive Loads (builder later : Builder) (name : String) : Operand → Prop
  | intro {kind : ValueKind} {slot : Slot} {register : String}
      (resolves : builder.Resolves name kind slot)
      (gains : builder.Gains later register (.load register kind slot.name)) :
      Loads builder later name (.register register kind)

/-- The result of an operation on two numbers is computed. -/
inductive Calculates (builder later : Builder) (sign : String) (left right : Operand) :
    Operand → Prop
  | intro {operator : Operator} {base register : String}
      (known : Lowering.operator? sign = some (operator, base)) (left_number : left.kind = .num)
      (right_number : right.kind = .num)
      (gains : builder.Gains later register (.arithmetic register operator left right)) :
      Calculates builder later sign left right (.register register .num)

/-- A function is called, with a register for its result if it has one. -/
inductive Calls (builder later : Builder) (callee : Lowering.Callee) (arguments : List Operand) :
    Option Operand → Prop
  | value {kind : ValueKind} {register : String} (result : callee.result = .exact kind.exact)
      (gains : builder.Gains later register
        (.call (some (register, kind)) callee.handle arguments)) :
      Calls builder later callee arguments (some (.register register kind))
  | nothing (result : callee.result.definite?.bind ExactKind.value? = none)
      (adds : builder.Adds later [.call none callee.handle arguments]) :
      Calls builder later callee arguments none

/-- A builder adds nothing to itself. -/
theorem Adds.refl (builder : Builder) : builder.Adds builder [] where
  scopes := rfl
  code := .refl _
  handles := rfl
  bodies := fun block => by simp

/-- Emission stays in its block. -/
theorem Adds.block? {builder later : Builder} {more : List Instruction}
    (adds : builder.Adds later more) :
    later.block? = builder.block? := by
  rw [Builder.block?, adds.scopes, Builder.block?]

/-- What is added twice is added. -/
theorem Adds.trans {builder middle later : Builder} {more rest : List Instruction}
    (first : builder.Adds middle more) (second : middle.Adds later rest) :
    builder.Adds later (more ++ rest) where
  scopes := second.scopes.trans first.scopes
  code := first.code.trans second.code
  handles := second.handles.trans first.handles
  bodies := fun block => by
    rw [second.bodies, first.bodies, first.block?]
    -- Only the current block gets longer, and it is the same one both times.
    split
    · cases builder.code.body? block <;> simp
    · rfl

/-- The current block gets longer. -/
theorem Adds.current {builder later : Builder} {more : List Instruction}
    (adds : builder.Adds later more) {block : BlockRef} (here : builder.block? = some block)
    {body : List Instruction} (found : builder.code.body? block = some body) :
    later.code.body? block = some (body ++ more) := by
  rw [adds.bodies, if_pos here, found, Option.map_some]

/-- Other blocks stay as they are. -/
theorem Adds.others {builder later : Builder} {more : List Instruction}
    (adds : builder.Adds later more) {block : BlockRef} (other : builder.block? ≠ some block) :
    later.code.body? block = builder.code.body? block := by
  rw [adds.bodies, if_neg other]

/-- A block stays open while nothing that ends it is added. -/
theorem Adds.hasOpen {builder later : Builder} {more : List Instruction}
    (adds : builder.Adds later more) (more_open : Unended more) {block : BlockRef}
    (block_open : builder.HasOpen block) : later.HasOpen block := by
  obtain ⟨body, found, body_open⟩ := block_open
  -- Another block than the current one is not touched.
  by_cases here : builder.block? = some block
  · exact ⟨_, adds.current here found, body_open.append more_open⟩
  · exact ⟨body, (adds.others here).trans found, body_open⟩

/-- Growth goes on when instructions are added. -/
theorem Grows.adds {base builder later : Builder} (kept : base.Grows builder)
    {more : List Instruction} (adds : builder.Adds later more) : base.Grows later :=
  kept.trans {
    code := adds.code
    frames := ⟨[], adds.scopes ▸ .refl _⟩
    moved := fun _ here => .inl (adds.block? ▸ here)
    others := fun _ _ found other => (adds.others other).trans found }

/-- A builder as it is extends itself. -/
theorem Extends.refl (builder : Builder) : builder.Extends builder := ⟨[], .refl builder, .nil⟩

/-- What is extended twice is extended. -/
theorem Extends.trans {builder middle later : Builder} (first : builder.Extends middle)
    (second : middle.Extends later) : builder.Extends later := by
  obtain ⟨more, adds, more_open⟩ := first
  obtain ⟨rest, further, rest_open⟩ := second
  exact ⟨more ++ rest, adds.trans further, more_open.append rest_open⟩

/-- What extends the current block leaves the scopes as they are. -/
theorem Extends.scopes {builder later : Builder} (more : builder.Extends later) :
    later.scopes = builder.scopes :=
  more.elim fun _ held => held.1.scopes

/-- It only adds to the code. -/
theorem Extends.code {builder later : Builder} (more : builder.Extends later) :
    builder.code.Grows later.code :=
  more.elim fun _ held => held.1.code

/-- And it creates no functions. -/
theorem Extends.handles {builder later : Builder} (more : builder.Extends later) :
    later.code.handles = builder.code.handles :=
  more.elim fun _ held => held.1.handles

/-- Emission stays in its block. -/
theorem Extends.block? {builder later : Builder} (more : builder.Extends later) :
    later.block? = builder.block? :=
  more.elim fun _ held => held.1.block?

/-- Growth goes on when a builder is extended. -/
theorem Grows.extend {base builder later : Builder} (kept : base.Grows builder)
    (more : builder.Extends later) :
    base.Grows later :=
  more.elim fun _ held => kept.adds held.1

/-- A block that can be added to still can be. -/
theorem Extends.ready {builder later : Builder} (more : builder.Extends later)
    (ready : builder.Ready) :
    later.Ready := by
  obtain ⟨block, here, block_open⟩ := ready
  obtain ⟨rest, adds, rest_open⟩ := more
  exact ⟨block, adds.block? ▸ here, adds.hasOpen rest_open block_open⟩

/-- What is defined stays defined while its block gets longer. -/
theorem Extends.holds {builder later : Builder} (more : builder.Extends later) {operand : Operand}
    (holds : builder.Holds operand) : later.Holds operand := by
  obtain ⟨block, function, body, here, owner, found, defined⟩ := holds
  obtain ⟨rest, adds, _⟩ := more
  -- The function may have grown, but its parameters and what is in front of the end are still
  -- there.
  obtain ⟨grown, kept, inside⟩ := adds.code.functions _ function owner
  exact ⟨block, grown, body ++ rest, adds.block? ▸ here, kept, adds.current here found,
    defined.before inside.parameters rest⟩

/-- The current block belongs to a function of the code. -/
theorem Ready.owner {builder : Builder} (ready : builder.Ready) :
    ∃ block function body, builder.block? = some block ∧ builder.code.function? block.function =
      some function ∧ builder.code.body? block = some body ∧ Unended body := by
  obtain ⟨block, here, body, found, body_open⟩ := ready
  obtain ⟨function, owner, _⟩ := Option.bind_eq_some_iff.mp found
  exact ⟨block, function, body, here, owner, found, body_open⟩

/-- An instruction fits at the end of the current block, whatever name it is given. -/
def Admits (builder : Builder) (make : String → Instruction) : Prop :=
  ∀ block function body name,
    builder.block? = some block → builder.code.function? block.function = some function →
    builder.code.body? block = some body → Unended body →
    (make name).Fits builder.code function body

/-- A builder is still sound when an instruction that fits is added to the current block. -/
theorem Sound.append {builder : Builder} (sound : builder.Sound) (ready : builder.Ready)
    {base : String} {make : String → Instruction} (plain : Code.Function.IsPlain make)
    (fits : builder.Admits make) {block : BlockRef} (here : builder.block? = some block) :
    { builder with code := (builder.code.append block base make).2 }.Sound := by
  refine sound.withCode (builder.code.append_grows block base plain)
    (sound.tidy.append block base plain)
    (sound.valid.append plain fun function body name owner found => ?_)
  -- The block that is added to is the current one, which is open.
  obtain ⟨_, same, standing, before, body_open⟩ := ready
  rw [here] at same
  cases same
  rw [found] at before
  cases before
  exact fits block function body name here owner found body_open

/-- Constants may be used anywhere. -/
theorem Ready.holds_constant {builder : Builder} (ready : builder.Ready) {operand : Operand}
    (constant : ∀ name kind, operand ≠ .register name kind) : builder.Holds operand := by
  obtain ⟨block, function, body, here, owner, found, _⟩ := ready.owner
  refine ⟨block, function, body, here, owner, found, ?_⟩
  cases operand with
  | register name kind => exact absurd rfl (constant name kind)
  | _ => trivial

end Builder

namespace Builder

/-- An operand that may be used at the end of a block is defined there. -/
theorem Holds.isDefined {builder : Builder} {operand : Operand} (holds : builder.Holds operand)
    {block : BlockRef} {function : Code.Function} {body : List Instruction}
    (here : builder.block? = some block)
    (owner : builder.code.function? block.function = some function)
    (found : builder.code.body? block = some body) :
    operand.IsDefined function.parameters body := by
  obtain ⟨_, _, _, same, kept, inside, defined⟩ := holds
  rw [here] at same
  cases same
  rw [owner] at kept
  rw [found] at inside
  -- Block, function and body are those that the operand was found in.
  cases kept
  cases inside
  exact defined

/-- The register of an operand that may be used is one of the names that the current function
defines. -/
theorem Holds.mem_definedNames {builder : Builder} {register : String} {kind : ValueKind}
    (holds : builder.Holds (.register register kind)) {block : BlockRef}
    {function : Code.Function} (here : builder.block? = some block)
    (owner : builder.code.function? block.function = some function) :
    register ∈ function.definedNames := by
  obtain ⟨_, _, body, same, _, found, _⟩ := id holds
  cases same.symm.trans here
  -- An operand is a parameter, or an instruction of the block defines it.
  rcases holds.isDefined here owner found with parameter | ⟨earlier, member, result⟩
  · exact List.mem_append_left _ (List.mem_map.mpr ⟨_, parameter, rfl⟩)
  · simp only [Module.body?, owner, Option.bind_some, Code.Function.body?,
      Option.map_eq_some_iff] at found
    obtain ⟨standing, at_, rfl⟩ := found
    obtain ⟨listed, plain⟩ := List.mem_filter.mp member
    have defined : earlier.defined? = some register := by
      simp [Instruction.defined?, Option.isNone_iff_eq_none.mp plain, result]
    exact List.mem_append_right _ (List.mem_flatMap.mpr ⟨standing, Code.Function.block?_mem at_,
      List.mem_cons_of_mem _ (List.mem_filterMap.mpr ⟨earlier, listed, defined⟩)⟩)

end Builder

namespace Lowering

variable {α β : Type} {start : Builder}

/-- A computation that changes nothing. -/
def Reads (action : Lowering α) (start : Builder) (done : α → Prop) : Prop :=
  action.Ends start (fun answer finish => done answer ∧ finish = start)
    (fun failure finish => ¬ failure.IsInternal ∧ finish = start)

/-- A computation that only extends the current block. -/
def Computes (action : Lowering α) (start : Builder) (done : α → Builder → Prop) : Prop :=
  action.Ends start (fun answer finish => finish.Sound ∧ start.Extends finish ∧ done answer finish)
    (fun failure finish => finish.Sound ∧ start.Extends finish ∧ ¬ failure.IsInternal)

/-- A computation that changes nothing extends the current block by nothing. -/
theorem Reads.computes {action : Lowering α} {done : α → Prop} (reads : action.Reads start done)
    (sound : start.Sound) :
    action.Computes start fun answer finish => done answer ∧ finish = start := by
  refine reads.imp (fun answer finish held => ?_) (fun failure finish held => ?_)
  · obtain ⟨answered, rfl⟩ := held
    exact ⟨sound, .refl _, answered, rfl⟩
  · obtain ⟨outside, rfl⟩ := held
    exact ⟨sound, .refl _, outside⟩

/-- Two computations that extend the current block extend it one after the other. -/
theorem Computes.bind {action : Lowering α} {next : α → Lowering β} {middle : α → Builder → Prop}
    {done : β → Builder → Prop} (first : action.Computes start middle)
    (second : ∀ answer builder, builder.Sound → start.Extends builder → middle answer builder →
      (next answer).Computes builder done) : (action >>= next).Computes start done := by
  refine Ends.bind (first.imp (fun _ _ held => held) fun _ _ held => held)
    fun answer builder held => ?_
  obtain ⟨sound, more, answered⟩ := held
  -- The second part begins in the sound builder that the first one leaves.
  refine (second answer builder sound more answered).imp (fun _ _ held => ?_) fun _ _ held => ?_
  · exact ⟨held.1, more.trans held.2.1, held.2.2⟩
  · exact ⟨held.1, more.trans held.2.1, held.2.2⟩

/-- Less may be wanted of an answer. -/
theorem Computes.imp {action : Lowering α} {done wanted : α → Builder → Prop}
    (computes : action.Computes start done)
    (succeeds : ∀ answer finish, start.Extends finish → done answer finish → wanted answer finish) :
    action.Computes start wanted := by
  refine Ends.imp computes (fun answer finish held => ?_) fun _ _ held => held
  obtain ⟨sound, more, answered⟩ := held
  exact ⟨sound, more, succeeds answer finish more answered⟩

/-- An answer is computed where it stands. -/
theorem Computes.pure {answer : α} {done : α → Builder → Prop} (sound : start.Sound)
    (answered : done answer start) :
    (Pure.pure answer : Lowering α).Computes start done :=
  ⟨sound, .refl _, answered⟩

/-- A refusal for a reason in the text may end a computation. -/
theorem Computes.refuse {cause : Cause} {place : Location} {done : α → Builder → Prop}
    (sound : start.Sound) (outside : ¬ (Failure.refused cause place).IsInternal) :
    (Lowering.refuse cause place : Lowering α).Computes start done :=
  ⟨sound, .refl _, outside⟩

/-- So may a fault that is not an internal one. -/
theorem Computes.stop {fault : Fault} {done : α → Builder → Prop} (sound : start.Sound)
    (outside : ¬ (Failure.fault fault).IsInternal) :
    (Lowering.stop fault : Lowering α).Computes start done :=
  ⟨sound, .refl _, outside⟩

/-- An instruction that is emitted is added to the current block, under a fresh name. -/
theorem emit_adds {base : String} {make : String → Instruction}
    {failed : Failure → Builder → Prop} (sound : start.Sound) (ready : start.Ready)
    (plain : Code.Function.IsPlain make) (fits : start.Admits make) :
    (emit base make).Ends start
      (fun name finish => finish.Sound ∧ start.Gains finish name (make name)) failed := by
  obtain ⟨block, function, _, here, owner, _⟩ := ready.owner
  -- Code is added to the block where the builder stands, under a fresh name.
  refine (emit_ends (sound.aligned block here)).mpr
    ⟨sound.append ready plain fits here, ⟨rfl, ?_, ?_, fun other => ?_⟩, fun kind holds => ?_⟩
  · exact start.code.append_grows block base plain
  · exact Module.handles_inFunction _ _ fun _ => rfl
  · rw [start.code.body?_append block base plain, show start.block? = some block from here]
    -- All other blocks are left as they are.
    by_cases same : other = block
    · simp [same]
    · rw [if_neg same, if_neg fun equal => same (Option.some.inj equal).symm]
  -- The name was free, so nothing of the function is called by it.
  · have member := holds.mem_definedNames here owner
    rw [Module.append, Module.inFunction_fresh owner] at member
    exact (sound.tidy.functions _ (Module.function?_mem owner)).register_not_mem base member

/-- Emitting an instruction that fits and ends nothing. -/
theorem emit_computes {base : String} {make : String → Instruction} (sound : start.Sound)
    (ready : start.Ready) (plain : Code.Function.IsPlain make)
    (goes : ∀ name, (make name).isTerminator = false) (fits : start.Admits make) :
    (emit base make).Computes start fun name finish =>
      start.Gains finish name (make name) ∧
        ∀ kind, (make name).result? = some (name, kind) → finish.Holds (.register name kind) := by
  refine (emit_adds sound ready plain fits).imp (fun name finish ⟨sound, gains⟩ => ?_)
    fun _ _ held => held
  have adds := gains.adds
  obtain ⟨block, function, body, here, owner, found, _⟩ := ready.owner
  refine ⟨sound, ⟨_, adds, .single (goes name)⟩, gains, fun kind result => ?_⟩
  -- Behind the instruction its register may be used.
  obtain ⟨grown, kept, _⟩ := adds.code.functions _ function owner
  exact ⟨block, grown, _, adds.block?.trans here, kept, adds.current here found,
    .inr ⟨_, by simp, result⟩⟩

/-- An instruction that is emitted without a name is added to the current block. -/
theorem emitUnnamed_adds {instruction : Instruction} {failed : Failure → Builder → Prop}
    (sound : start.Sound) (ready : start.Ready) (reserved : instruction.reserved? = none)
    (result : instruction.result? = none) (fits : start.Admits fun _ => instruction) :
    (emitUnnamed instruction).Ends start
      (fun _ finish => finish.Sound ∧ start.Adds finish [instruction]) failed := by
  -- An instruction without a result needs no name, whatever the function would give.
  have plain : Code.Function.IsPlain fun _ => instruction :=
    ⟨fun _ => reserved, fun _ => .inl (by simp [Instruction.defined?, reserved, result])⟩
  exact bind_ends.mpr ((emit_adds sound ready plain fits).imp
    (fun _ _ held => ⟨held.1, held.2.adds⟩) fun _ _ held => held)

/-- Emitting an instruction without a name, if it fits and ends nothing. -/
theorem emitUnnamed_computes {instruction : Instruction} (sound : start.Sound) (ready : start.Ready)
    (reserved : instruction.reserved? = none) (result : instruction.result? = none)
    (goes : instruction.isTerminator = false) (fits : start.Admits fun _ => instruction) :
    (emitUnnamed instruction).Computes start fun _ finish => start.Adds finish [instruction] := by
  refine (emitUnnamed_adds sound ready reserved result fits).imp (fun _ finish held => ?_)
    fun _ _ held => held
  exact ⟨held.1, ⟨_, held.2, .single goes⟩, held.2⟩

end Lowering

namespace Builder

/-- The current function has a slot of a kind. -/
def HasSlot (builder : Builder) (slot : String) (kind : ValueKind) : Prop :=
  ∃ block function, builder.block? = some block ∧ builder.code.function? block.function =
    some function ∧ (slot, kind) ∈ function.slots

/-- What is known about a callee is so in the code. -/
def HasCallee (builder : Builder) (callee : Lowering.Callee) : Prop :=
  ∃ function, builder.code.function? callee.handle = some function ∧
    callee.result = .exact function.result ∧
    callee.parameters = function.parameters.map fun parameter => parameter.2.exact

/-- Slots stay. -/
theorem Extends.hasSlot {builder later : Builder} (more : builder.Extends later) {slot : String}
    {kind : ValueKind} (has : builder.HasSlot slot kind) : later.HasSlot slot kind := by
  obtain ⟨block, function, here, owner, member⟩ := has
  obtain ⟨grown, kept, inside⟩ := more.code.functions _ function owner
  exact ⟨block, grown, more.block? ▸ here, kept, inside.slots _ member⟩

/-- Callees stay. -/
theorem Extends.hasCallee {builder later : Builder} (more : builder.Extends later)
    {callee : Lowering.Callee} (has : builder.HasCallee callee) : later.HasCallee callee := by
  obtain ⟨function, found, result, parameters⟩ := has
  obtain ⟨grown, kept, inside⟩ := more.code.functions _ function found
  exact ⟨grown, kept, inside.result ▸ result, inside.parameters ▸ parameters⟩

/-- A call only extends the current block. -/
theorem Calls.extends {builder later : Builder} {callee : Lowering.Callee}
    {arguments : List Operand} {answer : Option Operand}
    (calls : builder.Calls later callee arguments answer) : builder.Extends later := by
  cases calls with
  | value _ gains => exact ⟨_, gains.adds, .single rfl⟩
  | nothing _ adds => exact ⟨_, adds, .single rfl⟩

/-- A name that is found is declared in a frame, with a binding that fits the code. -/
theorem Sound.lookup {builder : Builder} (sound : builder.Sound) {name : String} {binding : Binding}
    (found : builder.scopes.lookup name = some binding) :
    ∃ frame ∈ builder.scopes.frames, (name, binding) ∈ frame.symbols ∧
      binding.Fits builder.code frame.home := by
  obtain ⟨frame, member, listed⟩ := Scopes.mem_of_lookup found
  exact ⟨frame, member, listed, (sound.fits frame member).bindings _ listed⟩

/-- Code is emitted into the function of the current block. -/
theorem Sound.function? {builder : Builder} (sound : builder.Sound) {block : BlockRef}
    (here : builder.block? = some block) : builder.scopes.function? = some block.function := by
  obtain ⟨frame, current, emits⟩ := Option.bind_eq_some_iff.mp here
  have owner := (sound.fits frame (List.mem_of_head? current)).function emits
  simp [Scopes.function?, current, owner]

/-- The slot of a variable that is found is in the code, with the kind of the variable. -/
theorem Resolves.hasSlot {builder : Builder} {name : String} {kind : ValueKind} {slot : Slot}
    (resolves : builder.Resolves name kind slot) (sound : builder.Sound) (ready : builder.Ready) :
    builder.HasSlot slot.name kind := by
  obtain ⟨block, function, _, here, owner, _⟩ := ready.owner
  obtain ⟨frame, _, _, belongs, stored, found, exact, held, member⟩ := sound.lookup resolves.bound
  -- The slot belongs to the frame's function, which is the current one.
  have own : block.function = slot.function :=
    Option.some.inj ((sound.function? here).symm.trans resolves.own)
  rw [← belongs, ← own, owner] at held
  cases held
  exact ⟨block, function, here, owner, ValueKind.exact_injective exact ▸ member⟩

end Builder

namespace Lowering

variable {α β : Type} {start : Builder}

/-- An answer is read where it stands. -/
theorem Reads.pure {answer : α} {done : α → Prop} (answered : done answer) :
    (Pure.pure answer : Lowering α).Reads start done :=
  ⟨answered, rfl⟩

/-- Two computations that change nothing change nothing together. -/
theorem Reads.bind {action : Lowering α} {next : α → Lowering β} {middle : α → Prop}
    {done : β → Prop} (first : action.Reads start middle)
    (second : ∀ answer, middle answer → (next answer).Reads start done) :
    (action >>= next).Reads start done := by
  refine Ends.bind (first.imp (fun _ _ held => held) fun _ _ held => held)
    fun answer builder held => ?_
  obtain ⟨answered, rfl⟩ := held
  exact second answer answered

/-- What only looks at the open frames changes nothing. -/
theorem Reads.of_looks {action : Lowering α} {answers done : α → Prop} {fails : Failure → Prop}
    (looks : action.Looks start.scopes answers fails)
    (answered : ∀ answer, answers answer → done answer)
    (outside : ∀ failure, fails failure → ¬ failure.IsInternal) : action.Reads start done := by
  refine looks.ends.imp (fun answer _ held => ?_) fun failure _ held => ?_
  · exact ⟨answered answer held.1, held.2⟩
  · exact ⟨outside failure held.1, held.2⟩

/-- Neither is a name that is missing or bound to something else. -/
theorem not_isInternal_of_isOfName {failure : Failure} {place : Location} {scopes : Scopes}
    {named : String → Prop}
    (held : ∃ cause, failure = .refused cause place ∧ cause.IsOfName scopes named) :
    ¬ failure.IsInternal := by
  obtain ⟨cause, rfl, named⟩ := held
  cases cause <;> first | exact id | exact named.elim

/-- The name that an expression uses may be none, which is the fault of the tree. -/
theorem usedName_reads (name : Tree) : (usedName name).Reads start (· = name.shown) :=
  .of_looks (.usedName name) (fun _ held => held) fun _ held => held.1.not_isInternal

/-- So may the sign of an operation. -/
theorem usedSign_reads (sign : Tree) : (usedSign sign).Reads start (· = sign.shown) :=
  .of_looks (.usedSign sign) (fun _ held => held) fun _ held => held.1.not_isInternal

/-- A variable that is found has a slot, which belongs to the current function. -/
theorem resolveVariable_reads (name : String) (place : Location) :
    (resolveVariable name place).Reads start fun (kind, slot) => start.Resolves name kind slot :=
  .of_looks (.resolveVariable name place) (fun _ held => ⟨held.1, held.2⟩)
    fun _ => not_isInternal_of_isOfName

/-- The function that a call names has the signature that is known of it. -/
theorem resolveCallee_reads (sound : start.Sound) (place : Location) (callee : Tree) :
    (resolveCallee place callee).Reads start start.HasCallee := by
  refine .of_looks (.resolveCallee place callee) (fun found ⟨_, bound⟩ => ?_) fun failure held => ?_
  · obtain ⟨_, _, _, fits⟩ := sound.lookup bound
    exact fits
  -- The name is wrong, or there is none: neither is an internal failure.
  · rcases held with bound | ⟨_, rfl | odd⟩
    · exact not_isInternal_of_isOfName bound
    · exact id
    · exact odd.not_isInternal

/-- The target of an assignment has a slot of its kind in the current function. -/
theorem resolveTarget_reads (sound : start.Sound) (ready : start.Ready) (place : Location)
    (operator : String) (target : Tree) :
    (resolveTarget place operator target).Reads start fun (_, kind, slot) =>
      start.HasSlot slot.name kind := by
  -- The answer is a variable in scope, and no failure is an internal one.
  refine .of_looks (.resolveTarget place operator target) (fun found held => ?_)
    fun failure held => ?_
  · exact Builder.Resolves.hasSlot ⟨held.2.1, held.2.2⟩ sound ready
  · rcases held with ⟨_, rfl⟩ | bound | ⟨_, rfl | odd⟩
    · exact id
    · exact not_isInternal_of_isOfName bound
    · exact id
    · exact odd.not_isInternal

/-- Reading a variable gives a value of its kind. -/
theorem loadVariable_computes (sound : start.Sound) (ready : start.Ready) (name : String)
    (place : Location) :
    (loadVariable name place).Computes start fun operand finish =>
      finish.Holds operand ∧ start.Loads finish name operand := by
  refine .bind ((resolveVariable_reads name place).computes sound) fun (kind, slot) _ _ _ held => ?_
  obtain ⟨resolves, rfl⟩ := held
  refine .bind (emit_computes sound ready ⟨fun _ => rfl, fun _ => .inr rfl⟩ (fun _ => rfl) ?_) ?_
  · intro block function body name here owner _ body_open
    -- The slot is one of the current function, and the register has the kind of the slot.
    obtain ⟨_, _, same, kept, member⟩ := resolves.hasSlot sound ready
    rw [here] at same
    cases same
    rw [owner] at kept
    cases kept
    exact ⟨body_open, by simp [Instruction.operands], by simp [Instruction.targets],
      by simpa [Instruction.accessed?] using member, trivial⟩
  · intro register finish sound _ held
    exact .pure sound ⟨held.2 kind rfl, .intro resolves held.1⟩

/-- A value that may be used is stored in a slot of its kind, or refused for its kind. -/
theorem storeVariable_adds (sound : start.Sound) (ready : start.Ready) (name : String)
    {kind : ValueKind} {slot : Slot} (has : start.HasSlot slot.name kind) {value : Operand}
    (holds : start.Holds value) (place : Location) :
    (storeVariable name kind slot value place).Ends start
      (fun _ finish => finish.Sound ∧ value.kind = kind ∧ start.Adds finish
        [.store value kind slot.name])
      (fun failure finish => finish = start ∧ ¬ failure.IsInternal ∧ value.kind ≠ kind) := by
  unfold storeVariable
  -- A value of another kind is refused before anything is emitted.
  split
  · rename_i same
    -- The store is legal: the value is defined there, and the slot has its kind.
    refine (emitUnnamed_adds sound ready rfl rfl ?_).imp (fun _ _ held => ⟨held.1, same, held.2⟩)
      fun _ _ held => held
    intro block function body _ here owner found body_open
    have defined := holds.isDefined here owner found
    obtain ⟨_, _, held, kept, member⟩ := has
    rw [here] at held
    cases held
    rw [owner] at kept
    cases kept
    exact ⟨body_open, by simpa [Instruction.operands] using defined, by simp [Instruction.targets],
      by simpa [Instruction.accessed?] using member, same⟩
  · rename_i other
    exact ⟨rfl, id, other⟩

/-- Storing a value that may be used puts it into a slot of its kind. -/
theorem storeVariable_computes (sound : start.Sound) (ready : start.Ready) (name : String)
    {kind : ValueKind} {slot : Slot} (has : start.HasSlot slot.name kind) {value : Operand}
    (holds : start.Holds value) (place : Location) :
    (storeVariable name kind slot value place).Computes start fun _ finish =>
      value.kind = kind ∧ start.Adds finish [.store value kind slot.name] := by
  refine (storeVariable_adds sound ready name has holds place).imp (fun _ finish held => ?_)
    fun _ finish held => ?_
  · exact ⟨held.1, ⟨_, held.2.2, .single rfl⟩, held.2⟩
  -- Where the kinds differ nothing has been emitted.
  · obtain ⟨rfl, outside, _⟩ := held
    exact ⟨sound, .refl _, outside⟩

/-- A call of a function with arguments of its kinds gives a value, unless the function returns
nothing. -/
theorem emitCall_computes (sound : start.Sound) (ready : start.Ready) {callee : Callee}
    (has : start.HasCallee callee) {arguments : List Operand}
    (holds : ∀ value ∈ arguments, start.Holds value)
    (kinds : arguments.map (·.kind.exact) = callee.parameters) :
    (emitCall callee arguments).Computes start fun answer finish =>
      (∀ operand ∈ answer, finish.Holds operand) ∧ start.Calls finish callee arguments answer := by
  obtain ⟨target, found, result, parameters⟩ := has
  -- Kinds of values are the same where they are the same as exact kinds.
  have same_kinds : arguments.map Operand.kind = target.parameters.map Prod.snd := by
    refine (List.map_inj_right fun _ _ => ValueKind.exact_injective).mp ?_
    rw [List.map_map, List.map_map]
    exact kinds.trans parameters
  unfold emitCall
  -- A result goes into a register, and a call without a result gets none.
  split
  · rename_i kind valued
    refine .bind (emit_computes sound ready ⟨fun _ => rfl, fun _ => .inr rfl⟩ (fun _ => rfl) ?_) ?_
    · intro block function body name here owner held body_open
      refine ⟨body_open, fun operand member =>
        ?_, by simp [Instruction.targets], by simp [Instruction.accessed?],
        target, found, same_kinds, ?_⟩
      -- All arguments are defined where the call stands.
      · exact (holds operand member).isDefined here owner held
      · rw [result] at valued
        exact valued.symm
    · intro register finish sound _ held
      refine .pure sound ⟨fun operand member => ?_, .value (Kind.value_eq_some.mp valued) held.1⟩
      cases member
      exact held.2 kind rfl
  · rename_i nothing
    refine .bind (emitUnnamed_computes sound ready rfl rfl rfl ?_) ?_
    · intro block function body _ here owner held body_open
      refine ⟨body_open, fun operand member =>
        ?_, by simp [Instruction.targets], by simp [Instruction.accessed?],
        target, found, same_kinds, ?_⟩
      · exact (holds operand member).isDefined here owner held
      · rw [result] at nothing
        exact nothing.symm
    · intro _ finish sound _ adds
      exact .pure sound ⟨nofun, .nothing nothing adds⟩

/-- An operation on two numbers gives a number. -/
theorem emitArithmetic_computes (sound : start.Sound) (ready : start.Ready) (sign : String)
    {left right : Operand} (left_holds : start.Holds left) (right_holds : start.Holds right)
    (place : Location) :
    (emitArithmetic sign left right place).Computes start fun operand finish =>
      finish.Holds operand ∧ start.Calculates finish sign left right operand := by
  -- A check emits nothing, and what passes it is a number.
  have checks : ∀ operand, (checkNumber sign operand place).Reads start fun _ =>
      operand.kind = .num := by
    refine fun operand => .of_looks (.checkNumber sign operand place) (fun _ held => held) ?_
    rintro _ ⟨_, rfl⟩
    exact id
  -- The sign must be known, and then both operands are checked, the left one first.
  unfold emitArithmetic
  split
  · exact .refuse sound id
  · rename_i known
    refine .bind ((checks left).computes sound) fun _ _ _ _ held => ?_
    obtain ⟨left_num, rfl⟩ := held
    refine .bind ((checks right).computes sound) fun _ _ _ _ held => ?_
    obtain ⟨right_num, rfl⟩ := held
    refine .bind (emit_computes sound ready ⟨fun _ => rfl, fun _ => .inr rfl⟩ (fun _ => rfl) ?_) ?_
    -- Both operands are still defined where the operation stands.
    · intro block function body name here owner found body_open
      refine ⟨body_open, fun operand member => ?_, by simp [Instruction.targets],
        by simp [Instruction.accessed?], left_num, right_num⟩
      simp only [Instruction.operands, List.mem_cons, List.not_mem_nil, or_false] at member
      rcases member with rfl | rfl
      · exact left_holds.isDefined here owner found
      · exact right_holds.isDefined here owner found
    · intro register finish sound _ held
      exact .pure sound ⟨held.2 .num rfl, .intro known left_num right_num held.1⟩

/-- A value that must be there is the one that the expression has. -/
theorem required_computes {expression : Lowering (Option Operand)} {place : Location}
    (computes : expression.Computes start fun answer finish => ∀ operand ∈ answer,
      finish.Holds operand) :
    (required place expression).Computes start fun operand finish => finish.Holds operand := by
  refine .bind computes fun answer finish sound _ held => ?_
  -- A call of a function without a result is no value.
  split
  · exact .pure sound (held _ rfl)
  · exact .refuse sound id

/-- The number of arguments is that of the parameters, or the call is refused. -/
theorem checkCount_reads (callee : Callee) (found : Nat) (place : Location) :
    (checkCount callee found place).Reads start fun _ => found = callee.parameters.length := by
  refine .of_looks (.checkCount callee found place) (fun _ held => held) ?_
  rintro _ ⟨_, rfl⟩
  exact id

/-- An argument has the kind that is expected of it, or the call is refused. -/
theorem checkArgument_reads (callee : String) (position : Nat) (expected : ExactKind)
    (value : Operand) (place : Location) :
    (checkArgument callee position expected value place).Reads start fun _ =>
      value.kind.exact = expected := by
  refine .of_looks (.checkArgument callee position expected value place) (fun _ held => held) ?_
  rintro _ ⟨_, rfl⟩
  exact id

end Lowering

namespace Tree

open Lowering

/-- Arguments that are lowered have the kinds that the callee expects, and may be used together
behind the last one. -/
def ArgumentsFit (kinds : List ExactKind) (values : List Operand) (builder : Builder) : Prop :=
  values.map (·.kind.exact) = kinds ∧ ∀ value ∈ values, builder.Holds value

/-- Lowering any tree as an expression only adds instructions that fit. -/
theorem lowerExpression_computes_all :
    (∀ tree start, Builder.Sound start → start.Ready →
      (lowerExpression tree).Computes start fun answer finish => ∀ operand ∈ answer,
        finish.Holds operand) ∧
    (∀ callee place tree start, Builder.Sound start → start.Ready →
      (lowerArguments callee place tree).Computes start (ArgumentsFit callee.parameters)) ∧
    (∀ callee position kinds items start, Builder.Sound start → start.Ready →
      items.length = kinds.length →
      (lowerItems callee position kinds items).Computes start (ArgumentsFit kinds)) := by
  -- By the recursion of lowering itself, with one case for each way to take a tree apart.
  refine lowerExpression.mutual_induct
    (fun tree => ∀ start, Builder.Sound start → start.Ready →
      (lowerExpression tree).Computes start fun answer finish => ∀ operand ∈ answer,
        finish.Holds operand)
    (fun callee place tree => ∀ start, Builder.Sound start → start.Ready →
      (lowerArguments callee place tree).Computes start (ArgumentsFit callee.parameters))
    (fun callee position kinds items => ∀ start, Builder.Sound start → start.Ready →
      items.length = kinds.length →
      (lowerItems callee position kinds items).Computes start (ArgumentsFit kinds))
    ?number ?boolean ?identifier ?assignment ?call ?binary ?other ?list ?text ?noList ?item
      ?nil ?noKinds
  -- A constant holds everywhere.
  case number =>
    intro place value start sound ready
    refine .pure sound fun operand member => ?_
    cases member
    exact ready.holds_constant nofun
  case boolean =>
    intro place value start sound ready
    refine .pure sound fun operand member => ?_
    cases member
    exact ready.holds_constant nofun
  -- A variable is loaded from its slot into a register of its own.
  case identifier =>
    intro place name kind start sound ready
    refine .bind ((usedName_reads name).computes sound) fun name _ _ _ held => ?_
    obtain ⟨_, rfl⟩ := held
    refine .bind (loadVariable_computes sound ready name place)
      fun operand finish sound _ held => ?_
    refine .pure sound fun operand member => ?_
    cases member
    exact held.1
  case assignment =>
    intro place left right operator value_lowers start sound ready
    refine .bind ((resolveTarget_reads sound ready place operator.shown left).computes sound)
      fun (name, kind, slot) _ _ _ held => ?_
    obtain ⟨has, rfl⟩ := held
    refine .bind (required_computes (value_lowers _ sound ready))
      fun value middle sound more holds => ?_
    -- The slot is still there behind the value.
    refine .bind (storeVariable_computes sound (more.ready ready) name
      (more.hasSlot has) holds place)
      fun _ finish sound more _ => .pure sound fun operand member => ?_
    cases member
    exact more.holds holds
  case call =>
    intro place callee arguments arguments_lower start sound ready
    refine .bind ((resolveCallee_reads sound place callee).computes sound)
      fun callee _ _ _ held => ?_
    obtain ⟨has, rfl⟩ := held
    refine .bind (arguments_lower callee _ sound ready) fun values middle sound more fit => ?_
    -- The callee is still what it was when its arguments are there.
    exact (emitCall_computes sound (more.ready ready) (more.hasCallee has) fit.2 fit.1).imp
      fun _ _ _ held => held.1
  -- The sign is read behind both operands, as they are lowered in front of it.
  case binary =>
    intro place left right operator left_lowers right_lowers start sound ready
    refine .bind (required_computes (left_lowers start sound ready))
      fun first middle sound more left_holds => ?_
    have middle_ready := more.ready ready
    refine .bind (required_computes (right_lowers middle sound middle_ready))
      fun second last sound more right_holds => ?_
    refine .bind ((usedSign_reads operator).computes sound) fun sign _ _ _ held => ?_
    obtain ⟨_, rfl⟩ := held
    -- The left operand may still be used behind the right one.
    refine .bind (emitArithmetic_computes sound (more.ready middle_ready) sign
      (more.holds left_holds)
      right_holds place) fun result finish sound _ held => .pure sound fun operand member => ?_
    cases member
    exact held.1
  -- All other nodes are no expressions.
  case other =>
    intro tree _ _ _ _ _ _ start sound ready
    rw [lowerExpression] <;> first | assumption | exact .refuse sound id
  case list =>
    intro callee place items items_lower start sound ready
    refine .bind ((checkCount_reads callee items.length place).computes sound)
      fun _ _ sound _ held => ?_
    obtain ⟨count, rfl⟩ := held
    exact items_lower _ sound ready count
  case text =>
    intro callee place value start sound ready
    refine .bind ((checkCount_reads callee value.length place).computes sound)
      fun _ _ sound _ held => ?_
    obtain ⟨count, rfl⟩ := held
    split
    -- An empty text is a list without arguments.
    · rename_i empty
      rw [String.isEmpty_iff.mp empty] at count
      refine .pure sound ⟨?_, List.forall_mem_nil _⟩
      exact (List.eq_nil_of_length_eq_zero count.symm).symm
    · exact .refuse sound id
  case noList =>
    intro callee place tree _ _ start sound ready
    rw [lowerArguments] <;> first | assumption | exact .stop sound (not_not_intro trivial)
  case item =>
    intro callee position kind kinds item rest item_lowers rest_lower start sound ready count
    refine .bind (required_computes (item_lowers start sound ready))
      fun value middle sound more holds => ?_
    refine .bind ((checkArgument_reads callee position kind value item.place).computes sound)
      fun _ _ sound _ held => ?_
    obtain ⟨kind_fits, rfl⟩ := held
    refine .bind (rest_lower _ sound (more.ready ready) (Nat.succ.inj count))
      fun values finish sound more fit => ?_
    refine .pure sound ⟨by simp [kind_fits, fit.1], fun operand member => ?_⟩
    -- The first argument may still be used behind the others.
    rcases List.mem_cons.mp member with rfl | later
    · exact more.holds holds
    · exact fit.2 operand later
  case nil =>
    intro callee position kinds start sound ready count
    rw [lowerItems]
    exact .pure sound ⟨(List.eq_nil_of_length_eq_zero count.symm).symm, List.forall_mem_nil _⟩
  -- There are as many kinds as items, so none are left over.
  case noKinds =>
    intro items callee position some_items start sound ready count
    exact absurd (List.eq_nil_of_length_eq_zero count) some_items

end Tree

end LoopLang
