import LoopLang.Proofs.Code.Validity
import LoopLang.Proofs.Layout.Moments

/-!
The layout of functions: at any moment the slots stand in front of the entry block, the last one
first, and in every block the instructions stand in the order in which they were emitted.
-/

namespace LoopLang

open Code (Name Instruction Module)

namespace Placement

/-- The instructions that were emitted into a block, in order. -/
def emittedTo (placements : List Placement) (block : BlockRef) : List Instruction :=
  placements.filterMap fun placement =>
    match placement with
    | emitted other instruction => if other = block then some instruction else none
    | _ => none

/-- The slots that were reserved in a function, in order. -/
def reservedIn (placements : List Placement) (function : Name) : List (String × ValueKind) :=
  placements.filterMap fun placement =>
    match placement with
    | reserved other slot kind => if other = function then some (slot, kind) else none
    | _ => none

variable {placements : List Placement} {block : BlockRef} {function : Name}

/-- What is emitted to a block by two runs is emitted by the one and then by the other. -/
@[simp] theorem emittedTo_append (first second : List Placement) (block : BlockRef) :
    emittedTo (first ++ second) block = emittedTo first block ++ emittedTo second block :=
  List.filterMap_append

/-- So is what is reserved in a function. -/
@[simp] theorem reservedIn_append (first second : List Placement) (function : Name) :
    reservedIn (first ++ second) function = reservedIn first function ++
      reservedIn second function := List.filterMap_append

/-- Where nothing was emitted into a block, no instruction is listed for it. -/
theorem emittedTo_eq_nil (absent : ∀ instruction, emitted block instruction ∉ placements) :
    emittedTo placements block = [] := by
  refine List.filterMap_eq_nil_iff.mpr fun placement member => ?_
  -- Only what is emitted counts, and none of it goes to this block.
  cases placement with
  | emitted other instruction =>
    refine if_neg ?_
    rintro rfl
    exact absent instruction member
  | _ => rfl

/-- Where nothing was reserved in a function, no slot is listed for it. -/
theorem reservedIn_eq_nil (absent : ∀ slot kind, reserved function slot kind ∉ placements) :
    reservedIn placements function = [] := by
  refine List.filterMap_eq_nil_iff.mpr fun placement member => ?_
  -- Only slots count, and none of them belongs to this function.
  cases placement with
  | reserved other slot kind =>
    refine if_neg ?_
    rintro rfl
    exact absent slot kind member
  | _ => rfl

end Placement

open Placement (emittedTo reservedIn)

/-- A function holds what was put into it: its slots in front, the last one first, and all other
instructions as they came. -/
structure Code.Function.LaidOut (placements : List Placement) (function : Function) : Prop where
  entry : ∀ block ∈ function.blocks.head?, block.instructions =
    (reservedIn placements function.name).reverse.map (fun (slot, kind) => .alloca slot kind) ++
      emittedTo placements ⟨function.name, block.label⟩
  others : ∀ block ∈ function.blocks.tail,
    block.instructions = emittedTo placements ⟨function.name, block.label⟩
  /-- None of the other instructions reserves a slot. -/
  plain : ∀ block ∈ function.blocks,
    ∀ instruction ∈ emittedTo placements ⟨function.name, block.label⟩,
    ∀ slot kind, instruction ≠ .alloca slot kind

namespace Code

/-- Where nothing reserves a slot, a block has none. -/
theorem Block.slots_eq_nil {block : Block}
    (plain : ∀ instruction ∈ block.instructions, instruction.reserved? = none) :
    block.slots = [] := List.filterMap_eq_nil_iff.mpr plain

/-- With its slots in front, a block is made of the instructions that reserve them and of its
body. -/
theorem Function.SlotsInFront.instructions_eq {function : Function}
    (front : function.SlotsInFront) {block : Block} (member : block ∈ function.blocks) :
    block.instructions = block.slots.map (fun (slot, kind) => .alloca slot kind) ++ block.body := by
  obtain ⟨slots, split, reserve⟩ := front.split member
  -- The body is what is no slot.
  have none_later : block.body.filterMap Instruction.reserved? = [] := by
    refine List.filterMap_eq_nil_iff.mpr fun instruction inside => ?_
    simpa using (List.mem_filter.mp inside).2
  -- From the name and the kind of a slot its instruction can be read back.
  have reserved : block.slots.map (fun (slot, kind) => Instruction.alloca slot kind) = slots := by
    rw [Block.slots, split, List.filterMap_append, none_later, List.append_nil]
    clear split
    induction slots with
    | nil => rfl
    | cons first rest ih =>
      obtain ⟨slot, kind, rfl⟩ := Instruction.eq_alloca (reserve first List.mem_cons_self)
      simp [Instruction.reserved?,
        ih fun instruction later => reserve instruction (List.mem_cons_of_mem _ later)]
  rw [reserved]
  exact split

end Code

namespace Code.Module

/-- The code of a module is what was put into it. -/
structure Records (module : Module) (placements : List Placement) : Prop where
  tidy : module.Tidy
  bodies : ∀ block body, module.body? block = some body → body = emittedTo placements block
  slots : ∀ name function, module.function? name = some function →
    function.slots = (reservedIn placements name).reverse
  placed : ∀ block instruction, .emitted block instruction ∈ placements → module.body? block ≠ none
  owned : ∀ name slot kind, .reserved name slot kind ∈ placements → module.function? name ≠ none

variable {module : Module} {placements : List Placement}

/-- Changing a function neither adds nor removes one. -/
theorem function?_inFunction_ne_none {owner name : Name} {change : Function → String × Function}
    (keeps : ∀ function, (change function).2.name = function.name)
    (found : module.function? name ≠ none) :
    (module.inFunction owner change).2.function? name ≠ none := by
  rwa [ne_eq, function?_eq_none, handles_inFunction module owner keeps, ← function?_eq_none]

/-- Nothing has been placed in a module without functions. -/
theorem Records.empty : Records .empty [] where
  tidy := .empty
  bodies := nofun
  slots := nofun
  placed := fun _ _ member => absurd member List.not_mem_nil
  owned := fun _ _ _ member => absurd member List.not_mem_nil

namespace Records

variable (records : module.Records placements)

include records

/-- An instruction that is appended is the last one in its block. -/
theorem append (block : BlockRef) (base : String) {make : String → Instruction}
    (plain : Function.IsPlain make) :
    (module.append block base make).2.Records (placements ++ module.emission block base make) := by
  have bodies (other : BlockRef) := module.body?_append block base plain other
  have functions (name : Name) := module.function?_inFunction block.function name
    (fun function => function.append block.label base make) fun _ => rfl
  -- Bodies, slots, places of what was emitted, and owners of slots: each in its turn.
  refine ⟨records.tidy.append block base plain, fun other body found => ?_,
    fun name function found => ?_,
    fun other instruction member => ?_, fun name slot kind member => ?_⟩
  · rw [bodies other] at found
    rw [Placement.emittedTo_append]
    unfold emission
    split at found
    -- The block that is appended to is one that exists.
    · rename_i same
      subst same
      cases before : module.body? other with
      | none =>
        rw [before] at found
        cases found
      | some body =>
        rw [before] at found
        cases found
        rw [records.bodies other body before]
        simp [emittedTo]
    -- Any other block is left alone, and nothing is recorded for it.
    · rename_i apart
      rw [records.bodies other body found]
      cases module.body? block <;> simp [emittedTo, Ne.symm apart]
  -- What is emitted here reserves no slot.
  · rw [show (module.append block base make).2.function? name = _ from functions name] at found
    have none_reserved : reservedIn (module.emission block base make) name = [] := by
      unfold emission
      split <;> rfl
    rw [Placement.reservedIn_append, none_reserved, List.append_nil]
    split at found
    · rename_i same
      subst same
      obtain ⟨before, stands, rfl⟩ := Option.map_eq_some_iff.mp found
      rw [before.slots_append block.label base plain.reserved]
      exact records.slots _ before stands
    · exact records.slots name function found
  · rw [bodies other]
    -- A block that something was placed in is there before and behind.
    have stays : module.body? other ≠ none := by
      rcases List.mem_append.mp member with old | new
      · exact records.placed other instruction old
      · unfold emission at new
        split at new
        · rename_i found
          cases List.mem_singleton.mp new
          simp [found]
        · cases new
    split
    · rename_i same
      subst same
      cases found : module.body? other <;> simp_all
    · exact stays
  · refine function?_inFunction_ne_none (fun _ => rfl) (records.owned name slot kind ?_)
    rcases List.mem_append.mp member with old | new
    · exact old
    · unfold emission at new
      split at new
      · cases List.mem_singleton.mp new
      · cases new

/-- A slot that is reserved stands in front of the others, if its function has a block to put it
in. -/
theorem addSlot (owner : Name) (base : String) (kind : ValueKind) :
    (module.addSlot owner base kind).2.Records
      (placements ++ module.reservation owner base kind) := by
  have bodies (block : BlockRef) := module.body?_addSlot base kind owner block
  have functions (name : Name) :=
    module.function?_inFunction owner name (fun function => function.addSlot base kind)
    fun _ => rfl
  -- Bodies, slots, places of what was emitted, and owners of slots: each in its turn.
  refine ⟨records.tidy.addSlot base kind owner, fun block body found => ?_,
    fun name function found => ?_,
    fun block instruction member => ?_,
      fun name slot kind member => function?_inFunction_ne_none (fun _ => rfl) ?_⟩
  -- A slot belongs to no body.
  · rw [bodies block] at found
    have none_emitted : emittedTo (module.reservation owner base kind) block = [] := by
      unfold reservation
      split <;> rfl
    rw [Placement.emittedTo_append, none_emitted, List.append_nil]
    exact records.bodies block body found
  · rw [show (module.addSlot owner base kind).2.function? name = _ from functions name] at found
    rw [Placement.reservedIn_append, List.reverse_append]
    unfold reservation
    split at found
    · rename_i same
      subst same
      obtain ⟨before, stands, rfl⟩ := Option.map_eq_some_iff.mp found
      have slots := records.slots name before stands
      have fresh : (module.addSlot name base kind).1 = (before.names.register base).1 :=
        inFunction_fresh stands fun function => function.addSlot base kind
      -- Without an entry block nothing is reserved, and nothing is recorded.
      cases blocks : before.blocks with
      | nil =>
        simpa [stands, Function.start?, blocks, reservedIn, Function.slots,
          Function.addSlot] using slots
      | cons entry rest =>
        rw [before.slots_addSlot base kind (by simp [blocks]), slots]
        simp [stands, Function.start?, blocks, reservedIn, fresh]
    -- Other functions keep the slots that they have.
    · rename_i apart
      rw [records.slots name function found]
      cases (module.function? owner).bind (·.start?) <;> simp [reservedIn, Ne.symm apart]
  -- Nothing was placed in a block by reserving a slot, so the earlier placements decide.
  · rw [bodies block]
    refine records.placed block instruction ?_
    rcases List.mem_append.mp member with old | new
    · exact old
    · unfold reservation at new
      split at new
      · cases List.mem_singleton.mp new
      · cases new
  · rcases List.mem_append.mp member with old | new
    · exact records.owned name slot _ old
    · unfold reservation at new
      split at new
      -- The slot is recorded only for a function that has a block to hold it.
      · rename_i started
        cases List.mem_singleton.mp new
        intro absent
        simp [absent] at started
      · cases new

/-- A new block is empty, for no instruction can have been emitted into it. -/
theorem addBlock (owner : Name) (base : String) :
    (module.addBlock owner base).2.Records placements := by
  have functions (name : Name) :=
    module.function?_inFunction owner name (fun function => function.addBlock base) fun _ => rfl
  have bodies (block : BlockRef) : (module.addBlock owner base).2.body? block =
      if module.function? owner ≠ none ∧ block = ⟨owner, (module.addBlock owner base).1⟩
      then some [] else module.body? block := by
    cases found : module.function? owner with
    | some function => simpa using records.tidy.body?_addBlock base found block
    | none =>
      -- Where the function does not exist, nothing is changed.
      have same (name : Name) : (module.addBlock owner base).2.function? name =
          module.function? name := by
        rw [show (module.addBlock owner base).2.function? name = _ from functions name]
        split
        · rename_i here
          rw [here, found]
          rfl
        · rfl
      simp [body?, same]
  -- The label is fresh, so nothing was placed under it before.
  have fresh := records.tidy.addBlock_fresh base owner
  refine ⟨records.tidy.addBlock base owner, fun block body found => ?_,
    fun name function found => ?_, fun block instruction member => ?_, fun name slot kind member =>
      function?_inFunction_ne_none (fun _ => rfl) (records.owned name slot kind member)⟩
  · rw [bodies block] at found
    split at found
    -- The new block is empty.
    · rename_i new
      cases found
      rw [Placement.emittedTo_eq_nil]
      intro instruction member
      exact records.placed block instruction member (new.2 ▸ fresh)
    · exact records.bodies block body found
  · rw [show (module.addBlock owner base).2.function? name = _ from functions name] at found
    split at found
    · rename_i same
      subst same
      obtain ⟨before, stands, rfl⟩ := Option.map_eq_some_iff.mp found
      -- A new block comes behind the others and holds no slots.
      rw [before.slots_addBlock base]
      exact records.slots _ before stands
    · exact records.slots name function found
  · rw [bodies block]
    split
    · simp
    · exact records.placed block instruction member

/-- A new function has no slots, for none can have been reserved in it. -/
theorem addFunction (base : Name) (parameters : List (String × ValueKind)) (result : ExactKind) :
    (module.addFunction base parameters result).2.Records
      (placements ++ [.created (module.addFunction base parameters result).1.name]) := by
  have bodies (block : BlockRef) := records.tidy.body?_addFunction base parameters result block
  have functions (name : Name) := records.tidy.function?_addFunction base name parameters result
  have fresh := records.tidy.function?_registerName base
  -- A new function has neither blocks nor slots, and no name that was there before.
  refine ⟨records.tidy.addFunction base parameters result, fun block body found => ?_,
    fun name function found => ?_,
    fun block instruction member => ?_, fun name slot kind member => ?_⟩
  · rw [bodies block] at found
    simpa [emittedTo] using records.bodies block body found
  · rw [functions name] at found
    rw [Placement.reservedIn_append, show reservedIn [.created _] name = [] from rfl,
      List.append_nil]
    split at found
    · rename_i new
      cases found
      rw [Placement.reservedIn_eq_nil]
      · rfl
      -- No slot was recorded for a name that is fresh.
      · intro slot kind member
        exact records.owned name slot kind member (new ▸ fresh)
    · exact records.slots name function found
  · rw [bodies block]
    exact records.placed block instruction (by simpa using member)
  · rw [functions name]
    split
    · simp
    · exact records.owned name slot kind (by simpa using member)

/-- In the code of a module, every function holds what was put into it. -/
theorem laidOut {function : Function} (member : function ∈ module.functions) :
    function.LaidOut placements := by
  have tidy := records.tidy.functions function member
  have slots := records.slots function.name function (records.tidy.function?_eq member)
  have bodies (block : Block) (inside : block ∈ function.blocks) :
      block.body = emittedTo placements ⟨function.name, block.label⟩ :=
    records.bodies _ _ (records.tidy.body?_eq member inside)
  have entry (block : Block) (inside : block ∈ function.blocks) :=
    tidy.slotsInFront.instructions_eq inside
  have behind := tidy.slotsInFront
  cases blocks : function.blocks with
  -- A function without blocks has nothing to lay out.
  | nil => constructor <;> simp [blocks]
  | cons start rest =>
    simp only [Function.SlotsInFront, blocks] at behind
    rw [blocks] at bodies entry
    -- All slots are those of the first block, for the others reserve none.
    have all : function.slots = start.slots := by
      have none_later : rest.flatMap Block.slots = [] :=
        List.flatMap_eq_nil_iff.mpr fun block inside => Block.slots_eq_nil (behind.2 block inside)
      rw [Function.slots, blocks, List.flatMap_cons, none_later, List.append_nil]
    refine ⟨fun block first => ?_, fun block inside => ?_,
      fun block inside instruction emitted slot kind same => ?_⟩
    -- The first block holds the slots, in front of what was emitted to it.
    · cases Option.mem_def.mp (blocks ▸ first)
      rw [entry start List.mem_cons_self, ← all, slots, bodies start List.mem_cons_self]
    -- Any later block holds what was emitted to it, and nothing else.
    · have later : block ∈ rest := by simpa [blocks] using inside
      have inside := List.mem_cons_of_mem start later
      rw [entry block inside, Block.slots_eq_nil (behind.2 block later), bodies block inside]
      rfl
    -- What was emitted reserves no slot.
    · rw [blocks] at inside
      rw [← bodies block inside] at emitted
      simp [Block.body, same, Instruction.reserved?] at emitted

end Records

/-- So each step of building keeps the record. -/
theorem Records.step {builder later : Builder} {more : List Placement}
    (records : builder.code.Records placements) (step : builder.Step more later) :
    later.code.Records (placements ++ more) := by
  cases step with
  | emit here base plain => exact records.append _ base plain
  | reserve here base kind => exact records.addSlot _ base kind
  | addBlock owner base => simpa using records.addBlock owner base
  | addFunction base parameters result => exact records.addFunction base parameters result
  -- The other steps leave the code as it is.
  | _ => simpa using records

/-- So does a whole way. -/
theorem Records.steps {builder later : Builder} {more : List Placement}
    (records : builder.code.Records placements) (steps : builder.Steps more later) :
    later.code.Records (placements ++ more) := by
  induction steps with
  | none => simpa using records
  | more _ step ih => simpa using ih.step step

end Code.Module

end LoopLang
