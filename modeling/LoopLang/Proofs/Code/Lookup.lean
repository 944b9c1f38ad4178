import LoopLang.Code.WellFormed
import LoopLang.Proofs.Code.Names

/-! Code by name: what is found in a function or a module before and after each of its changes. -/

namespace LoopLang.Code

/-- What a block does, apart from reserving slots. -/
def Block.body (block : Block) : List Instruction :=
  block.instructions.filter (·.reserved?.isNone)

namespace Function

/-- The body of the block with a label. -/
def body? (function : Function) (label : String) : Option (List Instruction) :=
  (function.block? label).map Block.body

/-- The label of the block that a function starts in. -/
def start? (function : Function) : Option String := function.blocks.head?.map Block.label

/-- A block that is found has the label it was looked up by. -/
theorem block?_label {function : Function} {label : String} {block : Block}
    (found : function.block? label = some block) : block.label = label := by
  simpa using List.find?_some found

/-- A block that is found is one of the function's blocks. -/
theorem block?_mem {function : Function} {label : String} {block : Block}
    (found : function.block? label = some block) : block ∈ function.blocks :=
  List.mem_of_find?_eq_some found

/-- The label of a block is among the names that its function defines. -/
theorem label_mem_definedNames {function : Function} {block : Block}
    (member : block ∈ function.blocks) :
    block.label ∈ function.definedNames :=
  List.mem_append_right _ (List.mem_flatMap.mpr ⟨block, member, List.mem_cons_self⟩)

/-- The name of a slot is among the names that its function defines. -/
theorem slot_mem_definedNames {function : Function} {name : String} {kind : ValueKind}
    (member : (name, kind) ∈ function.slots) : name ∈ function.definedNames := by
  obtain ⟨block, inside, reserved⟩ := List.mem_flatMap.mp member
  obtain ⟨instruction, listed, slot⟩ := List.mem_filterMap.mp reserved
  have defined : instruction.defined? = some name := by simp [Instruction.defined?, slot]
  refine List.mem_append_right _ (List.mem_flatMap.mpr ⟨block, inside, List.mem_cons_of_mem _ ?_⟩)
  exact List.mem_filterMap.mpr ⟨instruction, listed, defined⟩

/-- A function with a block has a first one, which is found under its label. -/
theorem start?_of_body? {function : Function} {label : String} {body : List Instruction}
    (found : function.body? label = some body) :
    ∃ first entry, function.start? = some first ∧ function.body? first = some entry := by
  cases blocks : function.blocks with
  | nil => simp [body?, block?, blocks] at found
  | cons entry rest =>
    exact ⟨entry.label, entry.body, by simp [start?, blocks], by simp [body?, block?, blocks]⟩

/-- Changing one block changes what is found under its label only. -/
theorem block?_updateBlock (function : Function) (label other : String) (change : Block → Block)
    (keeps : ∀ block, (change block).label = block.label) :
    (function.updateBlock label change).block? other =
      if other = label then (function.block? label).map change else function.block? other := by
  -- Changed or not, every block keeps its label.
  have same : ∀ block : Block,
      (if block.label = label then change block else block).label = block.label := by
    intro block
    split
    · exact keeps block
    · rfl
  -- A changed block is looked up by the label it had before.
  have mapped : (function.updateBlock label change).block? other =
      (function.block? other).map fun block => if block.label = label then change block
        else block := by
    simp only [updateBlock, block?, List.find?_map, Function.comp_def, same]
  rw [mapped]
  -- Either there was no such block, or it is the changed one or another.
  cases found : function.block? other with
  | none =>
    split
    · rename_i here
      simp [← here, found]
    · rfl
  | some block =>
    have named := block?_label found
    split
    · rename_i here
      simp [← here, found, named]
    · rename_i elsewhere
      simp [named, elsewhere]

/-- The body of a block that an instruction is appended to grows by that instruction. -/
theorem body?_append (function : Function) (label base other : String) {make : String → Instruction}
    (plain : ∀ name, (make name).reserved? = none) :
    (function.append label base make).2.body? other =
      if other = label then
        (function.body? label).map (· ++ [make (function.names.register base).1])
      else function.body? other := by
  let add := fun (block : Block) =>
    { block with instructions := block.instructions ++ [make (function.names.register base).1] }
  -- The body of a block is what stands behind its slots, and a plain instruction is none.
  show ((function.updateBlock label add).block? other).map Block.body = _
  rw [block?_updateBlock function label other add fun _ => rfl]
  split
  · cases found : function.block? label <;> simp [body?, found, add, Block.body, plain]
  · rfl

/-- Reserving a slot leaves every body as it is. -/
theorem body?_addSlot (function : Function) (base other : String) (kind : ValueKind) :
    (function.addSlot base kind).2.body? other = function.body? other := by
  cases blocks : function.blocks with
  | nil => simp [body?, block?, addSlot, blocks]
  | cons first rest =>
    by_cases here : first.label = other <;>
      simp [body?, block?, addSlot, blocks, here, Block.body, Instruction.reserved?]

/-- A new block is found under its label, if that was free. -/
theorem body?_addBlock (function : Function) (base other : String)
    (free : function.body? (function.names.register base).1 = none) :
    (function.addBlock base).2.body? other =
      if other = (function.names.register base).1 then some [] else function.body? other := by
  -- A block of that label would be found in front of the new one, but there is none.
  have absent : function.blocks.find? (·.label = (function.names.register base).1) = none := by
    simpa [body?, block?] using free
  by_cases here : other = (function.names.register base).1
  · simp [body?, block?, addBlock, List.find?_append, here, absent, Block.body]
  · have apart : (function.names.register base).1 ≠ other := fun same => here same.symm
    simp [body?, block?, addBlock, List.find?_append, here, apart]

/-- Appending an instruction that reserves nothing leaves the slots as they are. -/
theorem slots_append (function : Function) (label base : String) {make : String → Instruction}
    (plain : ∀ name, (make name).reserved? = none) :
    (function.append label base make).2.slots = function.slots := by
  simp only [slots, append, updateBlock, List.flatMap_map]
  congr 1
  funext block
  split <;> simp [Block.slots, plain]

/-- A new slot is put in front of the others, if there is a block to put it in. -/
theorem slots_addSlot (function : Function) (base : String) (kind : ValueKind)
    (started : function.blocks ≠ []) :
    (function.addSlot base kind).2.slots =
      ((function.names.register base).1, kind) :: function.slots := by
  cases blocks : function.blocks with
  | nil => exact absurd blocks started
  | cons first rest => simp [slots, addSlot, blocks, Block.slots, Instruction.reserved?]

/-- A new block brings no slots. -/
theorem slots_addBlock (function : Function) (base : String) :
    (function.addBlock base).2.slots = function.slots := by
  simp [slots, addBlock, Block.slots]

end Function

end LoopLang.Code
