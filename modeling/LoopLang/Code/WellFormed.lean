import LoopLang.Code.Basic

/-! Well-formed code: what the blocks and instructions of every function must keep to. -/

namespace LoopLang.Code

namespace Instruction

/-- The slot that an instruction reserves, with its kind. -/
def reserved? : Instruction → Option (String × ValueKind)
  | alloca name kind => some (name, kind)
  | _ => none

/-- The slot that an instruction reads or writes, with the kind of what it reads or writes. -/
def accessed? : Instruction → Option (String × ValueKind)
  | load _ kind slot => some (slot, kind)
  | store _ kind slot => some (slot, kind)
  | _ => none

/-- The name that an instruction gives to a slot or to a value. -/
def defined? (instruction : Instruction) : Option String :=
  (instruction.reserved? <|> instruction.result?).map Prod.fst

/-- Whether the kinds that an instruction works with fit each other, its function, and the function
it calls. -/
def IsTyped (module : Module) (function : Function) : Instruction → Prop
  | alloca .. | load .. | jump _ => True
  | store value kind _ => value.kind = kind
  | arithmetic _ _ left right => left.kind = .num ∧ right.kind = .num
  | differ _ left right => left.kind = .num ∧ right.kind = .num
  -- Callees are found in the whole module, wherever they are defined.
  | call result callee arguments =>
    ∃ target, module.function? callee = some target ∧
      arguments.map Operand.kind = target.parameters.map Prod.snd ∧
      result.map Prod.snd = target.result.value?
  | branch condition _ _ => condition.kind = .bool
  | returnVoid => function.result = .void
  | returnValue value => value.kind.exact = function.result

end Instruction

/-- Whether an operand is a constant, a parameter, or the result of an instruction that stands
before. -/
def Operand.IsDefined (parameters : List (String × ValueKind)) (before : List Instruction) :
    Operand → Prop
  | number _ | boolean _ => True
  | register name kind =>
    (name, kind) ∈ parameters ∨ ∃ earlier ∈ before, earlier.result? = some (name, kind)

/-- The slots that a block reserves. -/
def Block.slots (block : Block) : List (String × ValueKind) :=
  block.instructions.filterMap Instruction.reserved?

/-- The names that a block defines: its label, and those of its slots and values. -/
def Block.definedNames (block : Block) : List String :=
  block.label :: block.instructions.filterMap Instruction.defined?

namespace Function

/-- The slots that a function reserves. -/
def slots (function : Function) : List (String × ValueKind) := function.blocks.flatMap Block.slots

/-- The names that a function defines: its parameters, and all that its blocks define. -/
def definedNames (function : Function) : List String :=
  function.parameters.map Prod.fst ++ function.blocks.flatMap Block.definedNames

/-- Whether slots are reserved at the start of the first block and nowhere else. -/
def SlotsInFront (function : Function) : Prop :=
  match function.blocks with
  | [] => True
  | entry :: rest =>
    (∃ front body, entry.instructions = front ++ body ∧
      (∀ instruction ∈ front, instruction.reserved?.isSome) ∧
      ∀ instruction ∈ body, instruction.reserved? = none) ∧
    ∀ block ∈ rest, ∀ instruction ∈ block.instructions, instruction.reserved? = none

/-- What every function of well-formed code keeps to. -/
structure WellFormed (module : Module) (function : Function) : Prop where
  /-- There is a block to start in. -/
  started : function.blocks ≠ []
  /-- Every block ends in its only terminator. -/
  terminated : ∀ block ∈ function.blocks, ∃ body last, block.instructions = body ++ [last] ∧
    last.isTerminator = true ∧ ∀ instruction ∈ body, instruction.isTerminator = false
  /-- Terminators go to blocks of the same function, but never back to the first one. -/
  targets : ∀ block ∈ function.blocks, ∀ instruction ∈ block.instructions,
    ∀ target ∈ instruction.targets, ∃ other ∈ function.blocks.tail, other.label = target
  /-- Operands are constants, parameters, or results of instructions before them in the same
  block. -/
  operands : ∀ block ∈ function.blocks, ∀ before instruction after,
    block.instructions = before ++ instruction :: after →
      ∀ operand ∈ instruction.operands, operand.IsDefined function.parameters before
  /-- What is read or written is a slot of the same function, of the same kind. -/
  accesses : ∀ block ∈ function.blocks, ∀ instruction ∈ block.instructions,
    ∀ slot ∈ instruction.accessed?, slot ∈ function.slots
  /-- The kinds fit. -/
  typed : ∀ block ∈ function.blocks, ∀ instruction ∈ block.instructions,
    instruction.IsTyped module function
  /-- Slots are reserved before anything else is done. -/
  slotsInFront : function.SlotsInFront
  /-- Everything in the function has a name of its own. -/
  distinct : function.definedNames.Nodup

end Function

/-- Code all of whose functions are well-formed. -/
def Module.WellFormed (module : Module) : Prop :=
  ∀ function ∈ module.functions, function.WellFormed module

end LoopLang.Code
