import LoopLang.Code.Basic
import Mathlib.Data.List.Forall2
import Mathlib.Logic.Relator

/-! Renamings: code that is the same up to the names of functions, blocks and values. -/

namespace LoopLang

open Code (Name Operand Instruction Block Function Module)

/-- Which functions stand for each other, and which names within a function of the first code do so
in its other. -/
structure Renaming where
  functions : Name → Name → Prop
  locals : Name → String → String → Prop

namespace Renaming

/-- A later renaming relates the same names and maybe more. -/
structure Grows (naming later : Renaming) : Prop where
  functions : ∀ name other, naming.functions name other → later.functions name other
  locals : ∀ function name other, naming.locals function name other →
    later.locals function name other

/-- A renaming as it is relates what it relates. -/
theorem Grows.refl (naming : Renaming) : naming.Grows naming := ⟨fun _ _ => id, fun _ _ _ => id⟩

/-- What is kept twice is kept. -/
theorem Grows.trans {naming middle later : Renaming} (first : naming.Grows middle)
    (second : middle.Grows later) :
    naming.Grows later := by
  refine ⟨fun name other held => ?_, fun function name other held => ?_⟩
  · exact second.functions name other (first.functions name other held)
  · exact second.locals function name other (first.locals function name other held)

/-- Every name stands for one name, and no two names stand for the same one. -/
structure OneToOne (naming : Renaming) : Prop where
  functions : Relator.BiUnique naming.functions
  locals : ∀ function, Relator.BiUnique (naming.locals function)

/-- No name stands for another one yet. -/
def nothing : Renaming := ⟨fun _ _ => False, fun _ _ _ => False⟩

/-- Another two names within a function stand for each other. -/
def withLocal (naming : Renaming) (function : Name) (name other : String) : Renaming :=
  { naming with
    locals := fun owner first second => naming.locals owner first second ∨
      (owner = function ∧ first = name ∧ second = other) }

/-- Another two functions stand for each other, and within them names that are the same. -/
def withFunction (naming : Renaming) (function other : Name) (taken : List Name) : Renaming where
  functions first second := naming.functions first second ∨ (first = function ∧ second = other)
  locals owner first second := naming.locals owner first second ∨
    (owner = function ∧ first = second ∧ .text first ∈ taken)

variable {naming larger : Renaming} {owner : Name}

/-- A renaming with another two names relates what it related before. -/
theorem grows_withLocal (naming : Renaming) (function : Name) (name other : String) :
    naming.Grows (naming.withLocal function name other) :=
  ⟨fun _ _ => id, fun _ _ _ => .inl⟩

/-- A renaming with another two functions relates what it related before. -/
theorem grows_withFunction (naming : Renaming) (function other : Name) (taken : List Name) :
    naming.Grows (naming.withFunction function other taken) :=
  ⟨fun _ _ => .inl, fun _ _ _ => .inl⟩

/-- Names that stood for nothing may stand for each other. -/
theorem OneToOne.withLocal (unique : naming.OneToOne) {name other : String}
    (new : ∀ second, ¬ naming.locals owner name second)
    (fresh : ∀ first, ¬ naming.locals owner first other) :
    (naming.withLocal owner name other).OneToOne := by
  -- Two pairs of names are old or new: both old, as before, both new, the same, and one of each
  -- cannot share a name.
  refine ⟨unique.functions, fun function => ⟨fun first second third left right => ?_,
    fun first second third left right => ?_⟩⟩
  · rcases left with left | ⟨rfl, rfl, rfl⟩ <;> rcases right with right | ⟨here, same, another⟩
    · exact (unique.locals function).1 left right
    · exact absurd (here ▸ another ▸ left) (fresh _)
    · exact absurd right (fresh _)
    · exact same.symm
  · rcases left with left | ⟨rfl, rfl, rfl⟩ <;> rcases right with right | ⟨here, same, another⟩
    · exact (unique.locals function).2 left right
    · exact absurd (here ▸ same ▸ left) (new _)
    · exact absurd right (new _)
    · exact another.symm

/-- Functions that stood for nothing may stand for each other. -/
theorem OneToOne.withFunction (unique : naming.OneToOne) {function other : Name}
    (taken : List Name) (new : ∀ second, ¬ naming.functions function second)
    (fresh : ∀ first, ¬ naming.functions first other)
    (empty : ∀ first second, ¬ naming.locals function first second) :
    (naming.withFunction function other taken).OneToOne := by
  -- As before, and within the new function no names stood for each other that the new ones could
  -- meet.
  refine ⟨⟨fun first second third left right => ?_, fun first second third left right => ?_⟩,
    fun function => ⟨fun first second third left right => ?_,
      fun first second third left right => ?_⟩⟩
  · rcases left with left | ⟨rfl, rfl⟩ <;> rcases right with right | ⟨rfl, same⟩
    · exact unique.functions.1 left right
    · exact absurd (same ▸ left) (fresh _)
    · exact absurd right (fresh _)
    · rfl
  · rcases left with left | ⟨rfl, rfl⟩ <;> rcases right with right | ⟨same, rfl⟩
    · exact unique.functions.2 left right
    · exact absurd (same ▸ left) (new _)
    · exact absurd right (new _)
    · rfl
  · rcases left with left | ⟨rfl, rfl, _⟩ <;> rcases right with right | ⟨here, same, _⟩
    · exact (unique.locals function).1 left right
    · exact absurd (here ▸ left) (empty _ _)
    · exact absurd right (empty _ _)
    · exact same.symm
  · rcases left with left | ⟨rfl, rfl, _⟩ <;> rcases right with right | ⟨here, same, _⟩
    · exact (unique.locals function).2 left right
    · exact absurd (here ▸ left) (empty _ _)
    · exact absurd right (empty _ _)
    · exact same

/-! Code that is the same up to a renaming; operands, instructions and blocks are those of one
function. -/

/-- The same constant, or names that stand for each other with the same kind. -/
inductive Operands (naming : Renaming) (owner : Name) : Operand → Operand → Prop
  | number (value : Numeral) : Operands naming owner (.number value) (.number value)
  | boolean (value : Bool) : Operands naming owner (.boolean value) (.boolean value)
  | register {name other : String} (kind : ValueKind) (named : naming.locals owner name other) :
    Operands naming owner (.register name kind) (.register other kind)

/-- What two calls answer: nothing, or a value of one kind under names that stand for each other. -/
def Results (naming : Renaming) (owner : Name) :
    Option (String × ValueKind) → Option (String × ValueKind) → Prop :=
  Option.Rel fun first second => naming.locals owner first.1 second.1 ∧ first.2 = second.2

/-- The same instruction on operands, slots, blocks and functions that stand for each other. -/
inductive Instructions (naming : Renaming) (owner : Name) : Instruction → Instruction → Prop
  | alloca {name other : String} (kind : ValueKind) (named : naming.locals owner name other) :
    Instructions naming owner (.alloca name kind) (.alloca other kind)
  | load {name other slot another : String} (kind : ValueKind)
      (named : naming.locals owner name other) (slots : naming.locals owner slot another) :
    Instructions naming owner (.load name kind slot) (.load other kind another)
  | store {value result : Operand} {slot another : String} (kind : ValueKind)
      (values : naming.Operands owner value result) (slots : naming.locals owner slot another) :
    Instructions naming owner (.store value kind slot) (.store result kind another)
  | arithmetic {name other : String} {left right first second : Operand} (operator : Operator)
      (named : naming.locals owner name other) (lefts : naming.Operands owner left first)
      (rights : naming.Operands owner right second) :
    Instructions naming owner (.arithmetic name operator left right)
      (.arithmetic other operator first second)
  | differ {name other : String} {left right first second : Operand}
      (named : naming.locals owner name other) (lefts : naming.Operands owner left first)
      (rights : naming.Operands owner right second) :
    Instructions naming owner (.differ name left right) (.differ other first second)
  | call {result answer : Option (String × ValueKind)} {callee target : Name}
      {arguments values : List Operand} (results : naming.Results owner result answer)
      (callees : naming.functions callee target)
      (passed : List.Forall₂ (naming.Operands owner) arguments values) :
    Instructions naming owner (.call result callee arguments) (.call answer target values)
  | jump {target other : String} (targets : naming.locals owner target other) :
    Instructions naming owner (.jump target) (.jump other)
  | branch {condition value : Operand} {whenTrue whenFalse first second : String}
      (conditions : naming.Operands owner condition value)
      (holds : naming.locals owner whenTrue first) (fails : naming.locals owner whenFalse second) :
    Instructions naming owner (.branch condition whenTrue whenFalse) (.branch value first second)
  | returnVoid : Instructions naming owner .returnVoid .returnVoid
  | returnValue {value result : Operand} (values : naming.Operands owner value result) :
    Instructions naming owner (.returnValue value) (.returnValue result)

/-- The same instructions under labels that stand for each other. -/
structure Blocks (naming : Renaming) (owner : Name) (block other : Block) : Prop where
  labels : naming.locals owner block.label other.label
  instructions : List.Forall₂ (naming.Instructions owner) block.instructions other.instructions

/-- Functions that stand for each other, with the same signature and the same blocks in the same
order. -/
structure Functions (naming : Renaming) (function other : Function) : Prop where
  names : naming.functions function.name other.name
  parameters : List.Forall₂
    (fun first second => naming.locals function.name first.1 second.1 ∧ first.2 = second.2)
    function.parameters other.parameters
  result : function.result = other.result
  blocks : List.Forall₂ (naming.Blocks function.name) function.blocks other.blocks

/-! A larger renaming relates the same code. -/

/-- Operands that stand for each other still do so under more names. -/
theorem Operands.mono (grows : naming.Grows larger) {operand other : Operand}
    (same : naming.Operands owner operand other) :
    larger.Operands owner operand other := by
  cases same with
  | number => exact .number _
  | boolean => exact .boolean _
  | register kind named => exact .register kind (grows.locals _ _ _ named)

/-- So do results. -/
theorem Results.mono (grows : naming.Grows larger) {result other : Option (String × ValueKind)}
    (same : naming.Results owner result other) : larger.Results owner result other := by
  cases same with
  | none => exact .none
  | some held => exact .some ⟨grows.locals _ _ _ held.1, held.2⟩

/-- So do instructions. -/
theorem Instructions.mono (grows : naming.Grows larger) {instruction other : Instruction}
    (same : naming.Instructions owner instruction other) :
    larger.Instructions owner instruction other := by
  -- Pairs of names are never taken back, so what corresponds goes on to do so.
  cases same with
  | alloca kind named => exact .alloca kind (grows.locals _ _ _ named)
  | load kind named slots => exact .load kind (grows.locals _ _ _ named) (grows.locals _ _ _ slots)
  | store kind values slots => exact .store kind (values.mono grows) (grows.locals _ _ _ slots)
  | arithmetic operator named lefts rights =>
    exact .arithmetic operator (grows.locals _ _ _ named) (lefts.mono grows) (rights.mono grows)
  | differ named lefts rights =>
    exact .differ (grows.locals _ _ _ named) (lefts.mono grows) (rights.mono grows)
  | call results callees passed =>
    exact .call (results.mono grows) (grows.functions _ _ callees)
      (passed.imp fun _ _ held => held.mono grows)
  | jump targets => exact .jump (grows.locals _ _ _ targets)
  | branch conditions holds fails =>
    exact .branch (conditions.mono grows) (grows.locals _ _ _ holds) (grows.locals _ _ _ fails)
  | returnVoid => exact .returnVoid
  | returnValue values => exact .returnValue (values.mono grows)

/-- So do blocks. -/
theorem Blocks.mono (grows : naming.Grows larger) {block other : Block}
    (same : naming.Blocks owner block other) :
    larger.Blocks owner block other :=
  ⟨grows.locals _ _ _ same.labels, same.instructions.imp fun _ _ held => held.mono grows⟩

/-- So do functions. -/
theorem Functions.mono (grows : naming.Grows larger) {function other : Function}
    (same : naming.Functions function other) :
    larger.Functions function other := by
  refine ⟨grows.functions _ _ same.names, same.parameters.imp fun _ _ held => ?_, same.result,
    same.blocks.imp fun _ _ held => held.mono grows⟩
  exact ⟨grows.locals _ _ _ held.1, held.2⟩

/-! What code says apart from its names. -/

/-- Operands that stand for each other have one kind. -/
theorem Operands.kind {operand other : Operand} (same : naming.Operands owner operand other) :
    other.kind = operand.kind := by
  cases same <;> rfl

/-- Instructions that stand for each other both end a block, or neither does. -/
theorem Instructions.isTerminator {instruction other : Instruction}
    (same : naming.Instructions owner instruction other) :
    other.isTerminator = instruction.isTerminator := by
  cases same <;> rfl

/-- Blocks that stand for each other both have their terminator, or neither has. -/
theorem Blocks.isTerminated {block other : Block} (same : naming.Blocks owner block other) :
    other.isTerminated = block.isTerminated := by
  -- Instructions that correspond are terminators in both runs or in neither.
  have ends {first second : List Instruction}
    (alike : List.Forall₂ (naming.Instructions owner) first second) :
      second.any (·.isTerminator) = first.any (·.isTerminator) := by
    induction alike with
    | nil => rfl
    | cons head _ rest => simp only [List.any_cons, head.isTerminator, rest]
  exact ends same.instructions

end Renaming

end LoopLang
