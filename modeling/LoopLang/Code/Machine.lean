import LoopLang.Code.Text
import LoopLang.Code.WellFormed
import LoopLang.Value.Basic

/-! Running code: one instruction at a time, on registers and slots of the active call. -/

namespace LoopLang.Code

/-- A call in progress: what is left of its block, its registers, and its slots, which start without
a value. -/
structure Activation where
  function : Function
  rest : List Instruction
  registers : List (String × Value)
  slots : List (String × Option Value)
  deriving DecidableEq, Repr

/-- Sets the entry of a name, or adds one. -/
def assign {α : Type} (name : String) (value : α) : List (String × α) → List (String × α)
  | [] => [(name, value)]
  | (other, old) :: rest =>
    if other = name then (name, value) :: rest else (other, old) :: assign name value rest

namespace Activation

/-- The value of an operand. -/
def value? (activation : Activation) : Operand → Option Value
  | .number value => some (.number value.value)
  | .boolean value => some (.boolean value)
  | .register name _ => activation.registers.lookup name

/-- The number that an operand stands for. -/
def number? (activation : Activation) (operand : Operand) : Option Float :=
  match activation.value? operand with
  | some (.number value) => some value
  | _ => none

/-- The truth value that an operand stands for. -/
def boolean? (activation : Activation) (operand : Operand) : Option Bool :=
  match activation.value? operand with
  | some (.boolean value) => some value
  | _ => none

/-- Sets a register. -/
def setRegister (activation : Activation) (name : String) (value : Value) : Activation :=
  { activation with registers := assign name value activation.registers }

/-- Goes to the start of a block. -/
def enter? (activation : Activation) (label : String) : Option Activation :=
  (activation.function.block? label).map fun block => { activation with rest := block.instructions }

/-- A call of a function, whose parameters are its first registers. -/
def start? (function : Function) (arguments : List Value) : Option Activation :=
  if arguments.length = function.parameters.length then
    function.blocks.head?.map fun block =>
      ⟨function, block.instructions, (function.parameters.map Prod.fst).zip arguments, []⟩
  else none

end Activation

/-- A call that waits for another one, with the register for the result. -/
structure Waiting where
  activation : Activation
  result : Option String
  deriving DecidableEq, Repr

/-- The active call and the calls that wait, the latest first. -/
structure Configuration where
  active : Activation
  waiting : List Waiting
  deriving DecidableEq, Repr

/-- What one step leads to; a machine is stuck where code breaks its rules. -/
inductive Progress
  | running (configuration : Configuration)
  | finished (result : Option Value)
  | stuck
  deriving DecidableEq, Repr

namespace Configuration

/-- Goes on with another state of the active call. -/
def continueWith (configuration : Configuration) : Option Activation → Progress
  | some active => .running { configuration with active }
  | none => .stuck

/-- Returns from the active call. -/
def leave (configuration : Configuration) (result : Option Value) : Progress :=
  match configuration.waiting with
  | [] => .finished result
  | ⟨activation, register⟩ :: waiting =>
    match register, result with
    | some name, some value => .running ⟨activation.setRegister name value, waiting⟩
    | none, none => .running ⟨activation, waiting⟩
    | _, _ => .stuck

/-- Calls a function; the active call waits. -/
def enterCall (module : Module) (active : Activation) (waiting : List Waiting)
    (register : Option String) (callee : Name) (arguments : List Operand) : Progress :=
  match arguments.mapM active.value?, module.function? callee with
  | some values, some function =>
    -- The call that waits goes on behind the calling instruction.
    match Activation.start? function values with
    | some activation => .running ⟨activation, ⟨active, register⟩ :: waiting⟩
    | none => .stuck
  | _, _ => .stuck

/-- Performs one instruction of the active call. -/
def perform (module : Module) (configuration : Configuration) (active : Activation) :
    Instruction → Progress
  -- A new slot holds nothing, also where one of that name was used before.
  | .alloca name _ =>
    .running { configuration with active := { active with slots := assign name none active.slots } }
  | .load name _ slot =>
    configuration.continueWith ((active.slots.lookup slot).join.map (active.setRegister name))
  | .store value _ slot =>
    configuration.continueWith ((active.value? value).map fun stored =>
      { active with slots := assign slot (some stored) active.slots })
  -- Operands without a number leave nothing to go on with.
  | .arithmetic name operator left right =>
    configuration.continueWith (do
      let first ← active.number? left
      let second ← active.number? right
      return active.setRegister name (.number (operator.apply first second)))
  | .differ name left right =>
    configuration.continueWith (do
      let first ← active.number? left
      let second ← active.number? right
      return active.setRegister name (.boolean (orderedDiffer first second)))
  -- The caller waits behind the call, for a result if there is a register for it.
  | .call result callee arguments =>
    enterCall module active configuration.waiting (result.map Prod.fst) callee arguments
  -- Where the target is missing there is no next configuration.
  | .jump target => configuration.continueWith (active.enter? target)
  | .branch condition whenTrue whenFalse =>
    configuration.continueWith (do
      let choice ← active.boolean? condition
      active.enter? (if choice then whenTrue else whenFalse))
  -- The function that waits goes on, or the run is over.
  | .returnVoid => configuration.leave none
  | .returnValue value =>
    match active.value? value with
    | some result => configuration.leave (some result)
    | none => .stuck

/-- Performs the next instruction. -/
def step (module : Module) (configuration : Configuration) : Progress :=
  match configuration.active.rest with
  | [] => .stuck
  | instruction :: rest =>
    perform module configuration { configuration.active with rest } instruction

end Configuration

/-- How a run of bounded length ends. -/
inductive Outcome
  | finished (result : Option Value)
  | stuck
  | outOfSteps
  deriving DecidableEq, Repr

/-- Runs at most the given number of steps. -/
def runFrom (module : Module) : (steps : Nat) → Configuration → Outcome
  | 0, _ => .outOfSteps
  | steps + 1, configuration =>
    match configuration.step module with
    | .running next => runFrom module steps next
    | .finished result => .finished result
    | .stuck => .stuck

/-- Calls a function of a module and runs at most the given number of steps. -/
def Module.run (module : Module) (steps : Nat) (name : Name) (arguments : List Value) : Outcome :=
  match (module.function? name).bind (Activation.start? · arguments) with
  | some activation => runFrom module steps ⟨activation, []⟩
  | none => .stuck

/-- Why a module is not fit to run. -/
inductive Defect
  /-- A function is called by a value of another sort than a text. -/
  | misnamed (sort : String)
  | unterminatedBlock
  /-- The null character ends code as it is read, and here it stands within a name. -/
  | nullInName
  | reservedName
  /-- The name of a parameter, a slot or a value is cut where code is read, and then is another
  one. -/
  | longName
  deriving DecidableEq, Repr

/-- Names that start like this belong to built-in functions, which no module may define. -/
def reservedStart : String := "llvm."

/-- The most bytes that a name within a function may have; what is behind them is not read. -/
def longestName : Nat := 1024

/-- Whether every block of a function has its terminator. -/
def Function.isTerminated (function : Function) : Bool := function.blocks.all Block.isTerminated

/-- Checks that a module can be written: every function must be called by a text. -/
def Module.checkNames (module : Module) : Except Defect Unit :=
  match module.misnomer? with
  | some value => .error (.misnamed (Document.ofScalar value).sortName)
  | none => .ok ()

/-- Whether a name that is taken in a function, or that of the function, has the null character in
it. -/
def Function.hasNullInName (function : Function) : Bool :=
  (function.name :: function.names.used).any fun name => name.display.toList.contains '\x00'

/-- The names of the parameters, slots and values of a function. -/
def Function.localNames (function : Function) : List String :=
  function.parameters.map Prod.fst ++
    function.blocks.flatMap fun block => block.instructions.filterMap Instruction.defined?

/-- Whether one of them is too long to be read. Labels are not asked about: they are made from short
words. -/
def Function.hasLongName (function : Function) : Bool :=
  function.localNames.any fun name => longestName < name.utf8ByteSize

/-- Checks that a module is fit to run. -/
def Module.verify (module : Module) : Except Defect Unit := do
  -- Code is written before it is read again, and reading finds the other defects.
  module.checkNames
  if !module.functions.all Function.isTerminated then .error .unterminatedBlock
  else if module.functions.any Function.hasNullInName then .error .nullInName
  else if module.functions.any fun function => function.name.display.startsWith reservedStart then
    .error .reservedName
  else if module.functions.any Function.hasLongName then .error .longName
  else .ok ()

end LoopLang.Code
