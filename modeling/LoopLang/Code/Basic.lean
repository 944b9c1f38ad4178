import LoopLang.Code.Names
import LoopLang.Document.Basic
import LoopLang.Program.Basic
import LoopLang.Scope.Basic

/-! Code: modules of functions, whose blocks hold typed instructions on registers and stack
slots. -/

namespace LoopLang.Code

/-- A constant, or the value of a parameter or an earlier instruction. -/
inductive Operand
  | number (value : Numeral)
  | boolean (value : Bool)
  | register (name : String) (kind : ValueKind)
  deriving DecidableEq, Repr

/-- The kind of an operand's value. -/
def Operand.kind : Operand → ValueKind
  | .number _ => .num
  | .boolean _ => .bool
  | .register _ kind => kind

/-- Instructions; the last ones end a block. -/
inductive Instruction
  /-- Reserves a slot. -/
  | alloca (name : String) (kind : ValueKind)
  | load (name : String) (kind : ValueKind) (slot : String)
  | store (value : Operand) (kind : ValueKind) (slot : String)
  | arithmetic (name : String) (operator : Operator) (left right : Operand)
  /-- Whether two numbers are ordered and differ. -/
  | differ (name : String) (left right : Operand)
  /-- A call, with the register of its result if it has one. -/
  | call (result : Option (String × ValueKind)) (callee : Name) (arguments : List Operand)
  | jump (target : String)
  | branch (condition : Operand) (whenTrue whenFalse : String)
  | returnVoid
  | returnValue (value : Operand)
  deriving DecidableEq, Repr

namespace Instruction

/-- Whether an instruction ends a block. -/
def isTerminator : Instruction → Bool
  | jump _ | branch .. | returnVoid | returnValue _ => true
  | _ => false

/-- The operands of an instruction. -/
def operands : Instruction → List Operand
  | alloca .. | load .. | jump _ | returnVoid => []
  | store value _ _ | returnValue value => [value]
  | arithmetic _ _ left right | differ _ left right => [left, right]
  | call _ _ arguments => arguments
  | branch condition _ _ => [condition]

/-- The blocks that a terminator may go to. -/
def targets : Instruction → List String
  | jump target => [target]
  | branch _ whenTrue whenFalse => [whenTrue, whenFalse]
  | _ => []

/-- The name that an instruction defines, with the kind of the value behind it. -/
def result? : Instruction → Option (String × ValueKind)
  | load name kind _ => some (name, kind)
  | arithmetic name _ _ _ => some (name, .num)
  | differ name _ _ => some (name, .bool)
  | call result _ _ => result
  | _ => none

end Instruction

/-- A basic block. -/
structure Block where
  label : String
  instructions : List Instruction
  deriving DecidableEq, Repr

/-- Whether a block has its terminator. -/
def Block.isTerminated (block : Block) : Bool := block.instructions.any (·.isTerminator)

/-- A function: its blocks in order, the first one being where it starts, and the names taken in
it. -/
structure Function where
  /-- A text; code with a function that is called by another value cannot be written. -/
  name : Name
  parameters : List (String × ValueKind)
  result : ExactKind
  blocks : List Block
  names : Names
  deriving DecidableEq, Repr

/-- The functions of a module in order, and the names taken by them. -/
structure Module where
  functions : List Function
  names : Names
  deriving DecidableEq, Repr

namespace Function

/-- The block with a label. -/
def block? (function : Function) (label : String) : Option Block :=
  function.blocks.find? (·.label = label)

/-- Changes the block with a label. -/
def updateBlock (function : Function) (label : String) (change : Block → Block) : Function :=
  { function with
    blocks := function.blocks.map fun block => if block.label = label then change block else block }

/-- Appends an instruction to a block, under a fresh name made from the wanted one. -/
def append (function : Function) (label base : String) (make : String → Instruction) :
    String × Function :=
  let (name, names) := function.names.register base
  let add := fun (block : Block) => { block with instructions := block.instructions ++ [make name] }
  (name, { function.updateBlock label add with names })

/-- Puts a slot in front of all instructions of the first block. -/
def addSlot (function : Function) (base : String) (kind : ValueKind) : String × Function :=
  let (name, names) := function.names.register base
  let blocks :=
    match function.blocks with
    | [] => []
    | first :: rest =>
      { first with instructions := .alloca name kind :: first.instructions } :: rest
  (name, { function with blocks, names })

/-- Appends an empty block. -/
def addBlock (function : Function) (base : String) : String × Function :=
  let (label, names) := function.names.register base
  (label, { function with blocks := function.blocks ++ [⟨label, []⟩], names })

/-- Registers the parameters of a new function: first every parameter and the result without a name,
then each parameter's own name. -/
def registerParameters (names : Names) (wanted : List (String × ValueKind)) :
    List (String × ValueKind) × Names :=
  let unnamed := (List.replicate (wanted.length + 1) ()).foldl
    (fun names _ => names.registerUnnamed) names
  wanted.foldl
    (fun (parameters, names) (base, kind) =>
      let (name, names) := names.register base
      (parameters ++ [(name, kind)], names))
    ([], unnamed)

/-- A function without blocks. -/
def declared (name : Name) (wanted : List (String × ValueKind)) (result : ExactKind) : Function :=
  let (parameters, names) := registerParameters .empty wanted
  ⟨name, parameters, result, [], names⟩

end Function

namespace Module

/-- No functions. -/
def empty : Module := ⟨[], .empty⟩

/-- The function with a name. -/
def function? (module : Module) (name : Name) : Option Function :=
  module.functions.find? (·.name = name)

/-- Changes the function with a name. -/
def updateFunction (module : Module) (name : Name) (change : Function → Function) : Module :=
  { module with
    functions := module.functions.map fun function => if function.name = name then change function
      else function }

/-- Changes the function with a name by an operation that answers with a fresh name. -/
def inFunction (module : Module) (name : Name) (change : Function → String × Function) :
    String × Module :=
  let fresh := ((module.function? name).map fun function => (change function).1).getD ""
  (fresh, module.updateFunction name fun function => (change function).2)

/-- Appends an instruction to a block. -/
def append (module : Module) (block : BlockRef) (base : String) (make : String → Instruction) :
    String × Module :=
  module.inFunction block.function fun function => function.append block.label base make

/-- Reserves a slot in a function. -/
def addSlot (module : Module) (function : Name) (base : String) (kind : ValueKind) :
    String × Module :=
  module.inFunction function fun owner => owner.addSlot base kind

/-- Appends an empty block to a function. -/
def addBlock (module : Module) (function : Name) (base : String) : String × Module :=
  module.inFunction function fun owner => owner.addBlock base

/-- Appends a function without blocks, under a fresh name made from the wanted one. -/
def addFunction (module : Module) (base : Name) (parameters : List (String × ValueKind))
    (result : ExactKind) :
    Function × Module :=
  let (name, names) := module.names.registerName base
  let function := Function.declared name parameters result
  (function, ⟨module.functions ++ [function], names⟩)

/-- Whether a block has its terminator. -/
def isTerminated (module : Module) (block : BlockRef) : Bool :=
  ((module.function? block.function).bind (·.block? block.label)).any Block.isTerminated

/-- The names of all functions as they are shown, in order. -/
def functionNames (module : Module) : List String := module.functions.map (·.name.display)

end Module

end LoopLang.Code
