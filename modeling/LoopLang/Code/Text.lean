import LoopLang.Code.Basic
import LoopLang.Diagnostic.Basic
import LoopLang.Number.Text

/-! The text of code. -/

namespace LoopLang

/-- The type of the values of a kind, as code writes it. -/
def ValueKind.typeText : ValueKind → String
  | .num => "double"
  | .bool => "i1"

/-- The type of an exact kind, as code writes it. -/
def ExactKind.typeText : ExactKind → String
  | .num => "double"
  | .bool => "i1"
  | .void => "void"

namespace Code

/-- A name between double quotes; quotes and backslashes within are written by their codes. -/
def quotedName (name : String) : String :=
  let escape := fun (char : Char) =>
    if char = '\\' then ['\\', '5', 'c'] else if char = '"' then ['\\', '2', '2'] else [char]
  String.ofList (['"'] ++ name.toList.flatMap escape ++ ['"'])

/-- A reference to something within a function. -/
def localName (name : String) : String := "%" ++ quotedName name

/-- A reference to a function. -/
def globalName (name : Name) : String := "@" ++ quotedName name.display

/-- A character of a label that needs no quotes, apart from digits. -/
def isLabelChar (char : Char) : Bool := char.isAlpha || ['-', '$', '.', '_'].contains char

/-- The label in front of a block, in quotes unless it is a plain word. -/
def labelText (label : String) : String :=
  let plain :=
    match label.toList with
    | [] => false
    | first :: rest => isLabelChar first && rest.all fun char => isLabelChar char || char.isDigit
  if plain then label else quotedName label

/-- A value without its type; numbers are written by their bits. -/
def Operand.text : Operand → String
  | .number value => value.hexBits
  | .boolean value => if value then "1" else "0"
  | .register name _ => localName name

/-- A value with its type. -/
def Operand.typedText (operand : Operand) : String := operand.kind.typeText ++ " " ++ operand.text

/-- The name of an arithmetic instruction. -/
def operatorText : Operator → String
  | .add => "fadd"
  | .subtract => "fsub"
  | .multiply => "fmul"
  | .divide => "fdiv"

/-- A slot with the type of pointers to its kind. -/
def slotText (kind : ValueKind) (slot : String) : String := kind.typeText ++ "* " ++ localName slot

/-- A reference to a block. -/
def targetText (label : String) : String := "label " ++ localName label

/-- The text of an instruction. -/
def Instruction.text : Instruction → String
  | .alloca name kind => localName name ++ " = alloca " ++ kind.typeText
  | .load name kind slot =>
    localName name ++ " = load " ++ kind.typeText ++ ", " ++ slotText kind slot
  | .store value kind slot => "store " ++ value.typedText ++ ", " ++ slotText kind slot
  | .arithmetic name operator left right =>
    localName name ++ " = " ++ operatorText operator ++ " " ++ left.typedText ++ ", " ++ right.text
  | .differ name left right =>
    localName name ++ " = fcmp one " ++ left.typedText ++ ", " ++ right.text
  -- Only a call with a result has a name in front of it.
  | .call result callee arguments =>
    let call := fun (type : String) =>
      "call " ++ type ++ " " ++ globalName callee ++ "(" ++
        ", ".intercalate (arguments.map Operand.typedText) ++ ")"
    match result with
    | some (name, kind) => localName name ++ " = " ++ call kind.typeText
    | none => call "void"
  | .jump target => "br " ++ targetText target
  | .branch condition whenTrue whenFalse =>
    "br " ++ condition.typedText ++ ", " ++ targetText whenTrue ++ ", " ++ targetText whenFalse
  | .returnVoid => "ret void"
  | .returnValue value => "ret " ++ value.typedText

/-- The lines of a block. -/
def Block.lines (block : Block) : List String :=
  (labelText block.label ++ ":") :: block.instructions.map fun instruction =>
    "  " ++ instruction.text

namespace Function

/-- The type of a function. -/
def typeText (function : Function) : String :=
  function.result.typeText ++ " (" ++
    ", ".intercalate (function.parameters.map fun (_, kind) => kind.typeText) ++ ")"

/-- The lines of a function. -/
def lines (function : Function) : List String :=
  let parameters :=
    function.parameters.map fun (name, kind) => kind.typeText ++ " " ++ localName name
  let header :=
    "define " ++ function.result.typeText ++ " " ++ globalName function.name ++ "(" ++
      ", ".intercalate parameters ++ ")"
  [header, "\x7b"] ++ function.blocks.flatMap Block.lines ++ ["\x7d"]

end Function

/-- The name that every module carries in its text. -/
def moduleName : String := "xlang_module"

/-- The lines of a module; an empty line follows each function. -/
def Module.lines (module : Module) : List String :=
  ["; ModuleID = \"" ++ moduleName ++ "\"", ""] ++
    module.functions.flatMap fun function => function.lines ++ [""]

/-- The text of a module. -/
def Module.text (module : Module) : String := "\n".intercalate module.lines

/-- The first value that stands in place of a function's name and is no text. -/
def Module.misnomer? (module : Module) : Option Scalar := module.functions.findSome? (·.name.value?)

/-- A number as a typed constant. -/
def numberConstant (value : Numeral) : String := (Operand.number value).typedText

/-- A truth value as a typed constant. -/
def booleanConstant (value : Bool) : String := (Operand.boolean value).typedText

/-- The constant that a function returns when control falls off its end; also shown for void, which
returns nothing. -/
def zeroOperand : ExactKind → Operand
  | .bool => .boolean false
  | .num | .void => .number (.ofFloat 0.0)

/-- The types that code may give to values. -/
inductive ValueType
  | double
  | float
  | half
  | integer (width : Nat)
  deriving DecidableEq, Repr

/-- The kind whose values have a type, if there is one. -/
def ValueType.kind? : ValueType → Option ValueKind
  | .double => some .num
  | .integer 1 => some .bool
  | .float | .half | .integer _ => none

/-- What is wrong with a kind that has no type. -/
def noTypeDiagnostic : Diagnostic :=
  ⟨.invalidType, "Kind 'None' has no LLVM representation", none, .unknown⟩

/-- A type as code writes it. -/
def ValueType.text : ValueType → String
  | .double => "double"
  | .float => "float"
  | .half => "half"
  | .integer width => s!"i{width}"

end Code

end LoopLang
