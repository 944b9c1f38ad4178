import LoopLang.Code.Names
import LoopLang.Kind.Basic

/-! Bindings, and the frames that hold them: one frame for each open block of a program. -/

namespace LoopLang

/-- A basic block by the names of its function and its label. -/
structure BlockRef where
  function : Code.Name
  label : String
  deriving DecidableEq, Repr

/-- A stack slot by its name and the function that owns it. -/
structure Slot where
  function : Code.Name
  name : String
  deriving DecidableEq, Repr

/-- What a name is bound to. -/
inductive Binding
  /-- A variable with the slot of its value; a void variable has none. -/
  | var (kind : ExactKind) (slot : Option Slot)
  /-- A function with its name in the code and its signature. -/
  | fn (handle : Code.Name) (result : Kind) (parameters : List ExactKind)
  deriving DecidableEq, Repr

namespace Binding

/-- A binding as debug lines show it. -/
def display : Binding → String
  | .var kind slot =>
    let stored := (slot.map Slot.name).getD "None"
    s!"VariableBinding({kind.word}, {stored})"
  | .fn handle result _ => s!"FunctionBinding({handle.display}, {result.word})"

/-- Whether a name is bound to a function. -/
def isFunction : Binding → Bool
  | .var .. => false
  | .fn .. => true

/-- The kinds of the parameters of a function. -/
def parameters? : Binding → Option (List ExactKind)
  | .var .. => none
  | .fn _ _ parameters => some parameters

end Binding

/-- What a new frame is for; without a function it belongs to that of the frame around it. -/
structure FrameOptions where
  function : Option Code.Name := none
  isFunction : Bool := false
  result : Option Kind := none
  isLoop : Bool := false
  nextRound : Option BlockRef := none
  loopExit : Option BlockRef := none
  label : Option String := none
  deriving DecidableEq, Repr

/-- One open block: the names declared in it in order, and the basic block that it emits into. -/
structure Frame where
  /-- There is none if the frame has been opened where code is emitted nowhere. -/
  block : Option BlockRef
  symbols : List (String × Binding)
  function : Option Code.Name
  isFunction : Bool
  result : Option Kind
  isLoop : Bool
  /-- Where a loop decides about another round. -/
  nextRound : Option BlockRef
  /-- Where control goes behind a loop. -/
  loopExit : Option BlockRef
  label : Option String
  deriving DecidableEq, Repr

namespace Frame

/-- The binding of a name in this frame. -/
def find? (frame : Frame) (name : String) : Option Binding := frame.symbols.lookup name

/-- Whether a name is declared in this frame. -/
def has (frame : Frame) (name : String) : Bool := (frame.find? name).isSome

/-- The names declared in this frame, in order. -/
def names (frame : Frame) : List String := frame.symbols.map Prod.fst

/-- A new frame within others. -/
def opened (block : Option BlockRef) (options : FrameOptions) (enclosing : Option Frame) :
    Frame where
  block := block
  symbols := []
  function := options.function <|> enclosing.bind (·.function)
  isFunction := options.isFunction
  result := options.result
  isLoop := options.isLoop
  nextRound := options.nextRound
  loopExit := options.loopExit
  label := options.label

/-- Whether a jump may mean a frame: any loop without a label, else the loop of that label. -/
def isTarget (frame : Frame) (label : Option String) : Bool :=
  frame.isLoop && (label.isNone || frame.label == label)

end Frame

end LoopLang
