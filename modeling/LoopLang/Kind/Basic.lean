/-! Kinds: what values are, what annotations say, and what is still to be inferred. -/

namespace LoopLang

/-- The kinds of values that can be stored. -/
inductive ValueKind
  | num
  | bool
  deriving DecidableEq, Repr, Inhabited

/-- The kinds that an expression or function can have; `void` has no values. -/
inductive ExactKind
  | num
  | bool
  | void
  deriving DecidableEq, Repr, Inhabited

/-- The kind that a place of the program carries: a definite one, one to be inferred, or none at
all. -/
inductive Kind
  | exact (kind : ExactKind)
  | infer
  | none
  deriving DecidableEq, Repr, Inhabited

/-- A value kind among all exact kinds. -/
def ValueKind.exact : ValueKind → ExactKind
  | .num => .num
  | .bool => .bool

namespace ExactKind

/-- The word for a kind in programs and messages. -/
def word : ExactKind → String
  | .num => "num"
  | .bool => "bool"
  | .void => "void"

/-- Every exact kind. -/
def all : List ExactKind := [.num, .bool, .void]

/-- The kind that a word names. -/
def ofWord? (word : String) : Option ExactKind := all.find? (·.word = word)

/-- The kind of the values of an exact kind, if it has any. -/
def value? : ExactKind → Option ValueKind
  | .num => some .num
  | .bool => some .bool
  | .void => Option.none

end ExactKind

/-- The word for a value kind. -/
def ValueKind.word (kind : ValueKind) : String := kind.exact.word

namespace Kind

/-- The word for a kind in messages and dumps. -/
def word : Kind → String
  | .exact kind => kind.word
  | .infer => "infer"
  | .none => "none"

/-- The name of the sort of values that a kind belongs to, as messages give it. -/
def typeName : Kind → String
  | .exact _ => "ExactKind"
  | .infer => "InferKind"
  | .none => "NoneKind"

/-- The exact kind, unless it is still to be inferred or missing. -/
def definite? : Kind → Option ExactKind
  | .exact kind => some kind
  | .infer | .none => Option.none

/-- Whether the kind is definite. -/
def isExact (kind : Kind) : Bool := kind.definite?.isSome

end Kind

end LoopLang
