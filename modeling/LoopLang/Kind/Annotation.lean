import LoopLang.Kind.Basic

/-! Type annotations: the words that name kinds, and where `void` may stand. -/

namespace LoopLang

/-- Why a word is no kind where it stands. -/
inductive AnnotationError
  | voidNotAllowed
  | unknownType (word : String)
  deriving DecidableEq, Repr

namespace AnnotationError

/-- What is wrong with an annotation. -/
def message : AnnotationError → String
  | .voidNotAllowed => "'void' is not allowed here"
  | .unknownType word => s!"Unknown type '{word}'"

/-- What may stand there instead. -/
def hint : AnnotationError → String
  | .voidNotAllowed => "'void' may only be used as a function return type."
  | .unknownType _ => "Valid types are: num, bool, void."

end AnnotationError

/-- The kind of values that a word names, where `void` may not stand. -/
def ValueKind.ofWord (word : String) : Except AnnotationError ValueKind :=
  match ExactKind.ofWord? word with
  | some kind =>
    match kind.value? with
    | some value => .ok value
    | none => .error .voidNotAllowed
  | none => .error (.unknownType word)

/-- The kind that a word names, where `void` may stand. -/
def ExactKind.ofWord (word : String) : Except AnnotationError ExactKind :=
  match ExactKind.ofWord? word with
  | some kind => .ok kind
  | none => .error (.unknownType word)

/-- The kind that a word names, where `void` may or may not stand. -/
def ExactKind.read (word : String) (allowVoid : Bool) : Except AnnotationError ExactKind :=
  if allowVoid then ExactKind.ofWord word else (ValueKind.ofWord word).map ValueKind.exact

end LoopLang
