import LoopLang.Source.Location

/-! Diagnostics: what is wrong with a program, where, and what may help. -/

namespace LoopLang

/-- The families of diagnostics. -/
inductive Category
  | general
  | duplicateSymbol
  | unknownSymbol
  | invalidType
  | voidValue
  | unsupportedOperator
  | malformedNode
  | kindMismatch
  | parseError
  deriving DecidableEq, Repr

namespace Category

/-- The name of a family as reports print it. -/
def name : Category → String
  | .general => "CompilerException"
  | .duplicateSymbol => "DuplicateSymbol"
  | .unknownSymbol => "UnknownSymbol"
  | .invalidType => "InvalidTypeAnnotation"
  | .voidValue => "VoidValue"
  | .unsupportedOperator => "UnsupportedOperator"
  | .malformedNode => "MalformedNode"
  | .kindMismatch => "KindMismatch"
  | .parseError => "ParseError"

/-- Every family. -/
def all : List Category :=
  [.general, .duplicateSymbol, .unknownSymbol, .invalidType, .voidValue,
    .unsupportedOperator, .malformedNode, .kindMismatch, .parseError]

/-- The family with the given name. -/
def ofName? (name : String) : Option Category := all.find? (·.name = name)

end Category

/-- A diagnostic in words, at a place that may be unknown. -/
structure Diagnostic where
  category : Category
  message : String
  hint : Option String
  place : Location
  deriving DecidableEq, Repr

/-- The message of a diagnostic with its place, if it is known. -/
def Diagnostic.display (diagnostic : Diagnostic) : String :=
  if diagnostic.place.isKnown then
    s!"{diagnostic.message} (line {diagnostic.place.line}, column {diagnostic.place.column})"
  else diagnostic.message

/-- The hint that proposes another name. -/
def didYouMean (name : String) : String := s!"Did you mean '{name}'?"

end LoopLang
