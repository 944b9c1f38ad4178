import LoopLang.Code.Machine
import LoopLang.Session.Basic

/-! Running a function of a session. -/

namespace LoopLang

/-- Why a function cannot be run. -/
inductive RunError
  | nothingToRun
  | noSuchFunction (name : String) (suggestion : Option String)
  /-- Names are compared with what stands in place of a function's name, which has no length. -/
  | nameWithoutLength (sort : String)
  | argumentCount (name : String) (expected found : Nat)
  /-- An argument is an integer beyond all numbers. -/
  | integerTooLarge
  | defective (defect : Code.Defect)
  /-- Addresses are looked up by plain names only. -/
  | nameNotPlain (name : String)
  | stuck
  | outOfSteps
  deriving DecidableEq, Repr

namespace RunError

/-- The diagnostic of an error that is one; it has no place in a text. -/
def diagnostic? : RunError → Option Diagnostic
  | nothingToRun => some ⟨.general, "Nothing to run: compile a program first.", none, .unknown⟩
  | noSuchFunction name suggestion =>
    some ⟨.unknownSymbol, s!"No function named '{name}' to run",
      suggestion.map didYouMean, .unknown⟩
  | argumentCount name expected found =>
    some ⟨.kindMismatch, s!"Function '{name}' expects {expected} argument(s), got {found}",
      none, .unknown⟩
  | nameWithoutLength _ | integerTooLarge | defective _ | nameNotPlain _ | stuck
  | outOfSteps => none

end RunError

/-- What is wrong with a name that cannot be written. -/
def misnamedMessage (sort : String) : String := s!"argument of type '{sort}' is not iterable"

/-- Whether a character is in the plain alphabet. -/
def isPlainChar (char : Char) : Bool := char.toNat < 0x80

/-- What is wrong with a name that is not plain: where the first characters outside the alphabet
stand. -/
def notPlainMessage (name : String) : String :=
  let chars := name.toList
  let first := (chars.takeWhile isPlainChar).length
  let others := (chars.drop first).takeWhile (!isPlainChar ·)
  let found :=
    -- A single letter is shown by its code, several by their positions.
    match others with
    | [char] =>
      let code := char.toNat
      let shown :=
        if code < 0x100 then 'x' :: hexDigits 2 code
        else if code < 0x10000 then 'u' :: hexDigits 4 code
        else 'U' :: hexDigits 8 code
      "character '\\" ++ String.ofList shown ++ "' in position " ++ toString first
    | _ => s!"characters in position {first}-{first + others.length - 1}"
  "'ascii' codec can't encode " ++ found ++ ": ordinal not in range(128)"

/-- What is wrong, where there are words for it and it is no diagnostic. -/
def RunError.message? : RunError → Option String
  | .nameWithoutLength sort => some (lengthMessage sort)
  | .integerTooLarge => some integerTooLargeMessage
  | .defective (.misnamed sort) => some (misnamedMessage sort)
  | .nameNotPlain name => some (notPlainMessage name)
  | .nothingToRun | .noSuchFunction .. | .argumentCount .. | .defective _ | .stuck
  | .outOfSteps => none

namespace Session

/-- The function with a name that is a text. -/
def functionNamed (session : Session) (name : String) : Except RunError Code.Function :=
  match session.builder.code.function? (.text name) with
  | some function => .ok function
  | none =>
    match session.builder.code.misnomer? with
    | some value => .error (.nameWithoutLength (Document.ofScalar value).sortName)
    | none => .error (.noSuchFunction name (suggest name session.builder.code.functionNames))

/-- The function to run: the one with the given name, or that of the last program. -/
def functionToRun (session : Session) (name : Option String) : Except RunError Code.Function :=
  match name, session.entry.bind session.builder.code.function? with
  | some name, _ => session.functionNamed name
  | none, some function => .ok function
  | none, none => .error .nothingToRun

/-- Runs a function for at most the given number of steps. -/
def run (session : Session) (steps : Nat) (name : Option String) (arguments : List Argument) :
    Except RunError (Option Value) := do
  let function ← session.functionToRun name
  if arguments.length ≠ function.parameters.length then
    throw (.argumentCount function.name.display function.parameters.length arguments.length)
  -- The whole code is checked, not just the function that is run.
  session.builder.code.verify.mapError .defective
  if !function.name.display.toList.all isPlainChar then throw (.nameNotPlain function.name.display)
  let some values := (function.parameters.map Prod.snd).zip arguments |>.mapM
    fun (kind, argument) =>
        argument.convert? kind
      | throw .integerTooLarge
  match session.builder.code.run steps function.name values with
  | .finished result => return result
  | .stuck => throw .stuck
  | .outOfSteps => throw .outOfSteps

end Session

end LoopLang
