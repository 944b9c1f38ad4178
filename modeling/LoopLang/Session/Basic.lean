import LoopLang.Config.Settings
import LoopLang.Lowering.Statement
import LoopLang.Number.Text

/-! Sessions: settings, and a module that one program after another is lowered into. -/

namespace LoopLang

/-- Why a session cannot start with its settings. -/
inductive StartError
  | settings (error : MergeError)
  | notDigits (text : String)
  | tooManyDigits (count : Nat)
  | notFinite (isInfinite : Bool)
  | noNumber (found : String)
  | noName (found : String)
  | outOfRange
  deriving DecidableEq, Repr

/-- What is wrong, where there are words for it. -/
def StartError.message? : StartError → Option String
  | .settings error => error.message?
  | .notDigits text => some s!"invalid literal for int() with base 10: {quoted text}"
  | .tooManyDigits count =>
    some (s!"Exceeds the limit ({maxIntegerDigits} digits) for integer string conversion: " ++
      s!"value has {count} digits; use sys.set_int_max_str_digits() to increase the limit")
  | .notFinite true => some "cannot convert float infinity to integer"
  | .notFinite false => some "cannot convert float NaN to integer"
  | .noNumber found =>
    some s!"int() argument must be a string, a bytes-like object or a real number, not '{found}'"
  | .noName found => some s!"unhashable type: '{found}'"
  | .outOfRange => none

/-- The highest level of optimisation. -/
def maxLevel : Nat := 3

/-- The names of the code models. -/
def codeModels : List String := ["default", "jitdefault", "small", "kernel", "medium", "large"]

/-- The level that a number gives when its fraction is cut off, if there is such a level. -/
def levelOfNumber? (value : Float) : Option Nat :=
  if -1.0 < value && value < 4.0 then some value.toUInt8.toNat else none

/-- Checks a level against its range. -/
def checkLevel (value : Option Int) : Except StartError Nat :=
  match value with
  | some level => if 0 ≤ level ∧ level ≤ maxLevel then .ok level.toNat else .error .outOfRange
  | none => .error .outOfRange

/-- The whole number that a setting stands for; none stands for one beyond all levels. -/
def wholeNumber : Document → Except StartError (Option Int)
  -- Empty values count as zero.
  | .null => .ok (some 0)
  | .boolean value => .ok (some (if value then 1 else 0))
  | .integer value => .ok (some value)
  | .number value =>
    if value.isNaN then .error (.notFinite false)
    else if value.isInf then .error (.notFinite true)
    else .ok ((levelOfNumber? value).map Int.ofNat)
  | .text "" => .ok (some 0)
  -- A text has to be a whole number in digits.
  | .text text =>
    match readInteger text with
    | .ok value => .ok (some value)
    | .error .malformed => .error (.notDigits text)
    | .error (.tooManyDigits count) => .error (.tooManyDigits count)
  | .list [] | .object [] => .ok (some 0)
  | value => .error (.noNumber value.sortName)

/-- Checks the name of a code model, which may be left out. -/
def checkModel : Document → Except StartError Unit
  | .text name => if name = "" || codeModels.contains name then .ok () else .error .outOfRange
  | value =>
    if value.isGiven then
      match value with
      | .list _ | .object _ => .error (.noName value.sortName)
      | _ => .error .outOfRange
    else .ok ()

/-- Checks the settings that only matter to the machine: the level is read before the code model is
checked. -/
def Settings.checkMachine (settings : Settings) : Except StartError Unit := do
  let level ← wholeNumber ((settings.get? "build" "opt").getD .null)
  let _ ← checkLevel level
  checkModel ((settings.get? "build" "codemodel").getD .null)

/-- What settings call the function of a program, which should be a text. -/
def Settings.entryName (settings : Settings) : Document :=
  (settings.get? "project" "entry").getD (.text "")

/-- Whether settings ask for debug lines. -/
def Settings.wantsDebug (settings : Settings) : Bool :=
  ((settings.get? "build" "debug").map Document.isGiven).getD false

/-- A session: its settings, the builder, and the function of the program that was lowered last. -/
structure Session where
  settings : Settings
  showsDebug : Bool
  builder : Builder
  entry : Option Code.Name

namespace Session

/-- Starts a session with settings that override the defaults. -/
def start (overrides : Document) (debug : Bool) : Except StartError Session := do
  let settings ← (Settings.default.override overrides).mapError .settings
  settings.checkMachine
  return ⟨settings, debug || settings.wantsDebug, .empty, none⟩

/-- Lets a computation build on in a session. -/
def perform {α : Type} (session : Session) (action : Lowering α) : Except Failure α × Session :=
  let (result, builder) := action.run.run session.builder
  (result, { session with builder })

/-- Lowers a program; if that fails, the function of the last program stays what it was. -/
def compile (session : Session) (program : Tree) : Except Failure Code.Name × Session :=
  let (result, session) := session.perform (program.lowerProgram session.settings.entryName)
  match result with
  | .ok entry => (.ok entry, { session with entry := some entry })
  | .error failure => (.error failure, session)

/-- The debug lines that are shown. -/
def debugLines (session : Session) : List String :=
  if session.showsDebug then session.builder.scopes.log else []

/-- Forgets the debug lines so far. -/
def clearDebug (session : Session) : Session :=
  { session with builder :=
    { session.builder with scopes := { session.builder.scopes with log := [] } } }

end Session

end LoopLang
