import LoopLang.Number.Text
import LoopLang.Source.Quoted

/-! Documents of nested values, and their written form. -/

namespace LoopLang

/-- A truth value on one line, as it stands within messages. -/
def displayBoolean (value : Bool) : String := if value then "True" else "False"

/-- A day of the calendar. -/
structure Day where
  year : Nat
  month : Nat
  day : Nat
  deriving DecidableEq, Repr

/-- A time of day, to the second. -/
structure Clock where
  hour : Nat
  minute : Nat
  second : Nat
  deriving DecidableEq, Repr

/-- A day, a time of day, or both. Only settings can give one. -/
inductive Moment
  | date (day : Day)
  | time (clock : Clock)
  | dateTime (day : Day) (clock : Clock)
  deriving DecidableEq, Repr

/-- A number with zeros in front, up to a width. -/
def padNumber (width value : Nat) : String := padLeft width '0' (toString value)

/-- A day on one line. -/
def Day.display (day : Day) : String :=
  padNumber 4 day.year ++ "-" ++ padNumber 2 day.month ++ "-" ++ padNumber 2 day.day

/-- A time of day on one line. -/
def Clock.display (clock : Clock) : String :=
  padNumber 2 clock.hour ++ ":" ++ padNumber 2 clock.minute ++ ":" ++ padNumber 2 clock.second

/-- A moment on one line, as it stands within messages. -/
def Moment.display : Moment → String
  | date day => day.display
  | time clock => clock.display
  | dateTime day clock => day.display ++ " " ++ clock.display

/-- The name of a sort of moments, as messages give it. -/
def Moment.sortName : Moment → String
  | date _ => "datetime.date"
  | time _ => "datetime.time"
  | dateTime .. => "datetime.datetime"

/-- Plain values that are no texts. -/
inductive Scalar
  | null
  | boolean (value : Bool)
  | integer (value : Int)
  | number (value : Float)
  | moment (value : Moment)
  deriving DecidableEq, Repr

/-- A plain value on one line, as it stands within messages. -/
def Scalar.display : Scalar → String
  | .null => "None"
  | .boolean value => displayBoolean value
  | .integer value => toString value
  | .number value => displayNumber value
  | .moment value => value.display

/-- A document of plain values, lists, and objects with named members in order. -/
inductive Document
  | null
  | boolean (value : Bool)
  | integer (value : Int)
  | number (value : Float)
  | moment (value : Moment)
  | text (value : String)
  | list (items : List Document)
  | object (members : List (String × Document))
  deriving Repr, Inhabited

namespace Document

/-- The name of a sort of values, as messages give it. -/
def sortName : Document → String
  | null => "NoneType"
  | boolean _ => "bool"
  | integer _ => "int"
  | number _ => "float"
  | moment value => value.sortName
  | text _ => "str"
  | list _ => "list"
  | object _ => "dict"

/-- The document of a plain value. -/
def ofScalar : Scalar → Document
  | .null => null
  | .boolean value => boolean value
  | .integer value => integer value
  | .number value => number value
  | .moment value => moment value

/-- Whether a value counts as given: nothing, false, zero, and what is empty do not. -/
def isGiven : Document → Bool
  | null => false
  | boolean value => value
  | integer value => value != 0
  | number value => value != 0.0
  | moment _ => true
  | text value => value != ""
  | list items => !items.isEmpty
  | object members => !members.isEmpty

/-- A character inside a written text: only printable characters of the basic alphabet stand as they
are. -/
def escapeChar (char : Char) : List Char :=
  let code := char.toNat
  let unit := fun value => '\\' :: 'u' :: hexDigits 4 value
  if char = '"' || char = '\\' then ['\\', char]
  else if char = '\n' then ['\\', 'n']
  else if char = '\r' then ['\\', 'r']
  else if char = '\t' then ['\\', 't']
  else if code = 0x08 then ['\\', 'b']
  else if code = 0x0C then ['\\', 'f']
  else if 0x20 ≤ code && code ≤ 0x7E then [char]
  else if code < 0x10000 then unit code
  else
    -- Beyond the first plane a character takes a pair of units.
    unit (0xD800 + (code - 0x10000) / 0x400) ++ unit (0xDC00 + (code - 0x10000) % 0x400)

/-- A written text. -/
def renderText (text : String) : String :=
  String.ofList (['"'] ++ text.toList.flatMap escapeChar ++ ['"'])

/-- The start of a line at the given depth. -/
def lineStart (depth : Nat) : String := "\n" ++ String.ofList (List.replicate (2 * depth) ' ')

mutual

/-- Writes a document whose lines are indented by two blanks for each level. -/
def renderAt (depth : Nat) : Document → String
  | null => "null"
  | boolean value => if value then "true" else "false"
  | integer value => toString value
  | number value => NumberFormat.document.render value
  | moment value => renderText value.display
  | text value => renderText value
  -- Without entries there are no line breaks between the brackets.
  | list [] => "[]"
  -- Entries stand one step further in, the closing bracket does not.
  | list (first :: rest) =>
    "[" ++ lineStart (depth + 1) ++ renderAt (depth + 1) first ++ renderItems depth rest ++
      lineStart depth ++ "]"
  | object [] => "\x7b\x7d"
  | object ((name, first) :: rest) =>
    "\x7b" ++ lineStart (depth + 1) ++ renderText name ++ ": " ++ renderAt (depth + 1) first ++
      renderMembers depth rest ++ lineStart depth ++ "\x7d"

/-- The items of a list after the first one. -/
def renderItems (depth : Nat) : List Document → String
  | [] => ""
  | item :: rest =>
    "," ++ lineStart (depth + 1) ++ renderAt (depth + 1) item ++ renderItems depth rest

/-- The members of an object after the first one. -/
def renderMembers (depth : Nat) : List (String × Document) → String
  | [] => ""
  | (name, member) :: rest =>
    "," ++ lineStart (depth + 1) ++ renderText name ++ ": " ++ renderAt (depth + 1) member ++
      renderMembers depth rest

end

/-- Writes a document. -/
def render (document : Document) : String := document.renderAt 0

end Document

end LoopLang
