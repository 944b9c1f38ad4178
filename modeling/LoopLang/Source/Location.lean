/-! Places in a text: lines and columns, both counted from one in code points. -/

namespace LoopLang

/-- A place in a text; line zero means that the place is not known. -/
structure Location where
  line : Int
  column : Int
  deriving DecidableEq, Repr, Inhabited

namespace Location

/-- The place of something that stands in no text. -/
def unknown : Location := ⟨0, 0⟩

/-- The place of the first character of every text. -/
def start : Location := ⟨1, 1⟩

/-- A place is known when it names a line. -/
def isKnown (place : Location) : Bool := place.line != 0

/-- The place just behind a character that stands at the given place: only a line feed ends a
line. -/
def next (place : Location) (char : Char) : Location :=
  if char = '\n' then ⟨place.line + 1, 1⟩ else ⟨place.line, place.column + 1⟩

/-- The place just behind a text that starts at the given place. -/
def after (place : Location) (text : List Char) : Location :=
  text.foldl next place

end Location

/-- The number of characters up to and including the last line feed of a text. -/
def lastLineStart (text : List Char) : Nat :=
  text.length - (text.reverse.takeWhile (· ≠ '\n')).length

/--
The column of a position, counted from the last line feed before it.
A negative position is looked up from the end of the text, yet measured as it stands.
-/
def columnAt (text : List Char) (position : Int) : Int :=
  let limit := if position < 0 then (text.length + position).toNat else position.toNat
  position - lastLineStart (text.take limit) + 1

end LoopLang
