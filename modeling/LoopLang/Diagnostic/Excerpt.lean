import LoopLang.Diagnostic.Basic
import LoopLang.Source.Lines

/-! Diagnostics rendered against the text that they are about. -/

namespace LoopLang

/-- The control sequences that colour a rendering; a plain one has none. -/
structure Palette where
  reset : String
  bold : String
  red : String
  blue : String
  cyan : String

namespace Palette

/-- The colours of a terminal. -/
def terminal : Palette :=
  ⟨"\x1b[0m", "\x1b[1m", "\x1b[38;5;196m", "\x1b[38;5;39m", "\x1b[38;5;51m"⟩

/-- No colours. -/
def plain : Palette := ⟨"", "", "", "", ""⟩

end Palette

/-- The mark in front of a debug line, which is always coloured. -/
def debugMark : String := "\x1b[38;5;240m[DEBUG]\x1b[0m "

/-- The word in front of an error that is no diagnostic, which is always coloured. -/
def errorMark : String := "\x1b[38;5;196mError:\x1b[0m "

/-- The line of a text with the given number, empty when there is none. -/
def lineOf (text : String) (line : Int) : String :=
  if line < 1 then "" else (splitLines text).getD (line - 1).toNat ""

/-- A run of blanks. -/
def blanks (count : Nat) : String := String.ofList (List.replicate count ' ')

namespace Diagnostic

/-- The line that proposes help, if there is something to propose. -/
def helpLines (diagnostic : Diagnostic) (palette : Palette) : List String :=
  match diagnostic.hint with
  | none | some "" => []
  | some hint => [palette.cyan ++ "   = help:" ++ palette.reset ++ " " ++ hint]

/-- The lines that show the place of a diagnostic in its text, with a caret below the column. -/
def excerptLines (diagnostic : Diagnostic) (source fileName : String) (palette : Palette) :
    List String :=
  let arrow := palette.blue ++ "   -->" ++ palette.reset ++ " " ++ fileName
  if diagnostic.place.isKnown then
    -- A column before the first one is drawn as the first one.
    let column := max 1 diagnostic.place.column
    let line := toString diagnostic.place.line
    let margin := blanks line.length
    let content := (lineOf source diagnostic.place.line).map fun char => if char = '\t'
      then ' ' else char
    [s!"{arrow}:{line}:{column}",
      palette.blue ++ " " ++ margin ++ " |" ++ palette.reset,
      palette.blue ++ " " ++ line ++ " |" ++ palette.reset ++ " " ++ content,
      palette.blue ++ " " ++ margin ++ " |" ++ palette.reset ++ " " ++ blanks (column - 1).toNat ++
        palette.red ++ palette.bold ++ "^ here" ++ palette.reset]
  else [arrow]

/-- Renders a diagnostic: its message, the excerpt, and the hint. -/
def render (diagnostic : Diagnostic) (source fileName : String) (palette : Palette) : String :=
  let title := palette.red ++ palette.bold ++ "error[" ++ diagnostic.category.name ++ "]:" ++
    palette.reset ++ " " ++ diagnostic.message
  "\n".intercalate
    (title :: diagnostic.excerptLines source fileName palette ++ diagnostic.helpLines palette)

/-- The report of a failed build, which ends with a line feed. -/
def report (diagnostic : Diagnostic) (source fileName : String) (palette : Palette) : String :=
  "\n" ++ diagnostic.render source fileName palette ++ "\n\n" ++
    palette.red ++ palette.bold ++ "Build failed." ++ palette.reset ++ " 1 error(s) found.\n"

end Diagnostic

end LoopLang
