/-! Line ends: one line feed for each on reading a file, and every kind of line end in excerpts. -/

namespace LoopLang

/-- Every way of ending a line becomes one line feed, as a file is read. -/
def unifyLineEnds : List Char → List Char
  | [] => []
  | '\r' :: '\n' :: rest => '\n' :: unifyLineEnds rest
  | char :: rest => (if char = '\r' then '\n' else char) :: unifyLineEnds rest

/-- The characters that end a line of an excerpt; a carriage return with its line feed counts
once. -/
def isLineEnd (char : Char) : Bool :=
  [0x0A, 0x0B, 0x0C, 0x0D, 0x1C, 0x1D, 0x1E, 0x85, 0x2028, 0x2029].contains char.toNat

/-- Splits a text at its line ends, where `current` is the line so far; no empty line follows the
last end. -/
def splitLinesFrom (current : List Char) : List Char → List (List Char)
  | [] => if current.isEmpty then [] else [current]
  | '\r' :: '\n' :: rest => current :: splitLinesFrom [] rest
  | char :: rest =>
    if isLineEnd char then current :: splitLinesFrom [] rest
    else splitLinesFrom (current ++ [char]) rest

/-- The lines of a text without their ends. -/
def splitLines (text : String) : List String :=
  (splitLinesFrom [] text.toList).map String.ofList

end LoopLang
