import LoopLang.Token.Basic

/-! Scanning: a text as its tokens, up to the end or the first character that starts no token. -/

namespace LoopLang

/-- Whether a character may start an identifier. -/
def isIdentifierStart (char : Char) : Bool := char.isAlpha || char = '_'

/-- Whether a character may continue an identifier. -/
def isIdentifierPart (char : Char) : Bool := char.isAlphanum || char = '_'

/-- The word that a spelling stands for: a reserved word or an identifier. -/
def Lexeme.ofWord (word : String) : Lexeme :=
  match Keyword.ofWord? word with
  | some reserved => .keyword reserved
  | none => .identifier word

/-- The number that digits before and after a point write. -/
def Lexeme.ofDigits (integer fraction : List Char) : Lexeme :=
  .number (nearestDouble (digitsValue (integer ++ fraction)) (-fraction.length))

/-- What a text starts with, and how many characters after the first one belong to it. -/
inductive Piece
  | skipped (further : Nat)
  | lexeme (lexeme : Lexeme) (further : Nat)
  | illegal

/-- The fraction behind the integer digits of a number: a point counts only with a digit after
it. -/
def fractionDigits : List Char → List Char
  | '.' :: rest => rest.takeWhile isDigit
  | _ => []

/-- The number that starts with the given digit. -/
def numberPiece (first : Char) (rest : List Char) : Piece :=
  let integer := rest.takeWhile isDigit
  let fraction := fractionDigits (rest.dropWhile isDigit)
  let point := if fraction.isEmpty then 0 else 1
  .lexeme (.ofDigits (first :: integer) fraction) (integer.length + point + fraction.length)

/-- The word that starts with the given character. -/
def wordPiece (first : Char) (rest : List Char) : Piece :=
  let tail := rest.takeWhile isIdentifierPart
  .lexeme (.ofWord (String.ofList (first :: tail))) tail.length

/-- The comment that starts with two slashes, the second one leading `rest`: it ends before the line
feed. -/
def commentPiece (rest : List Char) : Piece :=
  .skipped (rest.takeWhile (· ≠ '\n')).length

/-- What the text `first :: rest` starts with. -/
def firstPiece (first : Char) (rest : List Char) : Piece :=
  if [' ', '\t', '\r', '\n'].contains first then .skipped 0
  else if first = '/' && rest.head? = some '/' then commentPiece rest
  else if first = '-' && rest.head? = some '>' then .lexeme (.mark .arrow) 1
  else if isDigit first then numberPiece first rest
  else if isIdentifierStart first then wordPiece first rest
  else
    match Mark.ofChar? first with
    | some mark => .lexeme (.mark mark) 0
    | none => .illegal

/-- How scanning ended: at the end of the text, or at a character that starts no token. -/
inductive ScanEnd
  | complete
  | illegal (char : Char) (place : Location)
  deriving DecidableEq, Repr

/-- The tokens of a text and how scanning it ended. -/
structure Scan where
  tokens : List Token
  ending : ScanEnd
  deriving DecidableEq, Repr

/-- Scans the rest of a text that starts at the given offset and place. -/
def scanFrom (position : Nat) (place : Location) (text : List Char) : Scan :=
  match text with
  | [] => ⟨[], .complete⟩
  | first :: rest =>
    match firstPiece first rest with
    | .illegal => ⟨[], .illegal first place⟩
    -- Every piece has a first letter, so each step leaves less of the text.
    | .skipped further =>
      scanFrom (position + further + 1) (place.after (first :: rest.take further))
        (rest.drop further)
    | .lexeme lexeme further =>
      let scan :=
        scanFrom (position + further + 1) (place.after (first :: rest.take further))
          (rest.drop further)
      ⟨⟨lexeme, position, place⟩ :: scan.tokens, scan.ending⟩
termination_by text.length
decreasing_by all_goals simp only [List.length_drop, List.length_cons]; omega

/-- Scans a text. -/
def scan (text : String) : Scan := scanFrom 0 .start text.toList

end LoopLang
