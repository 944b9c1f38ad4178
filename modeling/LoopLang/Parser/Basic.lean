import LoopLang.Diagnostic.Basic
import LoopLang.Diagnostic.Suggestion
import LoopLang.Parser.Step
import LoopLang.Source.Lines
import LoopLang.Token.Scan

/-! Parsing: a text as a program, or the first error in it. -/

namespace LoopLang

/-- Why a text is no program. -/
inductive ParseCause
  | illegalCharacter (char : Char)
  | unexpectedEnd
  /-- The word before the refused token looks like a keyword. -/
  | misspelledKeyword (word keyword : String)
  | unexpectedToken (lexeme : Lexeme) (expected : List TokenKind)
  | wrongType (error : AnnotationError)
  deriving DecidableEq, Repr

/-- A parse error at its place. -/
structure ParseError where
  cause : ParseCause
  place : Location
  deriving DecidableEq, Repr

namespace ParseCause

/-- The family of a parse error. -/
def category : ParseCause → Category
  | .wrongType _ => .invalidType
  | _ => .parseError

/-- What is wrong. -/
def message : ParseCause → String
  | .illegalCharacter char => s!"Illegal character '{char}'"
  | .unexpectedEnd => "Unexpected end of file"
  | .misspelledKeyword word _ => s!"Unexpected identifier '{word}'"
  | .unexpectedToken lexeme _ => s!"Unexpected token '{lexeme.display}'"
  | .wrongType error => error.message

/-- The hint about what was expected names five kinds of tokens at most. -/
def expectedHint (expected : List TokenKind) : Option String :=
  if expected.isEmpty then none
  else some ("Expected one of: " ++ ", ".intercalate ((expected.take 5).map TokenKind.description))

/-- What may help. A keyword where a statement could have ended points to a missing semicolon. -/
def hint : ParseCause → Option String
  | .illegalCharacter _ => none
  | .unexpectedEnd => some "Check for missing closing delimiters '\x7d' or ')'."
  | .misspelledKeyword word keyword =>
    some s!"The previous word '{word}' looks like a typo. Did you mean '\x1b[1m{keyword}\x1b[0m'?"
  | .unexpectedToken lexeme expected =>
    if lexeme.isKeyword && expected.contains (.mark .semicolon) then
      some "Check the previous line. You might be missing a semicolon ';'."
    else expectedHint expected
  | .wrongType error => some error.hint

end ParseCause

/-- A parse error in words. -/
def ParseError.diagnostic (error : ParseError) : Diagnostic :=
  ⟨error.cause.category, error.cause.message, error.cause.hint, error.place⟩

namespace Parser

/-- The keyword that the identifier before a refused token was probably meant to be. -/
def misspelled? : Option Token → Option (String × String)
  | some ⟨.identifier word, _, _⟩ => (suggest word Keyword.words).map (word, ·)
  | _ => none

/-- The error for a refused token, given the token before it. -/
def unexpected (previous : Option Token) (token : Token) (expected : List TokenKind) : ParseError :=
  match previous, misspelled? previous with
  | some word, some (name, keyword) => ⟨.misspelledKeyword name keyword, word.place⟩
  | _, _ => ⟨.unexpectedToken token.lexeme expected, token.place⟩

/-- The program at the end of a text, or the error that is found there. -/
def complete (state : State) : ScanEnd → Except ParseError Program
  | .illegal char place => .error ⟨.illegalCharacter char, place⟩
  | .complete =>
    match finish state with
    | .ok (some program) => .ok program
    | .error (.wrongType error place) => .error ⟨.wrongType error, place⟩
    | .ok none | .error (.expected _) => .error ⟨.unexpectedEnd, .unknown⟩

/-- Reads tokens one by one; nothing behind the first refused token is looked at. -/
def run (previous : Option Token) (state : State) (ending : ScanEnd) :
    List Token → Except ParseError Program
  | [] => complete state ending
  | token :: rest =>
    match step state token with
    | .ok next => run (some token) next ending rest
    | .error (.expected kinds) => .error (unexpected previous token kinds)
    | .error (.wrongType error place) => .error ⟨.wrongType error, place⟩

end Parser

/-- The program of a scanned text. -/
def Scan.parse (scan : Scan) : Except ParseError Program :=
  Parser.run none .start scan.ending scan.tokens

/-- The program that a text writes. -/
def Program.parse (text : String) : Except ParseError Program := (scan text).parse

/-- The program in the contents of a file, whose line ends count alike. -/
def Program.parseFile (contents : String) : Except ParseError Program :=
  Program.parse (String.ofList (unifyLineEnds contents.toList))

end LoopLang
