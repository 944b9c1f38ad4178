import LoopLang.Number.Text
import LoopLang.Source.Location

/-! Tokens: the words, numbers and marks of a program, with the places where they stand. -/

namespace LoopLang

/-- The reserved words. -/
inductive Keyword
  | function
  | var
  | return
  | true
  | false
  | if
  | else
  | loop
  | break
  | continue
  deriving DecidableEq, Repr

/-- The marks of one or two characters. -/
inductive Mark
  | equal
  | plus
  | minus
  | star
  | slash
  | leftParen
  | rightParen
  | leftBrace
  | rightBrace
  | comma
  | semicolon
  | colon
  | arrow
  deriving DecidableEq, Repr

/-- What a token says: its kind with the name or number it carries. -/
inductive Lexeme
  | identifier (name : String)
  | number (value : Float)
  | mark (mark : Mark)
  | keyword (keyword : Keyword)
  deriving DecidableEq, Repr

/-- The kind of a token, without the name or number. -/
inductive TokenKind
  | identifier
  | number
  | mark (mark : Mark)
  | keyword (keyword : Keyword)
  deriving DecidableEq, Repr

/-- A token with its offset in the text and its place. -/
structure Token where
  lexeme : Lexeme
  position : Nat
  place : Location
  deriving DecidableEq, Repr

namespace Keyword

/-- The spelling of a reserved word. -/
def word : Keyword → String
  | .function => "fn"
  | .var => "var"
  | .return => "return"
  | .true => "true"
  | .false => "false"
  | .if => "if"
  | .else => "else"
  | .loop => "loop"
  | .break => "break"
  | .continue => "continue"

/-- Every reserved word. -/
def all : List Keyword :=
  [.function, .var, .return, .true, .false, .if, .else, .loop, .break, .continue]

/-- The spellings of the reserved words. -/
def words : List String := all.map word

/-- The reserved word with the given spelling. -/
def ofWord? (word : String) : Option Keyword := all.find? (·.word = word)

end Keyword

namespace Mark

/-- The spelling of a mark. -/
def text : Mark → String
  | .equal => "="
  | .plus => "+"
  | .minus => "-"
  | .star => "*"
  | .slash => "/"
  | .leftParen => "("
  | .rightParen => ")"
  | .leftBrace => "\x7b"
  | .rightBrace => "\x7d"
  | .comma => ","
  | .semicolon => ";"
  | .colon => ":"
  | .arrow => "->"

/-- The mark that a single character spells. -/
def ofChar? : Char → Option Mark
  | '=' => some .equal
  | '+' => some .plus
  | '-' => some .minus
  | '*' => some .star
  | '/' => some .slash
  | '(' => some .leftParen
  | ')' => some .rightParen
  | '{' => some .leftBrace
  | '}' => some .rightBrace
  | ',' => some .comma
  | ';' => some .semicolon
  | ':' => some .colon
  -- The arrow has two letters and is no mark of one.
  | _ => none

end Mark

namespace Lexeme

/-- The kind of a lexeme. -/
def kind : Lexeme → TokenKind
  | .identifier _ => .identifier
  | .number _ => .number
  | .mark sign => .mark sign
  | .keyword word => .keyword word

/-- The lexeme as messages quote it; a number shows its value and not its spelling. -/
def display : Lexeme → String
  | .identifier name => name
  | .number value => displayNumber value
  | .mark sign => sign.text
  | .keyword reserved => reserved.word

/-- Whether the lexeme is a reserved word. -/
def isKeyword : Lexeme → Bool
  | .keyword _ => true
  | _ => false

end Lexeme

namespace TokenKind

/-- A kind of token as a hint names it. -/
def description : TokenKind → String
  | .identifier => "identifier"
  | .number => "number"
  | .mark sign => s!"'{sign.text}'"
  | .keyword reserved => s!"'{reserved.word}'"

end TokenKind

/-- The kind of a token. -/
def Token.kind (token : Token) : TokenKind := token.lexeme.kind

end LoopLang
