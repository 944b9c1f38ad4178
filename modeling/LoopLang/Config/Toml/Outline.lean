import LoopLang.Config.Toml.Basic
import LoopLang.Source.Alphanumeric

/-!
The outline of a settings file: one pass from left to right that blanks comments, joins the lines of
lists, and refuses keys and quotes that are left open.
-/

namespace LoopLang.Toml

/-- Where a key stands that is being read. -/
inductive KeyPhase
  | none
  | inside
  /-- Behind a word or a quoted part of the key. -/
  | behind
  deriving DecidableEq, Repr

/-- The brackets of a header that is open. -/
inductive Header
  | none
  | single
  | double
  deriving DecidableEq, Repr

/-- A file as far as it is read. -/
structure Outline where
  chars : Array Char
  key : KeyPhase
  isDotted : Bool
  /-- The quote that is open. -/
  quote : Option Char
  /-- Whether a text of several lines is open. -/
  isBlock : Bool
  header : Header
  /-- How many lists are open. -/
  depth : Int
  /-- Whether nothing but blanks has been read of the line. -/
  atStart : Bool

/-- The character some places in front of an index; a file counts as closed to a circle. -/
def before (chars : Array Char) (index count : Nat) : Option Char :=
  if count ≤ index then chars[index - count]?
  else if count ≤ index + chars.size then chars[index + chars.size - count]?
  else none

/-- Whether an odd number of backslashes stands in front of an index, from `count` places in front
of it on. -/
def isEscaped (chars : Array Char) (index : Nat) : (steps count : Nat) → Bool
  | 0, _ => false
  | steps + 1, count =>
    if before chars index count = some '\\' then !isEscaped chars index steps (count + 1) else false

/-- Blanks a line from an index on. -/
def blankFrom (index : Nat) : (steps : Nat) → Array Char → Array Char
  | 0, chars => chars
  | steps + 1, chars =>
    match chars[index]? with
    | none | some '\n' => chars
    | some _ => blankFrom (index + 1) steps (chars.setIfInBounds index ' ')

namespace Outline

/-- Nothing has been read of a file. -/
def start (text : List Char) : Outline := ⟨text.toArray, .none, false, none, false, .none, 0, true⟩

/-- Goes on with a key behind a point or a blank, if its next part starts right there. -/
def resumeKey (outline : Outline) (index : Nat) : Except Failure Outline :=
  match outline.chars[index + 1]? with
  | none => .error .outOfRange
  | some next =>
    .ok (if isBlank next || next = '.' then outline else { outline with key := .inside })

/-- A character within a key that continues none of its parts: only the equals sign may stand
there. -/
def endKey (outline : Outline) (char : Char) : Except Failure Outline :=
  if char = '=' then .ok { outline with key := .none, isDotted := false } else .error .malformed

/-- Reads a character of a key outside of quotes. -/
def readPlainKey (outline : Outline) (index : Nat) (char : Char) : Except Failure Outline :=
  match outline.key with
  | .none => .ok outline
  | .inside =>
    if isBlank char then .ok { outline with key := .behind }
    else if char = '.' then .ok { outline with isDotted := true }
    else if isAlphanumeric char || char = '_' || char = '-' then .ok outline
    -- Behind a dot a part of the key may be quoted.
    else if outline.isDotted && before outline.chars index 1 = some '.' && isQuote char then
      .ok { outline with quote := some char }
    else outline.endKey char
  | .behind =>
    if isBlank char then if outline.isDotted then outline.resumeKey index else .ok outline
    else if char = '.' then { outline with isDotted := true }.resumeKey index
    else outline.endKey char

/-- Reads a character of a key. -/
def readKey (outline : Outline) (index : Nat) (char : Char) : Except Failure Outline :=
  if char = '\n' then .error .malformed
  else
    match outline.quote with
    | none => outline.readPlainKey index char
    | some quote =>
      if char = quote && !isEscaped outline.chars index (outline.chars.size + 1) 1 then
        .ok { outline with key := .behind, quote := none }
      else .ok outline

/-- A quote opens or closes a text; the third one in a row opens or closes a text of several
lines. -/
def toggleQuote (outline : Outline) (isThird : Bool) (quote : Char) : Outline :=
  let isBlock := if isThird then !outline.isBlock else outline.isBlock
  let opens := if isThird then isBlock else outline.quote.isNone
  { outline with isBlock, quote := if opens then some quote else none }

/-- Reads a quote outside of keys, unless it stands within quotes of the other kind. -/
def readQuote (outline : Outline) (index : Nat) (char : Char) : Outline :=
  let isOther := outline.quote.any (· ≠ char)
  let isSecond := before outline.chars index 1 = some char
  let isThird := isSecond && before outline.chars index 2 = some char
  let escaped := isEscaped outline.chars index (outline.chars.size + 1)
  -- Backslashes count in front of one or three double quotes, but not of two.
  let isEscapedHere :=
    char = '"' && (if isThird then escaped 3 else if isSecond then false else escaped 1)
  if isOther || isEscapedHere then outline else outline.toggleQuote isThird char

/-- Reads an opening bracket, of a header at the start of a line and of a list elsewhere. -/
def openBracket (outline : Outline) (index : Nat) : Outline :=
  if outline.quote.isSome || outline.header ≠ .none then outline
  else if outline.atStart then
    { outline with header := if outline.chars[index + 1]? = some '[' then .double else .single }
  else { outline with depth := outline.depth + 1 }

/-- Reads a closing bracket. -/
def closeBracket (outline : Outline) (index : Nat) : Outline :=
  if outline.quote.isSome then outline
  else
    match outline.header with
    | .single => { outline with header := .none }
    | .double =>
      if before outline.chars index 1 = some ']' then { outline with header := .none } else outline
    | .none => { outline with depth := outline.depth - 1 }

/-- The end of a line within a text of several lines; right behind two quotes it is taken for the
third one. -/
def endBlockLine (outline : Outline) (index : Nat) : Outline :=
  match before outline.chars index 1, before outline.chars index 2 with
  | some quote, some other =>
    if isQuote quote && quote = other then
      let chars := outline.chars.setIfInBounds index quote
      let isThird := 3 ≤ index && before chars index 3 = some quote
      { outline with chars := if isThird then chars.setIfInBounds (index - 3) ' ' else chars }
    else outline
  | _, _ => outline

/-- Reads the end of a line. -/
def endLine (outline : Outline) (index : Nat) : Except Failure Outline :=
  if outline.isBlock then .ok (outline.endBlockLine index)
  else if outline.quote.isSome then .error .malformed
  else if outline.depth ≠ 0 then .ok { outline with chars := outline.chars.setIfInBounds index ' ' }
  else .ok { outline with atStart := true }

/-- The first character of a line other than blanks starts a key, unless it opens a header. -/
def startLine (outline : Outline) (char : Char) : Except Failure Outline :=
  if !outline.atStart || char = ' ' || char = '\t' then .ok outline
  else if outline.header ≠ .none then .ok { outline with atStart := false }
  else if char = '=' then .error .malformed
  else .ok { outline with atStart := false, key := .inside }

/-- Reads a character outside of keys. -/
def readText (outline : Outline) (index : Nat) (char : Char) : Except Failure Outline :=
  if char = '\n' then outline.endLine index
  else if isQuote char then (outline.readQuote index char).startLine char
  else if char = '#' && outline.quote.isNone && outline.header = .none then
    .ok { outline with chars := blankFrom index outline.chars.size outline.chars }
  else if char = '[' then (outline.openBracket index).startLine char
  else if char = ']' then (outline.closeBracket index).startLine char
  else outline.startLine char

/-- Reads the character at an index. -/
def step (outline : Outline) (index : Nat) : Except Failure Outline :=
  match outline.chars[index]? with
  | none => .ok outline
  | some char =>
    if outline.key = .none then outline.readText index char else outline.readKey index char

end Outline

/-- The text of a file without comments, in which every assignment has a line of its own. -/
def outlineOf (text : List Char) : Except Failure (List Char) := do
  let outline ← (List.range text.length).foldlM Outline.step (.start text)
  if outline.key ≠ .none || outline.quote.isSome then throw .malformed
  return outline.chars.toList

end LoopLang.Toml
