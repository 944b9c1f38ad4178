import LoopLang.Config.Toml.Basic

/-! Texts in settings files: between single quotes as they stand, between double quotes with
escapes. -/

namespace LoopLang.Toml

/-- The character that a short escape stands for. -/
def shortEscape? : Char → Option Char
  | '0' => some '\x00'
  | 'b' => some '\x08'
  | 'f' => some '\x0c'
  | 'n' => some '\n'
  | 'r' => some '\r'
  | 't' => some '\t'
  | '"' => some '"'
  | _ => none

/-- Checks that what follows a text in quotes is not another text, and gives nothing else than
that. -/
def checkClosed (isBlock : Bool) :
    (closed : Bool) → (empties : Nat) → List (List Char) → Except Failure Unit
  | _, _, [] => .ok ()
  | closed, empties, [] :: rest => checkClosed isBlock (closed || !isBlock) (empties + 1) rest
  | closed, empties, part :: rest =>
    if escapesNext part then checkClosed isBlock closed empties rest
    else if closed then .error .malformed
    else if !isBlock || 1 < empties then checkClosed isBlock true empties rest
    else checkClosed isBlock false 0 rest

/-- Checks the characters behind backslashes, of which `parts` are what follows each; one backslash
may escape another. -/
def checkEscapes : (isEscaped : Bool) → (parts : List (List Char)) → Except Failure Unit
  | _, [] => .ok ()
  | isEscaped, [] :: rest => checkEscapes (!isEscaped) rest
  | isEscaped, (char :: _) :: rest =>
    if isEscaped || (shortEscape? char).isSome || char = 'u' || char = 'U'
      then checkEscapes false rest
    else .error .malformed

/-- The character with the code that hexadecimal digits give. -/
def codeChar (digits : List Char) : Except Failure Char :=
  match digits with
  | [] | ['d'] => .error .outOfRange
  | first :: second :: _ =>
    match readDigits? 16 digits with
    | none => .error .malformed
    | some code =>
      -- Halves of characters beyond the first plane are no characters.
      let isHalf := first = 'd' && !('0' ≤ second && second ≤ '7')
      if isHalf || 0x110000 ≤ code then .error .malformed else .ok (Char.ofNat code)
  | [_] => .error .malformed

/-- Whether every character is a hexadecimal digit of the basic alphabet. -/
def areHexDigits (digits : List Char) : Bool :=
  digits.all fun char => ('0' ≤ char && char ≤ '9') || ('a' ≤ char && char ≤ 'f')

/-- Reads codes of characters at the start of each part; a mark behind a lone backslash is no
mark. -/
def readCodes (mark : List Char) (width : Nat) :
    (isEscaped : Bool) → (result : List Char) → (parts : List (List Char)) →
    Except Failure (List Char)
  | _, result, [] => .ok result
  | true, result, part :: rest =>
    readCodes mark width (escapesNext part) (result ++ mark ++ part) rest
  | false, result, part :: rest => do
    let digits := (part.take width).map Char.toLower
    if !areHexDigits digits then throw .malformed
    let char ← codeChar digits
    readCodes mark width false (result ++ char :: part.drop width) rest

/-- A text with the characters that the escapes of one letter stand for. -/
def decodeCodes (letter : Char) (width : Nat) (text : List Char) : Except Failure (List Char) :=
  match partsBetween ['\\', letter] text with
  | [] => .ok []
  | first :: rest => readCodes ['\\', letter] width (escapesNext first) first rest

/-- A text with the characters that short escapes stand for. -/
def unescape : List Char → Except Failure (List Char)
  | '\\' :: char :: rest =>
    match shortEscape? char with
    | some plain => (unescape rest).map (plain :: ·)
    | none =>
      if char = '\\' then (unescape rest).map ('\\' :: ·)
      else if char = 'u' || char = 'U' then (unescape rest).map fun plain => '\\' :: char :: plain
      else .error .malformed
  | char :: rest => (unescape rest).map (char :: ·)
  | [] => .ok []

/-- A quoted text without its quotes, three of them or one at each end. -/
def stripQuotes (quote : Char) (text : List Char) : List Char :=
  match text with
  | _ :: second :: rest =>
    if second = quote && rest.head?.all (· = second) then inner (inner (inner text)) else inner text
  | _ => inner text

/-- The text that stands in quotes; escapes are read before the quotes are taken away. -/
def readText (quote : Char) (text : List Char) : Except Failure String := do
  let (isBlock, parts) :=
    match partsAt quote (text.drop 1) with
    | [] :: [] :: rest => (true, rest)
    | parts => (false, parts)
  checkClosed isBlock false 0 parts
  if quote = '"' then
    checkEscapes false ((partsAt '\\' text).drop 1)
    let plain ← unescape (← decodeCodes 'U' 8 (← decodeCodes 'u' 4 text))
    return String.ofList (stripQuotes quote plain)
  else return String.ofList (stripQuotes quote text)

end LoopLang.Toml
