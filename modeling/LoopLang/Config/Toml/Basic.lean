import LoopLang.Document.Basic
import LoopLang.Source.Character

/-! What settings files hold: tables of values, and what can be wrong with a file. -/

namespace LoopLang.Toml

/-- Members of a table in order. -/
abbrev Members := List (String × Document)

/-- Why a settings file cannot be read. -/
inductive Failure
  | malformed
  /-- Something within a table is asked of a value that is none. -/
  | notATable
  /-- A table is added to what is no list of tables. -/
  | notAList
  /-- A character or an item is asked for where there is none. -/
  | outOfRange
  deriving DecidableEq, Repr

/-- Sets a member, in its old position if there is one. -/
def put (key : String) (value : Document) : Members → Members
  | [] => [(key, value)]
  | (other, old) :: rest =>
    if other = key then (key, value) :: rest else (other, old) :: put key value rest

/-- Whether a character is one of the two kinds of quotes. -/
def isQuote (char : Char) : Bool := char = '"' || char = '\''

/-- What stands between the first and the last character of a text. -/
def inner (text : List Char) : List Char := (text.drop 1).dropLast

/-- Whether a text ends in an odd number of backslashes, so that a character behind it is
escaped. -/
def escapesNext (text : List Char) : Bool := (text.reverse.takeWhile (· = '\\')).length % 2 = 1

/-- A text put together from parts with a mark between them. -/
def joinWith (mark : List Char) (parts : List (List Char)) : List Char := mark.intercalate parts

/-- Splits the parts of a text at single quotes while the parts so far leave one open; answers with
the double-quoted rest. -/
def absorbQuotes : (parts rest : List (List Char)) → List (List Char) × List (List Char)
  | parts, [] => (parts, [])
  | parts, next :: rest =>
    if parts.length % 2 = 0 then
      let joined := parts.getLast?.getD [] ++ '"' :: next
      absorbQuotes (parts.dropLast ++ partsAt '\'' joined) rest
    else (parts, next :: rest)

/--
The parts of a line between its quotes, by turns outside and inside of them. Behind the first double
quote only double quotes count.
-/
def quoteParts (line : List Char) : List (List Char) :=
  let splitFirst := fun (parts : List (List Char)) =>
    match parts with
    | [] => []
    | first :: rest => partsAt '\'' first ++ rest
  match partsAt '"' line with
  | first :: second :: rest =>
    -- Quotes of the other sort may stand between two double ones.
    if first.contains '\'' then
      let (parts, others) := absorbQuotes (partsAt '\'' first) (second :: rest)
      parts ++ splitFirst others
    else splitFirst (first :: second :: rest)
  | parts => splitFirst parts

/-- How many times a mark occurs in a text. -/
def occurrences (mark text : List Char) : Nat := (partsBetween mark text).length - 1

/-- Which occurrence of a mark is the first one outside of quotes, where parts stand by turns
outside and inside. -/
def firstOutside (mark : List Char) : (isInside : Bool) → (count : Nat) → List (List Char) → Nat
  | _, count, [] => count
  | isInside, count, part :: rest =>
    if !isInside && occurrences mark part ≠ 0 then count
    else firstOutside mark (!isInside) (count + occurrences mark part) rest

end LoopLang.Toml
