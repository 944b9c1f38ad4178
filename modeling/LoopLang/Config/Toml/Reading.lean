import LoopLang.Config.Settings
import LoopLang.Config.Toml.Outline
import LoopLang.Config.Toml.Value
import LoopLang.Source.Lines

/-! Reading settings files: lines with headers of tables, and lines with assignments. -/

namespace LoopLang.Toml

/-- One step into nested values. -/
inductive Step
  | member (name : String)
  /-- To the last item of a list. -/
  | last
  deriving DecidableEq, Repr

/-- The value that some steps lead to. -/
def valueAt? : List Step → Document → Option Document
  | [], document => some document
  | .member name :: steps, .object members => (members.lookup name).bind (valueAt? steps)
  | .last :: steps, .list items => items.getLast?.bind (valueAt? steps)
  | _, _ => none

/-- Changes the value that some steps lead to. -/
def changeValue (change : Document → Except Failure Document) :
    List Step → Document → Except Failure Document
  | [], document => change document
  | .member name :: steps, .object members =>
    match members.lookup name with
    | some member =>
      (changeValue change steps member).map fun member => .object (put name member members)
    | none => .error .notATable
  -- A list of tables stands for the last one of them.
  | .last :: steps, .list items =>
    match items.getLast? with
    | some item => (changeValue change steps item).map fun item => .list (items.dropLast ++ [item])
    | none => .error .outOfRange
  | _, _ => .error .notATable

/-- A file as far as it is read. -/
structure Reading where
  root : Document
  /-- The table that assignments go to. -/
  current : List Step
  /-- The names of tables that exist only because others are in them. -/
  implied : List String
  pending : Option Pending

namespace Reading

/-- Nothing has been read. -/
def start : Reading := ⟨.object [], [], [], none⟩

/-- The value that assignments go to. -/
def here (reading : Reading) : Document := (valueAt? reading.current reading.root).getD .null

/-- Changes the value that assignments go to. -/
def changeHere (reading : Reading) (change : Document → Except Failure Document) :
    Except Failure Reading := do
  return { reading with root := ← changeValue change reading.current reading.root }

/-- What a header puts where nothing is: a table, or a list with one table. -/
def newTable (isItem : Bool) : Document := if isItem then .list [.object []] else .object []

/-- The last name of a header where something stands already. -/
def reopen (reading : Reading) (isList : Bool) (name : String) (old : Document) :
    Except Failure Reading :=
  -- A table that a longer name has implied may be stated once.
  if reading.implied.contains name then
    if isList then .error .malformed else .ok { reading with implied := reading.implied.erase name }
  else if isList then
    match old with
    | .list items =>
      reading.changeHere fun table =>
        match table with
        | .object members => .ok (.object (put name (.list (items ++ [.object []])) members))
        | _ => .error .notATable
    | _ => .error .notAList
  else .error .malformed

/-- Creates a table in the current one, unless a member of the name is there. -/
def create (reading : Reading) (name : String) (table : Document) : Except Failure Reading :=
  reading.changeHere fun current =>
    match current with
    | .object members =>
      .ok (.object (if (members.lookup name).isSome then members else put name table members))
    | _ => .error .notATable

/-- Finds or creates the table of one name of a header in the current one. -/
def openName (reading : Reading) (isList isLast : Bool) (name : String) : Except Failure Reading :=
  match reading.here with
  | .object members =>
    match members.lookup name with
    | some old => if isLast then reading.reopen isList name old else .ok reading
    | none =>
      -- Names in front of the last one imply tables that have no header yet.
      let implied := if isLast then reading.implied else reading.implied ++ [name]
      { reading with implied }.create name (newTable (isLast && isList))
  -- There is no last item to go on with.
  | .list [] | .text "" => .error .outOfRange
  | .list _ =>
    { reading with current := reading.current ++ [Step.last] }.create name
      (newTable (isLast && isList))
  | _ => .error .notATable

/-- Goes into the table of one name of a header, and within a header of a list into its last
item. -/
def enter (reading : Reading) (isList : Bool) (name : String) : Except Failure Reading :=
  let inside := { reading with current := reading.current ++ [.member name] }
  if !isList then .ok inside
  else
    match inside.here with
    | .object _ => .ok inside
    | .list [] | .text "" => .error .outOfRange
    | .list _ => .ok { inside with current := inside.current ++ [Step.last] }
    | _ => .error .notATable

/-- Opens the table that the names of a header lead to. -/
def openTable (isList : Bool) : List String → Reading → Except Failure Reading
  | [], reading => .ok reading
  | name :: rest, reading => do
    if name = "" then throw .malformed
    let found ← reading.openName isList rest.isEmpty name
    openTable isList rest (← found.enter isList name)

/-- Whether a name of a header needs no quotes. -/
def isPlainName (name : List Char) : Bool :=
  !name.isEmpty && name.all fun char => char.isAlphanum || char = '_' || char = '-'

/-- Whether a name in quotes is closed. -/
def isNameClosed (name : List Char) : Bool := name.head? = name.getLast? && name.length ≠ 1

/-- The names of a header, put together from parts between points; `pending` is a name whose quotes
are still open. -/
def headerNames : (pending : Option (List Char)) → List (List Char) → Except Failure (List String)
  | none, [] => .ok []
  | some _, [] => .error .malformed
  | pending, part :: rest =>
    let text := match pending with
      | none => trim part
      | some start => start ++ '.' :: part
    let name := trim text
    -- A quoted name may contain dots, so its parts are put together again.
    if pending.isSome || name.head?.any isQuote then
      if isNameClosed name then (headerNames none rest).map (String.ofList (inner name) :: ·)
      else headerNames (some text) rest
    else if isPlainName name then (headerNames none rest).map (String.ofList name :: ·)
    else .error .malformed

/-- Reads a header: names between brackets, two of them for an item of a list, and nothing behind
them. -/
def readHeader (reading : Reading) (header : List Char) : Except Failure Reading := do
  let isList := header[1]? = some '['
  let mark := if isList then [']', ']'] else [']']
  let content := header.drop mark.length
  if content.isEmpty && !isList then throw .malformed
  let parts := partsBetween mark content
  let count := firstOutside mark false 1 (quoteParts content)
  if parts.length < count + 1 || !(trim (joinWith mark (parts.drop count))).isEmpty
    then throw .malformed
  let names ← headerNames none (partsAt '.' (joinWith mark (parts.take count)))
  openTable isList names { reading with current := [] }

/-- Makes assignments in the current table. -/
def readAssignmentsHere (reading : Reading) (lines : List (List Char)) (depth : Nat) :
    Except Failure Reading := do
  let (table, pending) ← readAssignments depth lines reading.here
  let changed ← reading.changeHere fun _ => .ok table
  return { changed with pending }

/-- Adds a line to a value of several lines, which ends it if it is the last one. -/
def continuePending (reading : Reading) (pending : Pending) (line : List Char) :
    Except Failure Reading := do
  let text := pending.text ++ line
  let closed ←
    match text.head?, line.getLast? with
    | some '[', none => throw .outOfRange
    | some '[', some last => pure (decide (last = ']'))
    -- A text of several lines ends with three quotes.
    | some quote, _ => pure (2 < line.length && (line.reverse.take 3).all (· = quote))
    | none, _ => pure false
  if closed then
    let value ← readValue (text.length + 1) text
    let changed ← reading.changeHere fun table =>
      match table with
      | .object members => .ok (.object (put pending.key value members))
      | _ => .error .notATable
    return { changed with pending := none }
  else return { reading with pending := some (pendingAfter pending.key text) }

/-- Reads one line of an outline. -/
def readLine (reading : Reading) (line : List Char) : Except Failure Reading :=
  let depth := line.length + 3
  match reading.pending with
  | some pending =>
    -- Within a text of several lines blanks stay as they are, except behind a line that is
    -- continued.
    let line := if pending.isContinued || !pending.text.contains '\n' then trim line else line
    if line.isEmpty && pending.isContinued then .ok reading
      else reading.continuePending pending line
  | none =>
    let line := trim line
    match line.head? with
    | none => .ok reading
    | some '[' => reading.readHeader line
    | some '\x7b' =>
      if line.getLast? ≠ some '\x7d' then .error .malformed
      else (splitTable line).bind fun lines => reading.readAssignmentsHere lines depth
    | some _ => if line.contains '=' then reading.readAssignmentsHere [line] depth else .ok reading

end Reading

/-- The settings in a text. -/
def read (text : String) : Except Failure Settings := do
  let outline ← outlineOf (unifyLineEnds text.toList)
  let reading ← (partsAt '\n' outline).foldlM Reading.readLine .start
  match reading.root with
  | .object members => return members
  | _ => throw .malformed

end LoopLang.Toml
