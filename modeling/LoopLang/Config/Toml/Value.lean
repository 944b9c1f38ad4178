import LoopLang.Config.Toml.Text

/-! Values in settings files, and the assignments that give them to keys. -/

namespace LoopLang.Toml

/-- The number of digits of the basic alphabet at the start of a text. -/
def leadingDigits (text : List Char) : Nat := (text.takeWhile (·.isDigit)).length

/-- Whether a text starts like a time of day: hours, minutes and seconds of two digits between
colons. -/
def isTime (text : List Char) : Bool :=
  match text with
  | a :: b :: ':' :: c :: d :: ':' :: e :: f :: _ => [a, b, c, d, e, f].all (·.isDigit)
  | _ => false

/-- The number of days in a month. -/
def monthLength (year month : Nat) : Nat :=
  if month = 2 then
    if year % 4 = 0 && (year % 100 ≠ 0 || year % 400 = 0) then 29 else 28
  else if [4, 6, 9, 11].contains month then 30
  else 31

/-- The natural number in some places of a text. -/
def numberAt? (text : List Char) (first count : Nat) : Option Nat :=
  match readInteger (String.ofList ((text.drop first).take count)) with
  | .ok value => if 0 ≤ value then some value.toNat else none
  | .error _ => none

/-- The day in the first ten places of a text. -/
def dayOf? (text : List Char) : Option Day := do
  let year ← numberAt? text 0 4
  let month ← numberAt? text 5 2
  let day ← numberAt? text 8 2
  if 1 ≤ year && 1 ≤ month && month ≤ 12 && 1 ≤ day && day ≤ monthLength year month
    then some ⟨year, month, day⟩
  else none

/-- The time of day in eight places of a text from the given one on. -/
def clockAt? (text : List Char) (first : Nat) : Option Clock := do
  let hour ← numberAt? text first 2
  let minute ← numberAt? text (first + 3) 2
  let second ← numberAt? text (first + 6) 2
  if hour < 24 && minute < 60 && second < 60 then some ⟨hour, minute, second⟩ else none

/--
The moment that a text gives: a time of day if it starts like one, else a date, with or without a
time of day. Fractions of a second and time zones are skipped.
-/
def readMoment? (text : List Char) : Option Moment :=
  if isTime text then (clockAt? text 0).map .time
  else if (text.drop 1).contains '-' then do
    let day ← dayOf? text
    if text.length = 10 then some (.date day) else (clockAt? text 11).map (.dateTime day)
  else none

/-- Whether a number is written with a point or an exponent. -/
def isFraction (text : List Char) : Bool :=
  text.contains '.' || (!text.contains 'x' && (text.contains 'e' || text.contains 'E'))

/-- A number with a point or an exponent: a digit must lead, and something must follow the point. -/
def readFraction (text : List Char) : Except Failure Float :=
  let behindPoint := (text.dropWhile (· ≠ '.')).drop 1
  if (text.contains '.' && behindPoint.isEmpty) || leadingDigits text = 0 then .error .malformed
  else
    match readNumber? (String.ofList text) with
    | some value => .ok value
    | none => .error .malformed

/-- A number; the sign in front may stand apart, and a zero loses it. -/
def readNumber (text : List Char) : Except Failure Document := do
  let (negative, unsigned) := takeSign text
  let ofFloat := fun (value : Float) => Document.number (if negative then 0.0 - value else value)
  if isFraction unsigned then return ofFloat (← readFraction unsigned)
  let word := String.ofList (unsigned.map Char.toLower)
  -- These words are numbers, unless a fraction was written.
  if word = "inf" || word = "nan" then
    match readNumber? word with
    | some value => return ofFloat value
    | none => throw .malformed
  match readPrefixedInteger? (String.ofList unsigned) with
  | some value => return .integer (if negative then -value else value)
  | none => throw .malformed

/-- Whether a text in quotes is closed: the same quote stands at both ends, and the last one is not
escaped. -/
def isClosed (text : List Char) : Bool :=
  text.isEmpty || (text.getLast? = text.head? && !escapesNext (inner text))

/-- Whether a text in three quotes is closed by as many. -/
def isBlockClosed (text : List Char) : Bool :=
  match text with
  | first :: second :: third :: _ =>
    let ending := text.reverse
    !(first = second && second = third) || ending[1]? = some first || ending[2]? = some first
  | _ => true

/-- Puts texts together again that were split at commas within their quotes; `pending` is one that
is not closed yet. -/
def joinTexts :
    (pending : Option (List Char)) → List (List Char) → Except Failure (List (List Char))
  | none, [] => .ok []
  | some _, [] => .error .outOfRange
  | none, [part] => .ok [part]
  | pending, part :: rest =>
    let text := match pending with
      | none => part
      | some start => start ++ ',' :: part
    if isClosed (trim text) && isBlockClosed (trim text) then (joinTexts none rest).map (text :: ·)
    else joinTexts (some text) rest

/-- Where the reading of tables in a list stands. -/
inductive TablePhase
  /-- Within a table that starts with some characters, in reverse. -/
  | inside (start : List Char)
  /-- Behind a table, where one character is passed over whatever it is. -/
  | justBehind
  | between

/--
The tables in a list: `depth` counts open braces, `slashes` the backslashes right in front, and
braces within quotes do not count.
-/
def tablesIn : TablePhase → (depth slashes : Nat) → (inQuotes : Bool) → List Char → List (List Char)
  | _, _, _, _, [] => []
  | .justBehind, depth, _, inQuotes, _ :: rest => tablesIn .between depth 0 inQuotes rest
  | .between, depth, _, inQuotes, char :: rest =>
    if char = '\x7b' then tablesIn (.inside [char]) depth 0 inQuotes rest
    else tablesIn .between depth 0 inQuotes rest
  | .inside start, depth, slashes, inQuotes, char :: rest =>
    -- A quote behind an odd number of backslashes does not end a text.
    let quoted := if isQuote char then !inQuotes || slashes % 2 = 1 else inQuotes
    let slashes := if char = '\\' then slashes + 1 else 0
    let depth := if !quoted && char = '\x7b' then depth + 1 else depth
    if quoted || char ≠ '\x7d' then tablesIn (.inside (char :: start)) depth slashes quoted rest
    else if 1 < depth then tablesIn (.inside (char :: start)) (depth - 1) slashes quoted rest
    else (char :: start).reverse :: tablesIn .justBehind depth 0 quoted rest

/-- Splits the contents of a list at the commas outside of inner lists; `current` is the part so
far, in reverse. -/
def splitLists (depth : Int) (current : List Char) : List Char → List (List Char)
  | [] => [current.reverse]
  | char :: rest =>
    if char = ',' && depth = 0 then current.reverse :: splitLists 0 [] rest
    else
      let change := if char = '[' then 1 else if char = ']' then -1 else 0
      splitLists (depth + change) (char :: current) rest

/-- Whether the first item of a list is a text. -/
def startsWithText (list : List Char) : Bool := (trim (inner list)).head?.any isQuote

/-- The items of a list. -/
def splitList (list : List Char) : Except Failure (List (List Char)) := do
  let content := inner list
  let behindBlank := (trim content).head?
  let parts ←
    -- Whether the items are lists, tables or texts is seen from the first one.
    if behindBlank = some '[' then pure (splitLists 0 [] content)
    else
      let parts :=
        match behindBlank, content with
        | some '\x7b', first :: rest =>
          tablesIn (.inside [first]) (if first = '\x7b' then 1 else 0) 0 false rest
        | _, _ => partsAt ',' content
      if startsWithText list then joinTexts none parts else pure parts
  return (parts.map trim).filter (· ≠ [])

/-- Whether the parts of a table that were split at a comma belong together because the value is not
complete. -/
def isComplete (value : List Char) : Except Failure Bool :=
  match value.head?, value.getLast? with
  | some first, some last =>
    .ok ((first = last && isQuote first) || first = '-' || first.isDigit ||
      value = ['t', 'r', 'u', 'e'] || value = ['f', 'a', 'l', 's', 'e'] ||
      (first = '[' && last = ']') || (first = '\x7b' && last = '\x7d'))
  | _, _ => .error .outOfRange

/-- The assignments in a table, put together from parts between commas; `pending` is one whose value
is not complete yet. -/
def joinAssignments :
    (pending : Option (List Char)) → List (List Char) → Except Failure (List (List Char))
  | none, [] => .ok []
  | some _, [] => .error .malformed
  | pending, part :: rest => do
    let text := match pending with
      | none => part
      | some start => start ++ ',' :: part
    -- Commas may stand in values, so parts are joined until the value is complete.
    if !text.contains '=' then throw .malformed
    if ← isComplete (trim ((text.dropWhile (· ≠ '=')).drop 1)) then
      return text :: (← joinAssignments none rest)
    else joinAssignments (some text) rest

/-- The assignments in a table on one line. -/
def splitTable (table : List Char) : Except Failure (List (List Char)) :=
  match partsAt ',' (inner table) with
  | [part] => if (trim part).isEmpty then .ok [] else joinAssignments none [part]
  | parts => joinAssignments none parts

/-- Whether what follows an equals sign can be a value: apart from it, or with the start of a
value. -/
def isValueStart (text : List Char) : Bool :=
  match text with
  | [] => true
  | first :: _ =>
    [' ', '\t', '\'', '"', '[', '\x7b'].contains first || trim text = ['t', 'r', 'u', 'e'] ||
      trim text = ['f', 'a', 'l', 's', 'e'] || (readNumber? (String.ofList text)).isSome ||
      isTime text || (readMoment? text).isSome

/-- A number that follows its equals sign directly, without its underscores. -/
def dropUnderscores (text : List Char) : List Char :=
  if leadingDigits text = 0 then text else text.filter (· ≠ '_')

/-- Cuts an assignment at one of its equals signs, or at a later one if no value can start behind
that. -/
def cutAssignment (parts : List (List Char)) (change : List Char → List Char) :
    (steps count : Nat) → Except Failure (List Char × List Char)
  | 0, _ => .error .malformed
  | steps + 1, count =>
    let value := change (joinWith ['='] (parts.drop count))
    if isValueStart value then .ok (trim (joinWith ['='] (parts.take count)), trim value)
    else cutAssignment parts id steps (count + 1)

/-- The key and the value of an assignment, cut at the first equals sign outside of quotes that a
value can follow. -/
def splitAssignment (line : List Char) : Except Failure (List Char × List Char) :=
  let parts := partsAt '=' line
  let last := parts.length - 1
  let first := min last (firstOutside ['='] false 1 (quoteParts line))
  cutAssignment parts dropUnderscores (last + 1 - first) first

/-- The parts of a key between points; parts in quotes stay whole. -/
def keyParts : (isInside : Bool) → List (List Char) → List (List Char)
  | _, [] => []
  | true, part :: rest => part :: keyParts false rest
  | false, part :: rest => (partsAt '.' part).map trim ++ keyParts true rest

/-- The tables that a key leads through, and its own name. -/
def keyPath (key : List Char) : Except Failure (List String × String) :=
  if key.contains '.' then
    let parts := if key.any isQuote then keyParts false (quoteParts key) else partsAt '.' key
    match ((parts.reverse.dropWhile (· = [])).reverse).map String.ofList with
    | [] => .error .outOfRange
    | first :: rest =>
      let names := first :: rest
      let last := names.getLast?.getD ""
      -- Parts without a name are skipped, but for the last one.
      .ok (names.dropLast.filter (· ≠ ""), String.ofList (trim last.toList))
  else
    match key.head? with
    | none => .error .outOfRange
    | some first =>
      if isQuote first && key.getLast? = some first then
        (unescape (inner key)).map fun name => ([], String.ofList name)
      else .ok ([], String.ofList key)

/-- A value of several lines as far as it has been read. -/
structure Pending where
  key : String
  text : List Char
  /-- Whether the next line goes on without a line end. -/
  isContinued : Bool

/-- What a line leaves of a value of several lines: a backslash at its end is dropped together with
the line end. -/
def pendingAfter (key : String) (text : List Char) : Pending :=
  if escapesNext text then ⟨key, text.dropLast, true⟩ else ⟨key, text ++ ['\n'], false⟩

/-- The last item of a list whose texts have commas in them. -/
def lastText : List (List Char) → Except Failure (List Char)
  | [] => .ok []
  | [text] => .ok text
  | text :: next :: older =>
    match text with
    | [] => .error .outOfRange
    | first :: _ => if isQuote first then .ok text else lastText ((next ++ ',' :: text) :: older)
termination_by texts => texts.length

/-- Whether a text in three quotes is opened and not closed again. -/
def opensText : List Char → Except Failure Bool
  | first :: second :: rest =>
    if !isQuote first then .ok false
    else if second ≠ first then .ok false
    else
      match rest with
      | [] => .error .outOfRange
      | third :: more =>
        -- Three quotes open a text of several lines, unless it ends on the same line.
        let closed := 2 < more.length && ((more.reverse.take 3).all (· = first))
        .ok (third = first && !closed)
  | [first] => if isQuote first then .error .outOfRange else .ok false
  | [] => .error .outOfRange

/-- Whether a value goes on in the next line, as a text in three quotes or as a list with such a
text at its end. -/
def opensBlock (value : List Char) : Except Failure Bool :=
  if value.length < 3 then .ok false
  else if value.head? = some '[' && (trim value).getLast? ≠ some ']' && startsWithText value then do
    opensText (← lastText (partsAt ',' (trim (value.drop 1))).reverse)
  else opensText value

/-- Changes the table that a row of names leads to; tables on the way are created where they are
missing. -/
def changeAt {α : Type} (change : Document → Except Failure (Document × α)) :
    List String → Document → Except Failure (Document × α)
  | [], document => change document
  | name :: names, .object members => do
    let (inner, result) ← changeAt change names ((members.lookup name).getD (.object []))
    return (.object (put name inner members), result)
  | _ :: _, _ => .error .notATable

/-- Adds a member with a new key to a table. -/
def addMember (key : String) (value : Option Document) : Document → Except Failure Document
  | .object members =>
    if (members.lookup key).isSome then .error .malformed
    else
      match value with
      | some value => .ok (.object (put key value members))
      | none => .ok (.object members)
  | _ => .error .malformed

/-- The items of a list must be of one sort. -/
def checkSorts : List Document → Except Failure Unit
  | [] => .ok ()
  | first :: rest =>
    if rest.all fun item => item.sortName = first.sortName then .ok () else .error .malformed

mutual

/-- A value, in which lists and tables may be nested within the given depth. -/
def readValue : (depth : Nat) → List Char → Except Failure Document
  | 0, _ | _, [] => .error .malformed
  | depth + 1, text@(first :: _) => do
    let word := String.ofList text
    if word = "true" then return .boolean true
    if word = "false" then return .boolean false
    if isQuote first then return .text (← readText first text)
    if first = '[' then
      -- Items of different sorts are refused.
      let items ← (← splitList text).mapM (readValue depth)
      checkSorts items
      return .list items
    if first = '\x7b' then
      let assignments ← splitTable text
      return (← readAssignments depth assignments (.object [])).1
    -- What looks like a date is one before it is a number.
    match readMoment? text with
    | some value => return .moment value
    | none => readNumber text

/-- Makes assignments in a table up to the first one whose value goes on in the next line. -/
def readAssignments :
    (depth : Nat) → List (List Char) → Document → Except Failure (Document × Option Pending)
  | 0, _, _ => .error .malformed
  | depth + 1, lines, table =>
    lines.foldlM
      (fun (table, pending) line =>
        match pending with
        | some _ => .ok (table, pending)
        | none => readAssignment depth line table)
      (table, none)

/-- Makes one assignment in a table. -/
def readAssignment :
    (depth : Nat) → List Char → Document → Except Failure (Document × Option Pending)
  | 0, _, _ => .error .malformed
  | depth + 1, line, table => do
    let (keyText, valueText) ← splitAssignment line
    let (names, key) ← keyPath keyText
    let assign := fun (table : Document) => do
      -- The value goes on in the next line; until then the key has an empty place.
      if ← opensBlock valueText then
        return (← addMember key none table, some (pendingAfter key valueText))
      else
        let value ← readValue depth valueText
        return (← addMember key (some value) table, none)
    changeAt assign names table

end

end LoopLang.Toml
