import LoopLang.Command.Flag
import LoopLang.Number.Text
import LoopLang.Source.Quoted

/-! Reading the arguments of the command line. -/

namespace LoopLang.Command

/-- Why arguments are refused. -/
inductive UsageError
  | ambiguous (argument : String) (matching : List String)
  | valueIgnored (flag : Flag) (value : String)
  | valueMissing (flag : Flag)
  | notANumber (flag : Flag) (value : String)
  | inputMissing
  | unrecognized (arguments : List String)
  deriving DecidableEq, Repr

/-- What is wrong with the arguments. -/
def UsageError.message : UsageError → String
  | .ambiguous argument matching =>
    s!"ambiguous option: {argument} could match " ++ ", ".intercalate matching
  | .valueIgnored flag value => s!"argument {flag.name}: ignored explicit argument {quoted value}"
  | .valueMissing flag => s!"argument {flag.name}: expected one argument"
  | .notANumber flag value => s!"argument {flag.name}: invalid int value: {quoted value}"
  | .inputMissing => "the following arguments are required: input"
  | .unrecognized arguments => "unrecognized arguments: " ++ " ".intercalate arguments

/-- A word of the command line, as far as it can be told on its own. -/
inductive Word
  | argument (text : String)
  /-- What follows the separator is no flag. -/
  | separator
  /-- A flag by one of its words, with what the same argument holds behind the word. -/
  | flag (flag : Flag) (isLong : Bool) (value : Option String)
  | unknown (text : String)
  deriving DecidableEq, Repr

/-- Cuts a text at its first equals sign. -/
def cutAtEqual (text : String) : Option (String × String) :=
  let chars := text.toList
  match chars.dropWhile (· ≠ '=') with
  | [] => none
  | _ :: value => some (String.ofList (chars.takeWhile (· ≠ '=')), String.ofList value)

/-- Whether a word is a long one. -/
def isLongWord (word : String) : Bool := ['-', '-'].isPrefixOf word.toList

/-- The flags that an argument may mean: by the beginning of a long word, or by a short word with
its value behind it. -/
def matching (argument : String) : List (String × Flag × Option String) :=
  let chars := argument.toList
  if isLongWord argument then
    let cut := cutAtEqual argument
    let start := (cut.map Prod.fst).getD argument
    -- A long word may be cut short, as long as no other one begins like that.
    (Flag.table.filter fun (word, _) => start.toList.isPrefixOf word.toList).map fun (word, flag) =>
      (word, flag, cut.map Prod.snd)
  else
    Flag.table.filterMap fun (word, flag) =>
      -- What stands behind a short option is its value.
      if word.toList = chars.take 2 then some (word, flag, some (String.ofList (chars.drop 2)))
      else if chars.isPrefixOf word.toList then some (word, flag, none)
      else none

/-- Whether digits are all that is left, but for a line feed at the very end. -/
def endsInDigits (text : List Char) : Bool :=
  let digits := text.takeWhile isDigit
  !digits.isEmpty && (text.drop digits.length = [] || text.drop digits.length = ['\n'])

/-- Whether a text is a negative number. -/
def isNegativeNumber (text : String) : Bool :=
  match text.toList with
  | '-' :: digits =>
    match digits.dropWhile isDigit with
    | '.' :: rest => endsInDigits rest
    | _ => endsInDigits digits
  | _ => false

/-- The flag that an argument means by a whole word, possibly with a value behind an equals sign. -/
def wholeWord? (argument : String) : Option Word :=
  match Flag.ofWord? argument with
  | some flag => some (.flag flag (isLongWord argument) none)
  | none =>
    match cutAtEqual argument with
    | some (word, value) =>
      (Flag.ofWord? word).map fun flag => .flag flag (isLongWord word) (some value)
    | none => none

/-- What one argument in front of the separator is. -/
def classify (argument : String) : Except UsageError Word :=
  if argument.toList.head? ≠ some '-' || argument.length = 1 then .ok (.argument argument)
  else
    match wholeWord? argument, matching argument with
    | some word, _ => .ok word
    | none, [(word, flag, value)] => .ok (.flag flag (isLongWord word) value)
    | none, first :: second :: rest =>
      .error (.ambiguous argument ((first :: second :: rest).map Prod.fst))
    | none, [] =>
      if isNegativeNumber argument || argument.toList.contains ' ' then .ok (.argument argument)
      else .ok (.unknown argument)

/-- What all arguments are. -/
def classifyAll : List String → Except UsageError (List Word)
  | [] => .ok []
  | argument :: rest =>
    if argument = "--" then .ok (.separator :: rest.map Word.argument)
    else do
      let word ← classify argument
      return word :: (← classifyAll rest)

/-- What the arguments ask for. -/
structure Options where
  /-- Show the code. -/
  showCode : Bool := false
  /-- Run a function, that of the program if the name is empty. -/
  run : Option String := none
  /-- Where to put the object code. -/
  object : Option String := none
  /-- Where to put the tree. -/
  tree : Option String := none
  level : Option Int := none
  debug : Bool := false
  quiet : Bool := false
  deriving DecidableEq, Repr

/-- What is known while the words are read from left to right. -/
structure Reading where
  input : Option String
  options : Options
  /-- Arguments that nothing takes. -/
  surplus : List String
  /-- A flag that waits for its value. -/
  waiting : Option Flag
  /-- Whether help is asked for as soon as the waiting flag has its value. -/
  helpWaits : Bool
  /-- Whether the last word was the input. -/
  behindInput : Bool

/-- Arguments that end without a run of the command. -/
inductive Refusal
  | help
  | usage (error : UsageError)
  deriving DecidableEq, Repr

namespace Reading

/-- Nothing has been read. -/
def start : Reading := ⟨none, {}, [], none, false, false⟩

/-- Changes the options. -/
def change (reading : Reading) (change : Options → Options) : Reading :=
  { reading with options := change reading.options }

/-- Sets a flag without a value. -/
def setBare (reading : Reading) (flag : Flag) : Except Refusal Reading :=
  match flag with
  | .help => .error .help
  | .code => .ok (reading.change fun options => { options with showCode := true })
  | .debug => .ok (reading.change fun options => { options with debug := true })
  | .quiet => .ok (reading.change fun options => { options with quiet := true })
  | .run => .ok (reading.change fun options => { options with run := some "" })
  | .object | .tree | .level => .error (.usage (.valueMissing flag))

/-- Sets a flag to no value at all, as it is without a mention of the flag; the level is set to
zero. -/
def setNothing (reading : Reading) (flag : Flag) : Except Refusal Reading :=
  match flag with
  | .object => .ok (reading.change fun options => { options with object := none })
  | .tree => .ok (reading.change fun options => { options with tree := none })
  | .level => .ok (reading.change fun options => { options with level := some 0 })
  | .help | .code | .debug | .quiet | .run => reading.setBare flag

/-- Sets a flag to a value. -/
def setValue (reading : Reading) (flag : Flag) (value : String) : Except Refusal Reading :=
  match flag with
  | .run => .ok (reading.change fun options => { options with run := some value })
  | .object => .ok (reading.change fun options => { options with object := some value })
  | .tree => .ok (reading.change fun options => { options with tree := some value })
  | .level =>
    match readInteger value with
    | .ok level => .ok (reading.change fun options => { options with level := some level })
    | .error _ => .error (.usage (.notANumber flag value))
  | .help | .code | .debug | .quiet => .error (.usage (.valueIgnored flag value))

/-- Settles a flag that still waits for its value. -/
def settle (reading : Reading) : Except Refusal Reading :=
  match reading.waiting with
  | none => .ok reading
  | some flag => { reading with waiting := none }.setBare flag

/-- A flag without a value in its own argument: it is set, or waits for the next word. -/
def begin (reading : Reading) (flag : Flag) : Except Refusal Reading :=
  match flag.valueCount with
  | .none => reading.setBare flag
  | .optional | .one => .ok { reading with waiting := some flag }

/-- What one argument with several short words comes to: flags, and a value for one more flag behind
them. -/
structure Joined where
  flags : List Flag
  last : Option (Flag × String)

/-- The flag at the end if it cannot do without a value. -/
def Joined.needyFlag? (joined : Joined) : Option Flag :=
  joined.flags.getLast?.filter fun flag => flag.valueCount = .one

/--
The flags that short words in one argument stand for, from a first flag and the characters behind
it. As long as flags take no value, each next character must be the next flag.
-/
def joined (flag : Flag) (chars : List Char) : Except UsageError Joined :=
  match flag.valueCount, chars with
  | .optional, _ | .one, _ => .ok ⟨[], some (flag, String.ofList chars)⟩
  | .none, [] => .error (.valueIgnored flag "")
  | .none, char :: rest =>
    match Flag.ofWord? (String.ofList ['-', char]), rest with
    | none, _ => .error (.valueIgnored flag (String.ofList (char :: rest)))
    | some next, [] => .ok ⟨[flag, next], none⟩
    | some next, rest =>
      (joined next rest).map fun joined => { joined with flags := flag :: joined.flags }

/-- Sets a flag to a value in its own argument, where the separator stands for no value. -/
def setJoined (reading : Reading) (flag : Flag) (value : String) : Except Refusal Reading :=
  if value = "--" then reading.setNothing flag else reading.setValue flag value

/-- A flag with what its own argument holds behind its word. -/
def withValue (reading : Reading) (flag : Flag) (isLong : Bool) (value : String) :
    Except Refusal Reading :=
  if isLong then
    match flag.valueCount with
    | .none => .error (.usage (.valueIgnored flag value))
    | .optional | .one => reading.setJoined flag value
  else
    match joined flag value.toList with
    | .error error => .error (.usage error)
    | .ok joined => do
      match joined.last, joined.needyFlag? with
      | none, some flag =>
        -- Help is shown only if no flag of the argument lacks its value.
        if joined.flags.contains .help
          then return { reading with waiting := some flag, helpWaits := true }
        else joined.flags.foldlM begin reading
      | none, none => joined.flags.foldlM begin reading
      | some (flag, value), _ => (← joined.flags.foldlM begin reading).setJoined flag value

/-- Reads one word. -/
def readWord (reading : Reading) : Word → Except Refusal Reading
  | .argument text =>
    match reading.waiting with
    | some flag =>
      if reading.helpWaits then .error .help
      else { reading with waiting := none, behindInput := false }.setValue flag text
    | none =>
      match reading.input with
      | none => .ok { reading with input := some text, behindInput := true }
      | some _ => .ok { reading with surplus := reading.surplus ++ [text], behindInput := false }
  | .separator => do
    let reading ← reading.settle
    -- Around the input a separator is passed over.
    if reading.behindInput || reading.input.isNone then return { reading with behindInput := false }
    else return { reading with surplus := reading.surplus ++ ["--"] }
  | .unknown text => do
    let reading ← reading.settle
    return { reading with surplus := reading.surplus ++ [text], behindInput := false }
  | .flag flag isLong value => do
    let reading ← { reading with behindInput := false }.settle
    match value with
    | none => reading.begin flag
    | some value => reading.withValue flag isLong value

end Reading

/-- Reads the arguments: the input, and the options. -/
def readArguments (arguments : List String) : Except Refusal (String × Options) := do
  let words ← (classifyAll arguments).mapError .usage
  let reading ← (← words.foldlM Reading.readWord .start).settle
  match reading.input with
  | none => .error (.usage .inputMissing)
  | some input =>
    if reading.surplus.isEmpty then return (input, reading.options)
    else .error (.usage (.unrecognized reading.surplus))

end LoopLang.Command
