/-! The flags of the command line, and the words that stand for them. -/

namespace LoopLang.Command

/-- The flags. -/
inductive Flag
  | help
  | code
  | run
  | object
  | tree
  | level
  | debug
  | quiet
  deriving DecidableEq, Repr

/-- How many values a flag takes. -/
inductive ValueCount
  | none
  | optional
  | one
  deriving DecidableEq, Repr

namespace Flag

/-- Every flag, in the order in which help and messages show them. -/
def all : List Flag := [help, code, run, object, tree, level, debug, quiet]

/-- The words that stand for a flag. -/
def words : Flag → List String
  | help => ["-h", "--help"]
  | code => ["--ir", "-i"]
  | run => ["-r", "--run"]
  | object => ["--obj"]
  | tree => ["--ast"]
  | level => ["-O", "--optimization-level"]
  | debug => ["--debug"]
  | quiet => ["--quiet", "-q"]

/-- The name of a flag in messages. -/
def name (flag : Flag) : String := "/".intercalate flag.words

/-- How many values a flag takes. -/
def valueCount : Flag → ValueCount
  | help | code | debug | quiet => .none
  | run => .optional
  | object | tree | level => .one

/-- Every word with the flag that it stands for. -/
def table : List (String × Flag) := all.flatMap fun flag => flag.words.map fun word => (word, flag)

/-- The flag that a word stands for. -/
def ofWord? (word : String) : Option Flag := table.lookup word

end Flag

end LoopLang.Command
