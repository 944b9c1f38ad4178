import LoopLang.Document.Basic

/-! Names in code, and fresh ones: a wanted name that is taken gets the next free number behind a
point. -/

namespace LoopLang.Code

/--
What something in code is called by: a text, or a plain value that stands in place of one. A value
is no text, even if both are displayed alike.
-/
inductive Name
  | text (string : String)
  | value (scalar : Scalar)
  deriving DecidableEq, Repr

/-- A name as messages show it. -/
def Name.display : Name → String
  | text string => string
  | value scalar => scalar.display

/-- The value that a name is, if it is no text. -/
def Name.value? : Name → Option Scalar
  | text _ => none
  | value scalar => some scalar

/-- The names in use, and for each wanted name the last number that was tried behind it. -/
structure Names where
  used : List Name
  counters : List (Name × Nat)
  deriving DecidableEq, Repr

namespace Names

/-- Only the empty name is taken from the start, so that nothing stays without a name. -/
def empty : Names := ⟨[.text ""], []⟩

/-- A wanted name with a number, which is always a text. -/
def numbered (base : Name) (count : Nat) : Name := .text (base.display ++ "." ++ toString count)

/-- The first number above `count` that makes a free name; among more numbers than used names there
is one. -/
def freeNumber (used : List Name) (base : Name) : (tries count : Nat) → Nat
  | 0, count => count + 1
  | tries + 1, count =>
    if used.contains (numbered base (count + 1)) then freeNumber used base tries (count + 1)
      else count + 1

/-- The last number tried behind a wanted name. -/
def counter (names : Names) (base : Name) : Nat := (names.counters.lookup base).getD 0

/-- Takes the wanted name if it is free, else the name with the next free number. -/
def registerName (names : Names) (base : Name) : Name × Names :=
  if names.used.contains base then
    let number := freeNumber names.used base names.used.length (names.counter base)
    let name := numbered base number
    (name, ⟨name :: names.used, (base, number) :: names.counters.filter (·.1 ≠ base)⟩)
  else (base, { names with used := base :: names.used })

/-- Takes a name for a wanted text, which is a text again. -/
def register (names : Names) (base : String) : String × Names :=
  let (name, names) := names.registerName (.text base)
  (name.display, names)

/-- Takes a name for something that prints without one. -/
def registerUnnamed (names : Names) : Names := (names.register "").2

end Names

end LoopLang.Code
