/-! Classes of characters: stretches of code points, decimal digits of every script, and blanks, at
which texts are cut. -/

namespace LoopLang

/-! Stretches of code points. -/

/--
Whether a code point lies in one of the stretches from index `low` on and before index `high`, which
are halved at most `steps` times; each stretch is given by its first and last code point, in
ascending order.
-/
def inStretchesBetween (stretches : Array (Nat × Nat)) (code : Nat) : (steps low high : Nat) → Bool
  | 0, _, _ => false
  | steps + 1, low, high =>
    if low < high then
      let middle := (low + high) / 2
      let (first, last) := stretches.getD middle (0, 0)
      if code < first then inStretchesBetween stretches code steps low middle
      else if last < code then inStretchesBetween stretches code steps (middle + 1) high
      else true
    else false

/-- Whether a code point lies in one of some stretches. -/
def inStretches (stretches : Array (Nat × Nat)) (code : Nat) : Bool :=
  inStretchesBetween stretches code (stretches.size + 1) 0 stretches.size

/-! Decimal digits. -/

/-- The code points of the digit zero in each script; the nine other digits follow each of them in
order. -/
def digitZeros : List Nat :=
  [0x0030, 0x0660, 0x06F0, 0x07C0, 0x0966, 0x09E6, 0x0A66, 0x0AE6, 0x0B66, 0x0BE6,
   0x0C66, 0x0CE6, 0x0D66, 0x0DE6, 0x0E50, 0x0ED0, 0x0F20, 0x1040, 0x1090, 0x17E0,
   0x1810, 0x1946, 0x19D0, 0x1A80, 0x1A90, 0x1B50, 0x1BB0, 0x1C40, 0x1C50, 0xA620,
   0xA8D0, 0xA900, 0xA9D0, 0xA9F0, 0xAA50, 0xABF0, 0xFF10, 0x104A0, 0x10D30, 0x11066,
   0x110F0, 0x11136, 0x111D0, 0x112F0, 0x11450, 0x114D0, 0x11650, 0x116C0, 0x11730, 0x118E0,
   0x11950, 0x11C50, 0x11D50, 0x11DA0, 0x16A60, 0x16AC0, 0x16B50, 0x1D7CE, 0x1D7D8, 0x1D7E2,
   0x1D7EC, 0x1D7F6, 0x1E140, 0x1E2F0, 0x1E950, 0x1FBF0]

/-- The value of a decimal digit of any script. -/
def digitValue? (char : Char) : Option Nat :=
  (digitZeros.find? fun first => first ≤ char.toNat && char.toNat < first + 10).map (char.toNat - ·)

/-- Whether a character is a decimal digit of some script. -/
def isDigit (char : Char) : Bool := (digitValue? char).isSome

/-- The number that a row of digits writes in base ten; other characters count as zero. -/
def digitsValue (digits : List Char) : Nat :=
  digits.foldl (fun value digit => value * 10 + (digitValue? digit).getD 0) 0

/-! Blanks. -/

/-- The characters that separate words in any script, line ends and the separators of records among
them. -/
def isBlank (char : Char) : Bool :=
  let code := char.toNat
  (0x09 ≤ code && code ≤ 0x0D) || (0x1C ≤ code && code ≤ 0x20) ||
    (0x2000 ≤ code && code ≤ 0x200A) ||
    [0x85, 0xA0, 0x1680, 0x2028, 0x2029, 0x202F, 0x205F, 0x3000].contains code

/-- A text without the characters of a class at its two ends. -/
def trimOf (belongs : Char → Bool) (text : List Char) : List Char :=
  ((text.dropWhile belongs).reverse.dropWhile belongs).reverse

/-- A text without the blanks at its two ends. -/
def trim (text : List Char) : List Char := trimOf isBlank text

/--
The parts of a text between the occurrences of a mark, found from left to right; `skip` characters
belong to the last occurrence, and `current` is the part so far, in reverse.
-/
def partsFrom (mark : List Char) :
    (skip : Nat) → (current : List Char) → List Char → List (List Char)
  | _, current, [] => [current.reverse]
  | skip + 1, current, _ :: rest => partsFrom mark skip current rest
  | 0, current, char :: rest =>
    if mark.isPrefixOf (char :: rest)
      then current.reverse :: partsFrom mark (mark.length - 1) [] rest
    else partsFrom mark 0 (char :: current) rest

/-- The parts of a text between the occurrences of a mark. -/
def partsBetween (mark text : List Char) : List (List Char) := partsFrom mark 0 [] text

/-- The parts of a text between the occurrences of a character. -/
def partsAt (char : Char) (text : List Char) : List (List Char) := partsBetween [char] text

end LoopLang
