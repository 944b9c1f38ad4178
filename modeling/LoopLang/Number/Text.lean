import LoopLang.Number.Shortest
import LoopLang.Source.Character

/-! Numbers as text: how a double is written, how one is read, and its bits in hexadecimal. -/

namespace LoopLang

/-- The decisions of a number format beyond its digits. -/
structure NumberFormat where
  /-- Leading exponents from here on are written positionally. -/
  positionalFrom : Int
  /-- Leading exponents from here on are written with an exponent again. -/
  positionalBelow : Int
  /-- The least number of digits of a written exponent. -/
  exponentDigits : Nat
  infinity : String
  notANumber : String

/-- Numbers in messages and answers: positional from `0.0001` up to sixteen digits. -/
def NumberFormat.display : NumberFormat := ⟨-4, 16, 2, "inf", "nan"⟩

/-- Numbers in dumped documents differ only in the words for what is not finite. -/
def NumberFormat.document : NumberFormat := ⟨-4, 16, 2, "Infinity", "NaN"⟩

/-- A text filled up on the left to the given length. -/
def padLeft (width : Nat) (fill : Char) (text : String) : String :=
  String.ofList (List.replicate (width - text.length) fill) ++ text

/-- Strips the zeros at the end of a row of digits, but never the first digit. -/
def stripZeros (digits : List Char) : List Char :=
  match digits with
  | [] => []
  | first :: rest => first :: (rest.reverse.dropWhile (· = '0')).reverse

/-- Writes an exponent with its sign. -/
def NumberFormat.renderExponent (format : NumberFormat) (exponent : Int) : String :=
  (if exponent < 0 then "e-" else "e+") ++ padLeft format.exponentDigits '0'
    (toString exponent.natAbs)

/-- Writes a positive decimal. -/
def NumberFormat.renderDecimal (format : NumberFormat) (decimal : Decimal) : String :=
  let all := Nat.toDigits 10 decimal.significand
  let leading : Int := decimal.exponent + all.length - 1
  let digits := stripZeros all
  if leading < format.positionalFrom || format.positionalBelow ≤ leading then
    let fraction := digits.drop 1
    let point := if fraction.isEmpty then [] else '.' :: fraction
    String.ofList (digits.take 1 ++ point) ++ format.renderExponent leading
  else if leading < 0 then
    "0." ++ String.ofList (List.replicate (-leading - 1).toNat '0' ++ digits)
  else
    -- The integer part takes one digit more than the exponent says, filled up with zeros.
    let places := leading.toNat + 1
    let integer := digits.take places ++ List.replicate (places - digits.length) '0'
    let fraction := digits.drop places
    String.ofList (integer ++ '.' :: (if fraction.isEmpty then ['0'] else fraction))

/-- Writes a double with the fewest digits that read back. -/
def NumberFormat.render (format : NumberFormat) (value : Float) : String :=
  let signed := fun (negative : Bool) (text : String) => (if negative then "-" else "") ++ text
  match DoubleClass.ofFloat value with
  | .notANumber => format.notANumber
  | .infinite negative => signed negative format.infinity
  | .zero negative => signed negative "0.0"
  | .finite negative magnitude => signed negative (format.renderDecimal magnitude.shortest)

/-- The text of a number in messages and answers. -/
def displayNumber (value : Float) : String := NumberFormat.display.render value

/--
A number as a constant. Its double does not tell which sign a value that is no number was written
with, so that sign is kept beside it.
-/
structure Numeral where
  value : Float
  /-- Whether this is a value that is no number, written with a minus sign. -/
  isNegativeNaN : Bool
  deriving DecidableEq, Repr

/-- A double as a constant. -/
def Numeral.ofFloat (value : Float) : Numeral := ⟨value, false⟩

/-- The bits of the value that is no number and has the negative sign. -/
def negativeNaNBits : Nat := 0xFFF8000000000000

/-- The bits of a constant. -/
def Numeral.bits (numeral : Numeral) : Nat :=
  if numeral.isNegativeNaN then negativeNaNBits else numeral.value.toBits.toNat

/-- The bits of a constant in hexadecimal, filled up with blanks to sixteen characters. -/
def Numeral.hexBits (numeral : Numeral) : String :=
  padLeft 16 ' ' ("0x" ++ String.ofList (Nat.toDigits 16 numeral.bits))

/-- The blanks that may stand around a written number; separators of records are none of them. -/
def isNumberBlank (char : Char) : Bool :=
  isBlank char && !(0x1C ≤ char.toNat && char.toNat ≤ 0x1F)

/-- Underscores may stand only between two digits. -/
def underscoresAllowed (isDigit : Char → Bool) : (before : Option Char) → List Char → Bool
  | _, [] => true
  | before, '_' :: rest =>
    before.any isDigit && rest.head?.any isDigit && underscoresAllowed isDigit (some '_') rest
  | _, char :: rest => underscoresAllowed isDigit (some char) rest

/-- Splits off a sign. -/
def takeSign : List Char → Bool × List Char
  | '-' :: rest => (true, rest)
  | '+' :: rest => (false, rest)
  | text => (false, text)

/-- The exponent that a text spells out after its `e`, which must have a digit. -/
def readExponent? (text : List Char) : Option Int :=
  let (negative, digits) := takeSign text
  if digits.isEmpty || !digits.all isDigit then none
  else some (if negative then -(digitsValue digits : Int) else digitsValue digits)

/--
The double nearest to `significand * 10 ^ exponent`.
Exponents far outside the range of doubles are settled without computing their power of ten.
-/
def nearestDouble (significand : Nat) (exponent : Int) : Float :=
  if significand = 0 then 0.0
  else
    let leading := exponent + decimalLength significand
    if 400 < leading then Float.ofScientific 1 false 400
    else if leading < -400 then 0.0
    else if 0 ≤ exponent then Float.ofScientific significand false exponent.toNat
    else Float.ofScientific significand true (-exponent).toNat

/-- The number that an unsigned decimal text writes: digits, a fraction, an exponent. -/
def readUnsigned? (text : List Char) : Option Float :=
  let integer := text.takeWhile isDigit
  let rest := text.dropWhile isDigit
  let (fraction, rest) :=
    match rest with
    | '.' :: more => (more.takeWhile isDigit, more.dropWhile isDigit)
    | more => ([], more)
  -- There must be a digit on one side of the point.
  if integer.isEmpty && fraction.isEmpty then none
  else
    let exponent? :=
      match rest with
      | [] => some 0
      | char :: more => if char = 'e' || char = 'E' then readExponent? more else none
    exponent?.map fun exponent =>
      nearestDouble (digitsValue (integer ++ fraction)) (exponent - fraction.length)

/-- What is said of an integer that is too large for doubles. -/
def integerTooLargeMessage : String := "int too large to convert to float"

/-- The double nearest to an integer, unless the integer is too large for doubles. -/
def doubleOfInteger? (value : Int) : Option Float :=
  let magnitude := nearestDouble value.natAbs 0
  if magnitude.isInf then none else some (if value < 0 then -magnitude else magnitude)

/--
The constant that a text writes, with blanks around it, a sign, or the words for infinity and
not-a-number in either case; single underscores may separate digits.
-/
def readNumeral? (text : String) : Option Numeral :=
  let (negative, unsigned) := takeSign (trimOf isNumberBlank text.toList)
  let signed := fun (magnitude : Float) =>
    Numeral.ofFloat (if negative then -magnitude else magnitude)
  match String.ofList (unsigned.map Char.toLower) with
  | "inf" | "infinity" => some (signed (1.0 / 0.0))
  | "nan" => some ⟨0.0 / 0.0, negative⟩
  | _ =>
    if underscoresAllowed isDigit none unsigned then
      (readUnsigned? (unsigned.filter (· ≠ '_'))).map signed
    else none

/-- The number that a text writes, read as a constant is. -/
def readNumber? (text : String) : Option Float := (readNumeral? text).map (·.value)

/-- The value of a digit in a base: a decimal digit of any script, or a letter from the tenth on. -/
def digitIn? (base : Nat) (char : Char) : Option Nat :=
  let letter? :=
    if 'a' ≤ char.toLower ∧ char.toLower ≤ 'z'
      then some (char.toLower.toNat - 'a'.toNat + 10) else none
  (digitValue? char <|> letter?).filter (· < base)

/-- The natural number that digits write in a base; single underscores may separate them. -/
def readDigits? (base : Nat) (text : List Char) : Option Nat :=
  let isDigit := fun char => (digitIn? base char).isSome
  let digits := text.filter (· ≠ '_')
  if digits.isEmpty || !digits.all isDigit || !underscoresAllowed isDigit none text then none
  else some (digits.foldl (fun value digit => value * base + (digitIn? base digit).getD 0) 0)

/-- No integer is read from more decimal digits than these. -/
def maxIntegerDigits : Nat := 4300

/-- Why a text gives no integer. -/
inductive IntegerError
  | malformed
  | tooManyDigits (count : Nat)
  deriving DecidableEq, Repr

/-- The natural number that a text writes in base ten. -/
def readDecimal (text : List Char) : Except IntegerError Nat :=
  match readDigits? 10 text with
  | none => .error .malformed
  | some value =>
    let count := (text.filter (· ≠ '_')).length
    if maxIntegerDigits < count then .error (.tooManyDigits count) else .ok value

/-- The integer that a text writes in base ten, with blanks around it, a sign, and underscores
between digits. -/
def readInteger (text : String) : Except IntegerError Int := do
  let (negative, unsigned) := takeSign (trimOf isNumberBlank text.toList)
  let value ← readDecimal unsigned
  return if negative then -(value : Int) else value

/-- The digits behind the letter of a base, in front of which one underscore may stand. -/
def digitsBehind : List Char → List Char
  | '_' :: digits => digits
  | digits => digits

/-- The natural number that a text writes in the base that its start tells; zeros alone may lead in
base ten. -/
def readPrefixed? : List Char → Option Nat
  | '0' :: letter :: digits =>
    match letter.toLower with
    | 'x' => readDigits? 16 (digitsBehind digits)
    | 'o' => readDigits? 8 (digitsBehind digits)
    | 'b' => readDigits? 2 (digitsBehind digits)
    | _ => ((readDecimal ('0' :: letter :: digits)).toOption).filter (· = 0)
  | digits => (readDecimal digits).toOption

/-- The integer that a text writes in the base that its start tells. -/
def readPrefixedInteger? (text : String) : Option Int :=
  let (negative, unsigned) := takeSign (trimOf isNumberBlank text.toList)
  (readPrefixed? unsigned).map fun value => if negative then -(value : Int) else value

end LoopLang
