/-! The shortest decimal that reads back as a given binary number. -/

namespace LoopLang

/-- A decimal `significand * 10 ^ exponent`. -/
structure Decimal where
  significand : Nat
  exponent : Int
  deriving DecidableEq, Repr

/-- A fraction of natural numbers; the denominator is positive wherever this module makes one. -/
structure Fraction where
  numerator : Nat
  denominator : Nat

/-- The fraction `count * base ^ exponent`. -/
def Fraction.scaled (count base : Nat) (exponent : Int) : Fraction :=
  if 0 ≤ exponent then ⟨count * base.pow exponent.toNat, 1⟩ else ⟨count, base.pow (-exponent).toNat⟩

/-- The number of decimal digits of a natural number, which is one for zero. -/
def decimalLength (value : Nat) : Nat := (Nat.toDigits 10 value).length

/-- The exponent of the leading decimal digit of a positive fraction. -/
def Fraction.leadingExponent (value : Fraction) : Int :=
  if value.denominator ≤ value.numerator then
    (decimalLength (value.numerator / value.denominator) : Int) - 1
  else
    -- Below one the exponent counts how often ten must multiply the fraction to reach one.
    let inverse := (value.denominator + value.numerator - 1) / value.numerator
    Int.negOfNat (decimalLength (inverse - 1))

/--
A positive binary number `significand * 2 ^ exponent` with the numbers that round to it.
Below a power of two the next smaller binary number is only half as far away.
-/
structure Binary where
  significand : Nat
  exponent : Int
  narrowBelow : Bool

namespace Binary

/-- The number in quarters of its last place. -/
def quarters (value : Binary) : Nat := 4 * value.significand

/-- Whether a decimal rounds to the binary number; the two midpoints do when the significand is
even. -/
def admits (value : Binary) (decimal : Decimal) : Bool :=
  let low := Fraction.scaled (value.quarters - (if value.narrowBelow then 1 else 2)) 2
    (value.exponent - 2)
  let high := Fraction.scaled (value.quarters + 2) 2 (value.exponent - 2)
  let candidate := Fraction.scaled decimal.significand 10 decimal.exponent
  let belowHigh := candidate.numerator * high.denominator
  let aboveLow := candidate.numerator * low.denominator
  let highEnd := high.numerator * candidate.denominator
  let lowEnd := low.numerator * candidate.denominator
  if value.significand % 2 = 0 then lowEnd ≤ aboveLow && belowHigh ≤ highEnd
  else lowEnd < aboveLow && belowHigh < highEnd

/-- The nearest decimal of the given exponent among the two neighbours that round to the number; an
exact tie goes to the even one. -/
def nearest? (value : Binary) (exponent : Int) : Option Decimal :=
  let scaled := Fraction.scaled value.significand 2 value.exponent
  let unit := Fraction.scaled 1 10 exponent
  let numerator := scaled.numerator * unit.denominator
  let denominator := scaled.denominator * unit.numerator
  let below := numerator / denominator
  let lower : Decimal := ⟨below, exponent⟩
  let upper : Decimal := ⟨below + 1, exponent⟩
  let remainder := 2 * (numerator % denominator)
  -- A tie goes to the even digit.
  let preferUpper := denominator < remainder || (denominator = remainder && below % 2 = 1)
  match value.admits lower, value.admits upper with
  | true, true => some (if preferUpper then upper else lower)
  | true, false => some lower
  | false, true => some upper
  | false, false => none

/-- The shortest decimal with at most `more` further digits after the `used` ones that were not
enough. -/
def shortestFrom (value : Binary) (leading : Int) : (more used : Nat) → Decimal
  | 0, _ => ⟨value.significand, 0⟩
  | more + 1, used =>
    match value.nearest? (leading - used) with
    | some decimal => decimal
    | none => shortestFrom value leading more (used + 1)

/-- The decimal with the fewest digits that reads back as the number; seventeen digits always
suffice. -/
def shortest (value : Binary) : Decimal :=
  shortestFrom value (Fraction.scaled value.significand 2 value.exponent).leadingExponent 17 0

end Binary

/-- A double as it is encoded. -/
inductive DoubleClass
  | notANumber
  | infinite (negative : Bool)
  | zero (negative : Bool)
  | finite (negative : Bool) (magnitude : Binary)

/-- Reads the sign, exponent and fraction of a double. -/
def DoubleClass.ofFloat (value : Float) : DoubleClass :=
  let bits : Nat := value.toBits.toNat
  let negative := decide (Nat.pow 2 63 ≤ bits)
  let biased : Nat := bits / Nat.pow 2 52 % Nat.pow 2 11
  let fraction : Nat := bits % Nat.pow 2 52
  if biased = 2047 then
    if fraction = 0 then .infinite negative else .notANumber
  else if biased = 0 then
    if fraction = 0 then .zero negative else .finite negative ⟨fraction, -1074, false⟩
  else
    .finite negative ⟨Nat.pow 2 52 + fraction, (biased : Int) - 1075, fraction = 0 && 1 < biased⟩

end LoopLang
