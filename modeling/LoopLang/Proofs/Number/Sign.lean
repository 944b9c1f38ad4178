import Mathlib
import LoopLang.Number.Text

/-! Numbers that are read from digits have no sign, so they are the same as soon as they compare as
equal. -/

namespace LoopLang

open Float (Model)
open Float.Model (UnpackedFloat)
open Float.Model.UnpackedFloat (Accuracy Sign unpackSign unpackSign_packComponents)

/-- A value with the positive sign, as far as it has one. -/
def HasNoSign : UnpackedFloat → Prop
  | .notANumber => True
  | .infinity sign | .zero sign | .finite sign .. => sign = .positive

/-- Bits without a sign are unpacked to a value without one. -/
theorem hasNoSign_unpack {spec : Model.Format} {bits : BitVec spec.numBits}
    (positive : unpackSign bits = Sign.positive.toBitVec) :
    HasNoSign (UnpackedFloat.unpack spec bits) := by
  have sign : Sign.ofBitVec (unpackSign bits) = .positive := by rw [positive]; rfl
  unfold UnpackedFloat.unpack
  simp only [sign]
  -- Not a number, infinite, zero, or a finite value: the sign is looked at in the last three.
  split
  · split <;> trivial
  · split
    · split <;> trivial
    · trivial

namespace HasNoSign

variable {spec : Model.Format} {first second : UnpackedFloat}

/-- A value without a sign has none when it is packed and unpacked again, for it is packed with a
positive sign bit. -/
theorem pack (unsigned : HasNoSign first) : HasNoSign (Model.pack first).unpack := by
  refine hasNoSign_unpack ?_
  show unpackSign (UnpackedFloat.pack Model.Format.binary64 first) = _
  -- Whatever the value is packed to, its sign bit is that of the value.
  cases first with
  | notANumber => exact unpackSign_packComponents ..
  | infinity sign => cases unsigned; exact unpackSign_packComponents ..
  | zero sign => cases unsigned; exact unpackSign_packComponents ..
  | finite sign mantissa exponent positive =>
    cases unsigned
    simp only [UnpackedFloat.pack]
    split
    · exact unpackSign_packComponents ..
    · split <;> exact unpackSign_packComponents ..

/-- Rounding keeps the sign. -/
theorem round (mantissa : Nat) (exponent : Int) (accuracy : Accuracy) :
    HasNoSign (UnpackedFloat.roundWithAccuracy spec .positive mantissa exponent accuracy) := by
  simp only [UnpackedFloat.roundWithAccuracy]
  split <;> trivial

/-- The product of values without a sign has none. -/
theorem mul (one : HasNoSign first) (other : HasNoSign second) :
    HasNoSign (UnpackedFloat.mul spec first second) := by
  cases first <;> cases second <;> cases one <;> cases other <;> first | trivial | exact round ..

/-- So does their quotient. -/
theorem div (one : HasNoSign first) (other : HasNoSign second) :
    HasNoSign (UnpackedFloat.div spec first second) := by
  cases first <;> cases second <;> cases one <;> cases other <;> first | trivial | exact round ..

/-- A natural number has no sign. -/
theorem ofNat (value : Nat) : HasNoSign (UnpackedFloat.ofNat spec value) := by
  simp only [UnpackedFloat.ofNat, UnpackedFloat.ofInt, UnpackedFloat.normalize]
  split
  -- A natural number is not below zero.
  · rename_i negative
    rw [compare_lt_iff_lt] at negative
    omega
  · trivial
  · exact round ..

/-- A decimal without a sign gives a number without one. -/
theorem ofScientific (significand : Nat) (exponent : Int) :
    HasNoSign (UnpackedFloat.ofScientific spec significand exponent) := by
  simp only [UnpackedFloat.ofScientific]
  -- A value that is too large or too small is still without a sign.
  split
  · trivial
  · split
    · trivial
    · split
      · trivial
      · split
        · exact mul rfl rfl
        · exact div rfl rfl

end HasNoSign

/-- A double that is neither negative nor the negative zero. -/
def IsUnsigned (value : Float) : Prop := HasNoSign value.toModel.unpack

namespace IsUnsigned

/-- Doubles without a sign are the same if they compare as equal, for only the two zeros are not. -/
theorem eq_of_beq {first second : Float} (one : IsUnsigned first) (other : IsUnsigned second)
    (equal : (first == second) = true) : first = second := by
  -- Equal numbers are the same, but for the two zeros, one of which has a sign.
  have apart : ¬ IsUnsigned (-0) := by
    have zero : (-0 : Float).toModel.unpack = .zero .negative := by rfl
    rw [IsUnsigned, zero]
    exact nofun
  obtain ⟨-, -, same | ⟨-, rfl⟩ | ⟨rfl, -⟩⟩ := Float.beq_iff_ne_nan_and_eq.mp equal
  · exact same
  · exact absurd other apart
  · exact absurd one apart

/-- A decimal gives a double without a sign. -/
theorem ofScientific (significand : Nat) (isNegative : Bool) (exponent : Nat) :
    IsUnsigned (Float.ofScientific significand isNegative exponent) := by
  -- The powers of ten in the table are written without a sign.
  have powers : ∀ index (inside : index < Float.exactlyRepresentablePowersOfTen.size),
      IsUnsigned Float.exactlyRepresentablePowersOfTen[index] := by
    have signs : ∀ index (inside : index < Float.exactlyRepresentablePowersOfTen.size),
        @unpackSign Model.Format.binary64
        Float.exactlyRepresentablePowersOfTen[index].toModel.toBits.toBitVec =
          Sign.positive.toBitVec := by decide
    exact fun index inside => hasNoSign_unpack (signs index inside)
  unfold Float.ofScientific
  -- Small numbers are multiplied or divided exactly, all others are rounded once.
  split
  · split
    · exact .pack (.div (.pack (.ofNat _)) (powers _ _))
    · exact .pack (.mul (.pack (.ofNat _)) (powers _ _))
  · exact .pack (.ofScientific _ _)

/-- The double nearest to a decimal has no sign. -/
theorem nearestDouble (significand : Nat) (exponent : Int) :
    IsUnsigned (nearestDouble significand exponent) := by
  have zero : IsUnsigned 0.0 := by rfl
  simp only [LoopLang.nearestDouble]
  -- Zero, a number that is scaled in either direction, or one that is too small.
  split
  · exact zero
  · split
    · exact ofScientific ..
    · split
      · exact zero
      · split <;> exact ofScientific ..

end IsUnsigned

end LoopLang
