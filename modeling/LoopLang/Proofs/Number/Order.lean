import LoopLang.Proofs.Number.Sign

/-! How doubles are ordered: all that are numbers stand in one line, and nothing is ordered with
what is no number. -/

namespace LoopLang

open Float.Model (UnpackedFloat)

/-- Where a number stands in line: by its sign and its sort, then by its exponent, then by its
mantissa. -/
def standing : UnpackedFloat → ℤ ×ₗ ℤ ×ₗ ℤ
  | .infinity .negative => toLex (-2, toLex (0, 0))
  | .finite .negative mantissa exponent _ => toLex (-1, toLex (-exponent, -mantissa))
  | .notANumber | .zero _ => toLex (0, toLex (0, 0))
  | .finite .positive mantissa exponent _ => toLex (1, toLex (exponent, mantissa))
  | .infinity .positive => toLex (2, toLex (0, 0))

/-- Natural numbers compare as the integers that they are. -/
theorem compare_cast (first second : ℕ) : compare (first : ℤ) second = compare first second := by
  simpa only [cmp_eq_compare] using (Nat.strictMono_cast (α := ℤ)).cmp_map_eq first second

/-- Opposite numbers compare the other way round. -/
theorem compare_neg (first second : ℤ) :
    compare (-first) (-second) = (compare first second).swap := by
  have opposite : StrictAnti fun value : ℤ => -value := fun _ _ => neg_lt_neg
  have turned : compare first second = (compare second first).swap := Std.OrientedCmp.eq_swap
  rw [turned, Ordering.swap_swap]
  simpa only [cmp_eq_compare] using opposite.cmp_map_eq first second

/-- Two numbers compare as the places where they stand. -/
theorem compare_standing {first second : UnpackedFloat} (one : first ≠ .notANumber)
    (other : second ≠ .notANumber) :
    first.compare second = some (compare (standing first) (standing second)) := by
  -- Sign and sort decide, unless both numbers are finite and have the same sign.
  rcases first with (_ | _) | _ | _ | ⟨_ | _, mantissa, exponent, _⟩ <;>
    rcases second with (_ | _) | _ | _ | ⟨_ | _, mantissa', exponent', _⟩ <;>
    first | contradiction | rfl | skip
  · simp [UnpackedFloat.compare, standing, Prod.Lex.compare_def, compareLex, compareOn, compare_neg,
      compare_cast, Ordering.swap_then]
  · simp [UnpackedFloat.compare, standing, Prod.Lex.compare_def, compareLex, compareOn,
      compare_cast]

/-- A double that is a number, which may be infinite. -/
def IsNumber (value : Float) : Prop := value.toModel.unpack ≠ .notANumber

/-- The order of two doubles, if they are numbers. -/
theorem compare_eq_some_iff {first second : Float} {order : Ordering} :
    first.toModel.unpack.compare second.toModel.unpack = some order ↔
      IsNumber first ∧ IsNumber second ∧ compare (standing first.toModel.unpack)
        (standing second.toModel.unpack) = order := by
  unfold IsNumber
  generalize first.toModel.unpack = one, second.toModel.unpack = other
  -- Two numbers are compared by where they stand in the order.
  by_cases numbers : one ≠ .notANumber ∧ other ≠ .notANumber
  · simp [compare_standing numbers.1 numbers.2, numbers]
  -- Without two numbers there is no order.
  · have none : one.compare other = none := by
      cases one <;> cases other <;> simp_all [UnpackedFloat.compare]
    simp only [none, reduceCtorEq, false_iff]
    exact fun ⟨one, other, _⟩ => numbers ⟨one, other⟩

variable {first second : Float}

/-- One double is below another if both are numbers and it stands in front of the other. -/
theorem lt_iff_standing : first < second ↔
    IsNumber first ∧ IsNumber second ∧ standing first.toModel.unpack <
      standing second.toModel.unpack := by
  have unfolded : first < second ↔
      (first.toModel.unpack.compare second.toModel.unpack == some .lt) = true :=
    decide_eq_true_iff
  rw [unfolded, beq_iff_eq, compare_eq_some_iff, compare_lt_iff_lt]

/-- What is at least as great as something is a number. -/
theorem isNumber_of_le (ordered : first ≤ second) : IsNumber second := by
  have unfolded : first ≤ second ↔
      (first.toModel.unpack.compare second.toModel.unpack).any (·.isLE) = true :=
    decide_eq_true_iff
  obtain ⟨order, compared, -⟩ := (Option.any_eq_true ..).mp (unfolded.mp ordered)
  exact (compare_eq_some_iff.mp compared).2.1

/-- Doubles are ordered strictly: none is below itself, and what is below a double that is below a
third one is below that. -/
instance isStrictOrder_lt : IsStrictOrder Float (· < ·) where
  irrefl value below := lt_irrefl _ (lt_iff_standing.mp below).2.2
  trans first second third below above := by
    obtain ⟨one, -, front⟩ := lt_iff_standing.mp below
    obtain ⟨-, other, behind⟩ := lt_iff_standing.mp above
    exact lt_iff_standing.mpr ⟨one, other, front.trans behind⟩

/-- Of two numbers without a sign that differ one is below the other. -/
theorem IsUnsigned.lt_or_eq_or_lt (unsigned : IsUnsigned first) (unsigned_too : IsUnsigned second)
    (one : IsNumber first) (other : IsNumber second) :
    first < second ∨ first = second ∨ second < first := by
  rcases lt_trichotomy (standing first.toModel.unpack)
    (standing second.toModel.unpack) with front | same | behind
  · exact .inl (lt_iff_standing.mpr ⟨one, other, front⟩)
  -- What stands in the same place compares as equal.
  · have equal := compare_eq_some_iff.mpr ⟨one, other, compare_eq_iff_eq.mpr same⟩
    exact .inr
      (.inl (unsigned.eq_of_beq unsigned_too ((beq_iff_eq (b := some Ordering.eq)).mpr equal)))
  · exact .inr (.inr (lt_iff_standing.mpr ⟨other, one, behind⟩))

end LoopLang
