import Mathlib
import ModeChoice.Number.Exact

/-!
# The order of doubles

Doubles that are numbers stand in a row: negative infinity, the negative ones, both
zeros on one place, the positive ones, and infinity.  Significand and exponent of a
double are normalised, so that of two positive ones the larger exponent decides, and
only then the significand.  `rank` is the place in this row, and `≤` on doubles is
the order of places.  What is no number has no place: it is below nothing, not even
below itself.
-/

namespace ModeChoice.Number

open Float.Model

/-- The place of a double among all numbers: first the side of zero, then the
exponent, then the significand. -/
def rank : UnpackedFloat → ℤ ×ₗ ℤ ×ₗ ℤ
  | .infinity .negative => toLex (-2, toLex (0, 0))
  | .finite .negative significand exponent _ => toLex (-1, toLex (-exponent, -significand))
  | .notANumber | .zero _ => toLex (0, toLex (0, 0))
  | .finite .positive significand exponent _ => toLex (1, toLex (exponent, significand))
  | .infinity .positive => toLex (2, toLex (0, 0))

theorem isLE_compare_then_iff {exponent exponent' : ℤ} {significand significand' : ℕ} :
    ((compare exponent exponent').then (compare significand significand')).isLE = true ↔
      exponent < exponent' ∨ exponent = exponent' ∧ significand ≤ significand' := by
  rw [Ordering.isLE_then_iff_or, Int.compare_eq_lt, Int.compare_eq_eq, Nat.isLE_compare]

theorem isGE_compare_then_iff {exponent exponent' : ℤ} {significand significand' : ℕ} :
    ((compare exponent exponent').then (compare significand significand')).isGE = true ↔
      exponent' < exponent ∨ exponent = exponent' ∧ significand' ≤ significand := by
  rw [← Ordering.isLE_swap, Ordering.swap_then, Int.compare_swap, Nat.compare_swap, isLE_compare_then_iff, eq_comm]

/-- Unpacked doubles that are numbers compare by their places. -/
theorem isLE_compare_iff {first second : UnpackedFloat} (number : first.isNaN = false)
    (number' : second.isNaN = false) :
    (first.compare second).any (·.isLE) = true ↔ rank first ≤ rank second := by
  rcases first with (_ | _) | _ | (_ | _) | ⟨_ | _, _, _, _⟩ <;>
    rcases second with (_ | _) | _ | (_ | _) | ⟨_ | _, _, _, _⟩ <;>
    simp only [UnpackedFloat.isNaN, Bool.true_eq_false] at number number' <;>
    simp [rank, UnpackedFloat.compare, Prod.Lex.toLex_le_toLex, isLE_compare_then_iff,
      isGE_compare_then_iff]
  -- Infinities compare by their signs.
  all_goals rfl

theorem isNaN_left_of_isLE {first second : UnpackedFloat}
    (below : (first.compare second).any (·.isLE) = true) : first.isNaN = false := by
  cases first with
  | notANumber => cases below
  | infinity | zero | finite => rfl

theorem isNaN_right_of_isLE {first second : UnpackedFloat}
    (below : (first.compare second).any (·.isLE) = true) : second.isNaN = false := by
  cases second with
  | notANumber => cases first <;> cases below
  | infinity | zero | finite => rfl

/-- One double is at most another when both are numbers and the places agree. -/
theorem le_iff_rank {first second : Float} :
    first ≤ second ↔ first.isNaN = false ∧ second.isNaN = false ∧
      rank first.toModel.unpack ≤ rank second.toModel.unpack := by
  rw [le_iff]
  constructor
  · intro below
    have number := isNaN_left_of_isLE below
    have number' := isNaN_right_of_isLE below
    exact ⟨number, number', (isLE_compare_iff number number').1 below⟩
  · rintro ⟨number, number', below⟩
    exact (isLE_compare_iff number number').2 below

theorem isNaN_eq_false_of_le {first second : Float} (below : first ≤ second) :
    second.isNaN = false :=
  (le_iff_rank.1 below).2.1

theorem isNaN_left_of_le {first second : Float} (below : first ≤ second) :
    first.isNaN = false :=
  (le_iff_rank.1 below).1

theorem isNaN_eq_false_of_isFinite {x : Float} (finite : x.isFinite = true) :
    x.isNaN = false := by
  change x.toModel.unpack.isFinite = true at finite
  change x.toModel.unpack.isNaN = false
  cases unpacked : x.toModel.unpack with
  | notANumber => rw [unpacked] at finite; cases finite
  | infinity | zero | finite => rfl

theorem le_refl {x : Float} (number : x.isNaN = false) : x ≤ x :=
  le_iff_rank.2 ⟨number, number, le_rfl⟩

theorem le_trans {first second third : Float} (one : first ≤ second) (two : second ≤ third) :
    first ≤ third := by
  rcases le_iff_rank.1 one with ⟨number, _, below⟩
  rcases le_iff_rank.1 two with ⟨_, number', above⟩
  exact le_iff_rank.2 ⟨number, number', below.trans above⟩

theorem compare_swap (first second : UnpackedFloat) :
    (first.compare second).map Ordering.swap = second.compare first := by
  rcases first with (_ | _) | _ | (_ | _) | ⟨_ | _, _, _, _⟩ <;>
    rcases second with (_ | _) | _ | (_ | _) | ⟨_ | _, _, _, _⟩ <;>
    simp [UnpackedFloat.compare, Ordering.swap_then, Int.compare_swap, Nat.compare_swap]
  all_goals rfl

theorem exists_compare {first second : UnpackedFloat} (number : first.isNaN = false)
    (number' : second.isNaN = false) : ∃ order, first.compare second = some order := by
  rcases first with (_ | _) | _ | (_ | _) | ⟨_ | _, _, _, _⟩ <;>
    rcases second with (_ | _) | _ | (_ | _) | ⟨_ | _, _, _, _⟩ <;>
    simp only [UnpackedFloat.isNaN, Bool.true_eq_false] at number number' <;>
    exact ⟨_, rfl⟩

theorem le_of_not_lt {first second : Float} (number : first.isNaN = false)
    (number' : second.isNaN = false) (still : ¬ first < second) : second ≤ first := by
  rcases exists_compare number number' with ⟨order, compared⟩
  rw [lt_iff, compared] at still
  rw [le_iff, ← compare_swap, compared]
  cases order with
  | lt => exact absurd rfl still
  | eq | gt => rfl

theorem lt_of_not_le {first second : Float} (number : first.isNaN = false)
    (number' : second.isNaN = false) (above : ¬ second ≤ first) : first < second := by
  by_contra still
  exact above (le_of_not_lt number number' still)

theorem not_le_of_lt {first second : Float} (less : first < second) : ¬ second ≤ first := by
  rw [le_iff, ← compare_swap, lt_iff.1 less]
  decide

theorem lt_of_lt_of_le {first second third : Float} (one : first < second)
    (two : second ≤ third) : first < third := by
  apply lt_of_not_le (isNaN_left_of_le (le_of_lt one)) (isNaN_eq_false_of_le two)
  intro above
  exact not_le_of_lt one (le_trans two above)

/-- Numbers that are at most each other are equal as numbers, if not as bits: there are
two zeros. -/
theorem beq_of_le_of_le {first second : Float} (one : first ≤ second) (two : second ≤ first) :
    (first == second) = true := by
  rcases exists_compare (isNaN_eq_false_of_le two) (isNaN_eq_false_of_le one) with
    ⟨order, compared⟩
  rw [le_iff, compared] at one
  rw [le_iff, ← compare_swap, compared] at two
  change (first.toModel.unpack.compare second.toModel.unpack == some .eq) = true
  rw [compared]
  cases order with
  | eq => rfl
  | lt => cases two
  | gt => cases one

/-- The larger of a number and something else is not below the number. -/
theorem le_larger {first : Float} (second : Float) (number : first.isNaN = false) :
    first ≤ larger first second := by
  unfold larger
  split
  · rename_i absent
    rw [number] at absent
    cases absent
  · split
    · rename_i less
      exact le_of_lt less
    · exact le_refl number

theorem le_larger_right {first second : Float} (number : first.isNaN = false)
    (number' : second.isNaN = false) : second ≤ larger first second := by
  unfold larger
  split
  · exact le_refl number'
  · split
    · exact le_refl number'
    · rename_i still
      exact le_of_not_lt number number' still

theorem larger_le {first second third : Float} (one : first ≤ third) (two : second ≤ third) :
    larger first second ≤ third := by
  unfold larger
  split
  · exact two
  · split
    · exact two
    · exact one

theorem larger_le_larger {first first' second second' : Float} (one : first ≤ first')
    (two : second ≤ second') : larger first second ≤ larger first' second' := by
  have number := isNaN_eq_false_of_le one
  have number' := isNaN_eq_false_of_le two
  exact larger_le (le_trans one (le_larger _ number))
    (le_trans two (le_larger_right number number'))

theorem smaller_le_left {first second : Float} (number : first.isNaN = false) :
    smaller first second ≤ first := by
  unfold smaller
  split
  · rename_i absent
    rw [number] at absent
    cases absent
  · split
    · rename_i less
      exact le_of_lt less
    · exact le_refl number

theorem smaller_le_right {first second : Float} (number : first.isNaN = false)
    (number' : second.isNaN = false) : smaller first second ≤ second := by
  unfold smaller
  split
  · exact le_refl number'
  · split
    · exact le_refl number'
    · rename_i still
      exact le_of_not_lt number' number still

theorem le_smaller {first second third : Float} (one : third ≤ first) (two : third ≤ second) :
    third ≤ smaller first second := by
  unfold smaller
  split
  · exact two
  · split
    · exact two
    · exact one

end ModeChoice.Number
