import Mathlib.Algebra.Order.Field.Power
import Mathlib.Data.Rat.Cast.Order
import Mathlib.Tactic.Linarith
import Mathlib.Tactic.Positivity
import Mathlib.Tactic.Ring
import ModeChoice.Proofs.Number.Digits

/-!
# Doubles with a set number of places

A double that is written with a set number of places comes down to a number of units of
the last place, the nearest one to its value.  This is what the text tells, and it can be
read back from it; the sign is there even where the number is zero.
-/

namespace ModeChoice.Number

/-- What is left of a double that is written with a set number of places. -/
inductive Rounded where
  | notANumber
  | infinite (negative : Bool)
  /-- A number of units of the last place; zero keeps its sign. -/
  | decimal (negative : Bool) (count : ℕ)
  deriving DecidableEq

/-- The double to a number of places, a half going to the even neighbour. -/
def rounded (places : ℕ) (x : Float) : Rounded :=
  match exact x with
  | .notANumber => .notANumber
  | .infinite negative => .infinite negative
  | .finite negative significand exponent =>
      let (quotient, rest, divisor) := scaled significand exponent places
      .decimal negative (roundHalfEven quotient rest divisor)

/-- The number with places that a text tells. -/
def Rounded.read? (text : String) : Option Rounded :=
  let (negative, rest) := splitSign text.toList
  if rest = notANumberText.toList then some .notANumber
  else if rest = infinityText.toList then some (.infinite negative)
  else (readDecimal? rest).map fun value => .decimal negative value.digits

/-- What is written of a double with places is the double, or a decimal with its sign that is
at most half a unit of the last place away. -/
def Rounded.IsNear (written : Rounded) (places : ℕ) (x : Float) : Prop :=
  match exact x with
  | .notANumber => written = .notANumber
  | .infinite negative => written = .infinite negative
  | .finite negative significand exponent =>
      ∃ count, written = .decimal negative count ∧
        |(count : ℚ) / 10 ^ places - significand * 2 ^ exponent| ≤ 1 / 2 / 10 ^ places

/-- The shortest text of the double reads back as the same double. -/
def ReadsBack (x : Float) : Prop :=
  readFloat? (shortest x) = some x

instance (x : Float) : Decidable (ReadsBack x) :=
  inferInstanceAs (Decidable (readFloat? (shortest x) = some x))

/-! ## Reading back -/

theorem splitSign_signed {negative : Bool} {text : String}
    (plain : splitSign text.toList = (false, text.toList)) :
    splitSign (signed negative text).toList = (negative, text.toList) := by
  cases negative with
  | false => exact plain
  | true =>
      rw [signed, if_pos rfl, String.toList_append]
      rfl

theorem read?_pointed {places : ℕ} (positive : 0 < places) (negative : Bool) (count : ℕ) :
    Rounded.read? (signed negative (String.ofList (pointed (Nat.toDigits 10 count) places))) =
      some (.decimal negative count) := by
  let digits := Nat.toDigits 10 count
  have digit : ∀ c ∈ (pointed digits places).head?, c.isDigit = true :=
    isDigit_head?_pointed positive fun _ => isDigit_of_mem_toDigits
  have sign : splitSign (signed negative (String.ofList (pointed digits places))).toList =
      (negative, pointed digits places) := by
    rw [splitSign_signed, String.toList_ofList]
    rw [String.toList_ofList, splitSign_of_isDigit digit]
  -- The names begin with a letter, and digits do not.
  have unnamed (c : Char) (name : List Char) (letter : c.isDigit = false) :
      pointed digits places ≠ c :: name := by
    intro same
    rw [same] at digit
    exact absurd (digit c rfl) (by simp [letter])
  have number : pointed digits places ≠ notANumberText.toList :=
    unnamed 'N' _ rfl
  have finite : pointed digits places ≠ infinityText.toList :=
    unnamed 'i' _ rfl
  have value : readDecimal? (pointed digits places) = some ⟨count, -places⟩ :=
    readDecimal?_pointed positive count
  show Rounded.read? (signed negative (String.ofList (pointed digits places))) = _
  simp only [Rounded.read?, sign, if_neg number, if_neg finite, value, Option.map_some]

/-- What a double is to a number of places comes back from its text. -/
theorem read?_fixed {places : ℕ} (positive : 0 < places) (x : Float) :
    Rounded.read? (fixed places x) = some (rounded places x) := by
  cases value : exact x with
  | notANumber =>
      simp only [fixed, rounded, value]
      rfl
  | infinite negative =>
      simp only [fixed, rounded, value]
      cases negative <;> rfl
  | finite negative significand exponent =>
      simp only [fixed, rounded, value]
      exact read?_pointed positive negative _

/-! ## Nearness -/

theorem zpow_mul_pow_neg (base : ℚ) (nonzero : base ≠ 0) (power : ℤ) :
    base ^ power * base ^ (-power).toNat = base ^ power.toNat := by
  rw [← zpow_natCast, ← zpow_natCast, ← zpow_add₀ nonzero]
  congr 1
  omega

theorem scaled_eq (significand : ℕ) (exponent power : ℤ) {quotient rest divisor : ℕ}
    (parts : scaled significand exponent power = (quotient, rest, divisor)) :
    0 < divisor ∧ rest < divisor ∧
      (quotient * divisor + rest : ℚ) =
        significand * 2 ^ exponent * 10 ^ power * divisor := by
  simp only [scaled, Nat.pow_eq, Prod.mk.injEq] at parts
  rcases parts with ⟨rfl, rfl, rfl⟩
  let numerator := significand * 2 ^ exponent.toNat * 10 ^ power.toNat
  let divisor := 2 ^ (-exponent).toNat * 10 ^ (-power).toNat
  have positive : 0 < divisor := by positivity
  refine ⟨positive, Nat.mod_lt _ positive, ?_⟩
  have parts : ((numerator / divisor * divisor + numerator % divisor : ℕ) : ℚ) = numerator :=
    congrArg _ (Nat.div_add_mod' _ _)
  have twos := zpow_mul_pow_neg 2 (by norm_num) exponent
  have tens := zpow_mul_pow_neg 10 (by norm_num) power
  push_cast [numerator, divisor] at parts ⊢
  rw [parts, ← twos, ← tens]
  ring

theorem roundHalfEven_near (quotient : ℕ) {rest divisor : ℕ} (proper : rest < divisor) :
    2 * (roundHalfEven quotient rest divisor * divisor) ≤
        2 * (quotient * divisor + rest) + divisor ∧
      2 * (quotient * divisor + rest) ≤
        2 * (roundHalfEven quotient rest divisor * divisor) + divisor := by
  unfold roundHalfEven
  split
  · omega
  · split
    · rw [Nat.add_mul]
      omega
    · rcases Nat.mod_two_eq_zero_or_one quotient with even | odd
      · rw [even, Nat.add_zero]
        omega
      · rw [odd, Nat.add_mul]
        omega

theorem roundHalfEven_scaled_near {significand : ℕ} {exponent : ℤ} {places : ℕ}
    {quotient rest divisor : ℕ}
    (parts : scaled significand exponent places = (quotient, rest, divisor)) :
    |(roundHalfEven quotient rest divisor : ℚ) / 10 ^ places - significand * 2 ^ exponent| ≤
      1 / 2 / 10 ^ places := by
  rcases scaled_eq significand exponent places parts with ⟨positive, proper, exactly⟩
  rcases roundHalfEven_near quotient proper with ⟨above, below⟩
  generalize roundHalfEven quotient rest divisor = count at above below ⊢
  rw [zpow_natCast] at exactly
  have divisor_pos : (0 : ℚ) < divisor := by exact_mod_cast positive
  have unit_pos : (0 : ℚ) < 10 ^ places := by positivity
  have above : 2 * (count * divisor : ℚ) ≤ 2 * (quotient * divisor + rest) + divisor := by
    exact_mod_cast above
  have below : 2 * (quotient * divisor + rest : ℚ) ≤ 2 * (count * divisor) + divisor := by
    exact_mod_cast below
  rw [exactly] at above below
  have near : |(count : ℚ) - significand * 2 ^ exponent * 10 ^ places| ≤ 1 / 2 := by
    rw [abs_le]
    constructor
    · refine le_of_mul_le_mul_right ?_ divisor_pos
      linarith
    · refine le_of_mul_le_mul_right ?_ divisor_pos
      linarith
  calc |(count : ℚ) / 10 ^ places - significand * 2 ^ exponent|
      = |(count : ℚ) - significand * 2 ^ exponent * 10 ^ places| / 10 ^ places := by
        rw [← abs_of_pos unit_pos, ← abs_div, abs_of_pos unit_pos, sub_div,
          mul_div_cancel_right₀ _ unit_pos.ne']
    _ ≤ 1 / 2 / 10 ^ places := div_le_div_of_nonneg_right near unit_pos.le

/-- What is written of a double is as near to it as its places allow. -/
theorem rounded_isNear (places : ℕ) (x : Float) : (rounded places x).IsNear places x := by
  cases value : exact x with
  | notANumber => simp only [rounded, Rounded.IsNear, value]
  | infinite negative => simp only [rounded, Rounded.IsNear, value]
  | finite negative significand exponent =>
      simp only [rounded, Rounded.IsNear, value]
      exact ⟨_, rfl, roundHalfEven_scaled_near rfl⟩

end ModeChoice.Number
