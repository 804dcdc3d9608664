import ModeChoice.Proofs.Number.Order

/-!
# Rounding doubles

The unit of doubles is the least positive one: every finite double is a whole number of
units, and so is every exact sum of doubles.  Rounding cuts a number of units off at the
exponent that fits its size, and goes to the nearest significand there.

Nothing is said about how near that is.  Two facts carry the arithmetic of doubles as
far as their order goes: rounding is monotone, because cutting off and going to the
nearest significand both are, and the doubles stay where they are.
-/

namespace ModeChoice.Number

open Float.Model UnpackedFloat

/-! ## Normalised doubles -/

/-- A significand and an exponent that belong to a double or, beyond the range of
doubles, would do so if there were larger exponents: at most 53 bits, and as many
unless the exponent is the least one. -/
structure Normalised (significand : ℕ) (exponent : ℤ) : Prop where
  positive : 0 < significand
  bounded : significand < 2 ^ 53
  least : -1074 ≤ exponent
  full : 2 ^ 52 ≤ significand ∨ exponent = -1074

/-- How many units a value has, if it is a whole number of them. -/
def units (significand : ℕ) (exponent : ℤ) : ℕ :=
  significand * 2 ^ (exponent + 1074).toNat

theorem Normalised.units_lt_of_lt {significand significand' : ℕ} {exponent exponent' : ℤ}
    (normal : Normalised significand exponent) (normal' : Normalised significand' exponent')
    (less : exponent < exponent') :
    units significand exponent < units significand' exponent' := by
  have least := normal.least
  have many : 2 ^ 52 ≤ significand' := normal'.full.resolve_right (by omega)
  have room : (exponent + 1074).toNat + 1 ≤ (exponent' + 1074).toNat := by omega
  calc
    significand * 2 ^ (exponent + 1074).toNat
      < 2 ^ 53 * 2 ^ (exponent + 1074).toNat :=
        Nat.mul_lt_mul_of_pos_right normal.bounded (Nat.two_pow_pos _)
    _ = 2 ^ 52 * 2 ^ ((exponent + 1074).toNat + 1) := by ring
    _ ≤ significand' * 2 ^ (exponent' + 1074).toNat :=
        Nat.mul_le_mul many (Nat.pow_le_pow_right (by decide) room)

/-- Of two normalised values the one with more units has the larger exponent, or the
larger significand if the exponents are the same. -/
theorem Normalised.units_le_iff {significand significand' : ℕ} {exponent exponent' : ℤ}
    (normal : Normalised significand exponent) (normal' : Normalised significand' exponent') :
    units significand exponent ≤ units significand' exponent' ↔
      exponent < exponent' ∨ exponent = exponent' ∧ significand ≤ significand' := by
  rcases lt_trichotomy exponent exponent' with less | same | more
  · have below := normal.units_lt_of_lt normal' less
    exact ⟨fun _ => .inl less, fun _ => below.le⟩
  · subst same
    rw [units, units, Nat.mul_le_mul_right_iff (Nat.two_pow_pos _)]
    simp
  · have above := normal'.units_lt_of_lt normal more
    constructor
    · intro below
      omega
    · rintro (less | ⟨same, _⟩) <;> omega

/-! ## Cutting off -/

theorem shiftRight_succ (extended : ExtendedMantissa) (places : ℕ) :
    extended >>> (places + 1) = (extended >>> places).shiftRightOne := rfl

theorem shiftRight_add (extended : ExtendedMantissa) (places more : ℕ) :
    extended >>> (places + more) = extended >>> places >>> more := by
  induction more with
  | zero => rfl
  | succ more ih => rw [← Nat.add_assoc, shiftRight_succ, ih, shiftRight_succ]

theorem mantissa_shiftRight (extended : ExtendedMantissa) (places : ℕ) :
    (extended >>> places).mantissa = extended.mantissa / 2 ^ places := by
  induction places with
  | zero => exact (Nat.div_one _).symm
  | succ places ih =>
      have step : (extended >>> (places + 1)).mantissa = (extended >>> places).mantissa / 2 := rfl
      rw [step, ih, Nat.div_div_eq_div_mul, Nat.pow_succ]

/-- Zeros can be cut off without loss. -/
theorem shiftRight_exact (significand places : ℕ) :
    ExtendedMantissa.ofMantissaAndAccuracy (significand * 2 ^ places) .exact >>> places =
      ExtendedMantissa.ofMantissaAndAccuracy significand .exact := by
  induction places generalizing significand with
  | zero => rw [Nat.pow_zero, Nat.mul_one]; rfl
  | succ places ih =>
      have even : significand * 2 ^ (places + 1) = significand * 2 * 2 ^ places := by ring
      rw [even, shiftRight_succ, ih]
      simp [ExtendedMantissa.ofMantissaAndAccuracy, ExtendedMantissa.shiftRightOne]

/-- The bits of an extended mantissa, read as one number. -/
def grade (extended : ExtendedMantissa) : ℕ :=
  4 * extended.mantissa + 2 * extended.roundBit.toNat + extended.stickyBit.toNat

theorem grade_shiftRightOne (extended : ExtendedMantissa) :
    grade extended.shiftRightOne =
      2 * extended.mantissa + (extended.roundBit || extended.stickyBit).toNat := by
  have last : (extended.mantissa % 2 != 0).toNat = extended.mantissa % 2 := by
    rcases Nat.mod_two_eq_zero_or_one extended.mantissa with even | odd
    · rw [even]
      rfl
    · rw [odd]
      rfl
  simp only [grade, ExtendedMantissa.shiftRightOne, last]
  omega

theorem grade_shiftRightOne_le {first second : ExtendedMantissa}
    (below : grade first ≤ grade second) :
    grade first.shiftRightOne ≤ grade second.shiftRightOne := by
  rw [grade_shiftRightOne, grade_shiftRightOne]
  rcases first with ⟨mantissa, _ | _, _ | _⟩ <;>
    rcases second with ⟨mantissa', _ | _, _ | _⟩ <;>
    simp only [grade, Bool.toNat_true, Bool.toNat_false, Bool.or_true, Bool.or_false] at below ⊢ <;>
    omega

theorem grade_shiftRight_le {first second : ExtendedMantissa}
    (below : grade first ≤ grade second) (places : ℕ) :
    grade (first >>> places) ≤ grade (second >>> places) := by
  induction places with
  | zero => exact below
  | succ places ih => exact grade_shiftRightOne_le ih

theorem mantissa_le_roundedMantissa (extended : ExtendedMantissa) :
    extended.mantissa ≤ extended.roundedMantissa := by
  rcases extended with ⟨mantissa, _ | _, _ | _⟩ <;>
    simp [ExtendedMantissa.roundedMantissa, ExtendedMantissa.accuracy,
      Accuracy.roundToNearestEven]

theorem roundedMantissa_le (extended : ExtendedMantissa) :
    extended.roundedMantissa ≤ extended.mantissa + 1 := by
  rcases extended with ⟨mantissa, _ | _, _ | _⟩ <;>
    simp [ExtendedMantissa.roundedMantissa, ExtendedMantissa.accuracy,
      Accuracy.roundToNearestEven]
  omega

theorem roundedMantissa_mono {first second : ExtendedMantissa}
    (below : grade first ≤ grade second) :
    first.roundedMantissa ≤ second.roundedMantissa := by
  rcases first with ⟨mantissa, _ | _, _ | _⟩ <;>
    rcases second with ⟨mantissa', _ | _, _ | _⟩ <;>
    simp only [grade, Bool.toNat_true, Bool.toNat_false, ExtendedMantissa.roundedMantissa,
      ExtendedMantissa.accuracy, Accuracy.roundToNearestEven] at below ⊢ <;>
    omega

/-! ## The nearest double -/

/-- How many places a number of units loses so that 53 bits are left. -/
def lostPlaces (count : ℕ) : ℕ :=
  count.log2 - 52

/-- A number of units, rounded as doubles are. -/
def nearest (count : ℕ) : ℕ :=
  (ExtendedMantissa.ofMantissaAndAccuracy count .exact >>> lostPlaces count).roundedMantissa *
    2 ^ lostPlaces count

theorem log2_mono {first second : ℕ} (below : first ≤ second) : first.log2 ≤ second.log2 := by
  rw [Nat.log2_eq_log_two, Nat.log2_eq_log_two]
  exact Nat.log_mono_right below

theorem log2_mul_two_pow {significand : ℕ} (positive : 0 < significand) (places : ℕ) :
    (significand * 2 ^ places).log2 = significand.log2 + places := by
  induction places with
  | zero => rw [Nat.pow_zero, Nat.mul_one, Nat.add_zero]
  | succ places ih =>
      have something : significand * 2 ^ places ≠ 0 :=
        (Nat.mul_pos positive (Nat.two_pow_pos _)).ne'
      rw [Nat.pow_succ, ← Nat.mul_assoc, Nat.mul_comm, Nat.log2_two_mul something, ih,
        Nat.add_assoc]

/-- What is left after cutting off has at most 53 bits. -/
theorem cut_lt (count : ℕ) : count / 2 ^ lostPlaces count < 2 ^ 53 := by
  rw [Nat.div_lt_iff_lt_mul (Nat.two_pow_pos _), ← Nat.pow_add]
  apply Nat.lt_of_lt_of_le Nat.lt_log2_self
  exact Nat.pow_le_pow_right (by decide) (by rw [lostPlaces]; omega)

/-- It has as many if anything was cut off. -/
theorem le_cut {count : ℕ} (lost : 0 < lostPlaces count) :
    2 ^ 52 ≤ count / 2 ^ lostPlaces count := by
  rw [lostPlaces] at lost
  have something : count ≠ 0 := by
    rintro rfl
    simp at lost
  have size : 52 + lostPlaces count = count.log2 := by
    rw [lostPlaces]
    omega
  rw [Nat.le_div_iff_mul_le (Nat.two_pow_pos _), ← Nat.pow_add, size]
  exact Nat.log2_self_le something

/-- Rounding is monotone. -/
theorem nearest_mono {first second : ℕ} (below : first ≤ second) :
    nearest first ≤ nearest second := by
  have fewer : lostPlaces first ≤ lostPlaces second :=
    Nat.sub_le_sub_right (log2_mono below) 52
  rcases fewer.lt_or_eq with less | same
  · -- The smaller one has no more than 53 bits, and the larger one that many one place up.
    have little := roundedMantissa_le
      (ExtendedMantissa.ofMantissaAndAccuracy first .exact >>> lostPlaces first)
    have much := mantissa_le_roundedMantissa
      (ExtendedMantissa.ofMantissaAndAccuracy second .exact >>> lostPlaces second)
    rw [mantissa_shiftRight] at little much
    have bounded := cut_lt first
    have full := le_cut (Nat.lt_of_le_of_lt (Nat.zero_le _) less)
    calc
      nearest first
        ≤ 2 ^ 53 * 2 ^ lostPlaces first := Nat.mul_le_mul_right _ (little.trans bounded)
      _ = 2 ^ 52 * 2 ^ (lostPlaces first + 1) := by ring
      _ ≤ nearest second :=
          Nat.mul_le_mul (full.trans much) (Nat.pow_le_pow_right (by decide) less)
  · rw [nearest, nearest, same]
    apply Nat.mul_le_mul_right
    apply roundedMantissa_mono
    apply grade_shiftRight_le
    simpa [grade, ExtendedMantissa.ofMantissaAndAccuracy] using below

/-- A number of units with at most 53 significant bits stays what it is. -/
theorem nearest_exact {significand : ℕ} (bounded : significand < 2 ^ 53) (places : ℕ) :
    nearest (significand * 2 ^ places) = significand * 2 ^ places := by
  rcases significand.eq_zero_or_pos with rfl | positive
  · rw [Nat.zero_mul]
    rfl
  · have few : significand.log2 < 53 := (Nat.log2_lt positive.ne').2 bounded
    have enough : lostPlaces (significand * 2 ^ places) ≤ places := by
      rw [lostPlaces, log2_mul_two_pow positive]
      omega
    rw [nearest]
    generalize lostPlaces (significand * 2 ^ places) = lost at enough
    have split : significand * 2 ^ places = significand * 2 ^ (places - lost) * 2 ^ lost := by
      rw [Nat.mul_assoc, ← Nat.pow_add, Nat.sub_add_cancel enough]
    rw [split, shiftRight_exact]
    rfl

theorem Normalised.nearest_units {significand : ℕ} {exponent : ℤ}
    (normal : Normalised significand exponent) :
    nearest (units significand exponent) = units significand exponent :=
  nearest_exact normal.bounded _

/-! ## Rounding as it is done -/

/-- The exponent that a value gets as a double: its significand has 53 bits then,
or the exponent is the least one. -/
def fittingExponent (significand : ℕ) (exponent : ℤ) : ℤ :=
  Format.binary64.targetExponent (totalExponent significand exponent)

theorem fittingExponent_eq (significand : ℕ) (exponent : ℤ) :
    fittingExponent significand exponent =
      max (significand.log2 + 1 + exponent - 53) (-1074) := rfl

theorem Normalised.fittingExponent_eq {significand : ℕ} {exponent : ℤ}
    (normal : Normalised significand exponent) :
    fittingExponent significand exponent = exponent := by
  rcases normal with ⟨positive, bounded, least, full⟩
  have few : significand.log2 < 53 := (Nat.log2_lt positive.ne').2 bounded
  rw [Number.fittingExponent_eq]
  rcases full with many | lowest
  · have enough : 52 ≤ significand.log2 := (Nat.le_log2 positive.ne').2 many
    omega
  · omega

/-- It depends on the value alone, and not on how the value is written. -/
theorem fittingExponent_mul_two_pow {significand : ℕ} (positive : 0 < significand)
    (exponent : ℤ) (places : ℕ) :
    fittingExponent (significand * 2 ^ places) (exponent - places) =
      fittingExponent significand exponent := by
  rw [fittingExponent_eq, fittingExponent_eq, log2_mul_two_pow positive]
  push_cast
  ring_nf

theorem lostPlaces_units {significand : ℕ} {exponent : ℤ} (positive : 0 < significand)
    (least : -1074 ≤ exponent) :
    (lostPlaces (units significand exponent) : ℤ) =
      fittingExponent significand exponent + 1074 := by
  rw [lostPlaces, units, log2_mul_two_pow positive, fittingExponent_eq]
  omega

theorem shiftToTargetExponent_eq {significand : ℕ} {exponent : ℤ}
    (below : exponent ≤ fittingExponent significand exponent) :
    shiftToTargetExponent Format.binary64 significand exponent .exact =
      (ExtendedMantissa.ofMantissaAndAccuracy significand .exact >>>
          (fittingExponent significand exponent - exponent).toNat,
        fittingExponent significand exponent) := by
  have reached : exponent + (fittingExponent significand exponent - exponent).toNat =
      fittingExponent significand exponent := by
    omega
  exact Prod.ext rfl reached

/-- Where the exponent is not too large, the value is cut off as its units are. -/
theorem shiftToTargetExponent_units {significand : ℕ} {exponent : ℤ}
    (positive : 0 < significand) (least : -1074 ≤ exponent)
    (below : exponent ≤ fittingExponent significand exponent) :
    shiftToTargetExponent Format.binary64 significand exponent .exact =
      (ExtendedMantissa.ofMantissaAndAccuracy (units significand exponent) .exact >>>
          lostPlaces (units significand exponent),
        fittingExponent significand exponent) := by
  have lost := lostPlaces_units positive least
  have split : lostPlaces (units significand exponent) =
      (exponent + 1074).toNat + (fittingExponent significand exponent - exponent).toNat := by
    omega
  rw [shiftToTargetExponent_eq below, split, shiftRight_add, units, shiftRight_exact]

/-- A significand that was rounded up to 54 bits is halved once more. -/
theorem exists_carried {rounded : ℕ} {exponent : ℤ} (positive : 0 < rounded)
    (bounded : rounded ≤ 2 ^ 53) (least : -1074 ≤ exponent)
    (full : 2 ^ 52 ≤ rounded ∨ exponent = -1074) :
    ∃ extended carried,
      shiftToTargetExponent Format.binary64 rounded exponent .exact = (extended, carried) ∧
      Normalised extended.mantissa carried ∧
      units extended.mantissa carried = units rounded exponent := by
  rcases Nat.lt_or_eq_of_le bounded with few | many
  · have normal : Normalised rounded exponent := ⟨positive, few, least, full⟩
    have fits := normal.fittingExponent_eq
    refine ⟨_, _, shiftToTargetExponent_eq fits.ge, ?_⟩
    rw [mantissa_shiftRight, fits, Int.sub_self]
    have same : rounded / 2 ^ Int.toNat 0 = rounded := Nat.div_one rounded
    exact ⟨same.symm ▸ normal, congrArg (units · exponent) same⟩
  · subst many
    have fits : fittingExponent (2 ^ 53) exponent = exponent + 1 := by
      rw [fittingExponent_eq, Nat.log2_two_pow]
      omega
    refine ⟨_, _, shiftToTargetExponent_eq (by omega), ?_⟩
    rw [mantissa_shiftRight, fits]
    have one : (exponent + 1 - exponent).toNat = 1 := by omega
    rw [one]
    have half : (ExtendedMantissa.ofMantissaAndAccuracy (2 ^ 53) .exact).mantissa / 2 ^ 1 =
        2 ^ 52 := by
      decide
    have next : (exponent + 1 + 1074).toNat = (exponent + 1074).toNat + 1 := by omega
    rw [half, units, units, next]
    exact ⟨⟨by decide, by decide, by omega, .inl le_rfl⟩, by ring⟩

theorem roundWithAccuracy_eq {significand : ℕ} {exponent : ℤ} (positive : 0 < significand)
    (least : -1074 ≤ exponent) (below : exponent ≤ fittingExponent significand exponent)
    (sign : Sign) :
    ∃ rounded raised, ∃ normal : Normalised rounded raised,
      roundWithAccuracy Format.binary64 sign significand exponent .exact =
        .finite sign rounded raised normal.positive ∧
      units rounded raised = nearest (units significand exponent) := by
  have cut := shiftToTargetExponent_units positive least below
  have lost := lostPlaces_units positive least
  have something : 0 < units significand exponent := Nat.mul_pos positive (Nat.two_pow_pos _)
  have bounded := cut_lt (units significand exponent)
  have full := @le_cut (units significand exponent)
  generalize fittingExponent significand exponent = fitting at cut lost
  generalize remains : ExtendedMantissa.ofMantissaAndAccuracy (units significand exponent)
    .exact >>> lostPlaces (units significand exponent) = extended at cut
  have mantissa : extended.mantissa =
      units significand exponent / 2 ^ lostPlaces (units significand exponent) := by
    rw [← remains, mantissa_shiftRight]
    rfl
  rw [← mantissa] at bounded full
  have up := mantissa_le_roundedMantissa extended
  have little := roundedMantissa_le extended
  have positive' : 0 < extended.roundedMantissa := by
    rcases Nat.eq_zero_or_pos (lostPlaces (units significand exponent)) with none | some
    · rw [none, Nat.pow_zero, Nat.div_one] at mantissa
      omega
    · have many := full some
      omega
  have enough : 2 ^ 52 ≤ extended.roundedMantissa ∨ fitting = -1074 := by
    by_cases some : 0 < lostPlaces (units significand exponent)
    · exact .inl ((full some).trans up)
    · right
      omega
  rcases exists_carried positive' (by omega) (by omega) enough with
    ⟨final, raised, carried, normal, same⟩
  refine ⟨final.mantissa, raised, normal, ?_, ?_⟩
  · simp only [roundWithAccuracy, cut, carried, normal.positive.ne', dite_false]
  · have places : (fitting + 1074).toNat = lostPlaces (units significand exponent) := by omega
    rw [same, nearest, remains, units, places]

/-- Rounding leads to a normalised value, which is the nearest one. -/
theorem exists_round {significand : ℕ} {exponent : ℤ} (positive : 0 < significand)
    (least : -1074 ≤ exponent) (sign : Sign) :
    ∃ rounded raised, ∃ normal : Normalised rounded raised,
      UnpackedFloat.round Format.binary64 sign significand exponent =
        .finite sign rounded raised normal.positive ∧
      units rounded raised = nearest (units significand exponent) := by
  -- An exponent that is too large is lowered first, which changes the writing alone.
  generalize lowered : (exponent - fittingExponent significand exponent).toNat = places
  have fits := fittingExponent_mul_two_pow positive exponent places
  have lowest : -1074 ≤ fittingExponent significand exponent := le_max_right _ _
  have same : units (significand * 2 ^ places) (exponent - places) =
      units significand exponent := by
    have split : (exponent + 1074).toNat = places + (exponent - places + 1074).toNat := by omega
    rw [units, units, split, Nat.pow_add, Nat.mul_assoc]
  have round : UnpackedFloat.round Format.binary64 sign significand exponent =
      roundWithAccuracy Format.binary64 sign (significand * 2 ^ places) (exponent - places)
        .exact := by
    rw [← lowered, ← Nat.shiftLeft_eq]
    rfl
  rw [round, ← same]
  apply roundWithAccuracy_eq (Nat.mul_pos positive (Nat.two_pow_pos _))
  · omega
  · omega

end ModeChoice.Number
