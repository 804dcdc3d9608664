import ModeChoice.Proofs.Number.Level

/-!
# Sums of doubles

The sum of two doubles is the exact sum, rounded and stored in 64 bits: its level is the
sum of the levels, settled on a double.  As rounding is monotone, so is settling.  Hence
addition is monotone wherever it gives a number, and to add what is not below zero never
leads backwards, to infinity or anywhere else.
-/

namespace ModeChoice.Number

open Float.Model UnpackedFloat

/-! ## Settling -/

/-- A number of units, rounded and stored: what is too large for a double becomes
infinity. -/
def settle (count : ℕ) : ℕ :=
  if nearest count < beyond then nearest count else 2 * beyond

/-- The same for what may be below zero. -/
def settled (exact : ℤ) : ℤ :=
  if 0 ≤ exact then settle exact.toNat else -settle (-exact).toNat

theorem settle_zero : settle 0 = 0 :=
  if_pos beyond_pos

theorem Proper.settle_units {sign : Sign} {significand : ℕ} {exponent : ℤ}
    {positive : 0 < significand}
    (proper : Proper (.finite sign significand exponent positive)) :
    settle (units significand exponent) = units significand exponent := by
  rw [settle, proper.1.nearest_units, if_pos proper.2]

theorem settle_of_beyond_le {count : ℕ} (above : beyond ≤ count) :
    settle count = 2 * beyond := by
  have far : beyond ≤ nearest count := by
    have stays : nearest beyond = beyond := by
      unfold beyond
      exact normalised_beyond.nearest_units
    rw [← stays]
    exact nearest_mono above
  exact if_neg far.not_gt

theorem settle_mono {first second : ℕ} (below : first ≤ second) :
    settle first ≤ settle second := by
  have nearer := nearest_mono below
  unfold settle
  split <;> split <;> omega

theorem settled_apply (sign : Sign) (count : ℕ) :
    settled (sign.apply count) = sign.apply (settle count) := by
  cases sign with
  | positive => simp [settled, Sign.apply]
  | negative =>
      rcases count.eq_zero_or_pos with rfl | positive
      · simp [settled, Sign.apply, settle_zero]
      · have below : ¬ 0 ≤ Sign.negative.apply count := by
          rw [Sign.apply]
          omega
        rw [settled, if_neg below]
        simp [Sign.apply]

theorem settled_mono {first second : ℤ} (below : first ≤ second) :
    settled first ≤ settled second := by
  unfold settled
  split <;> split
  · have nearer := settle_mono (Int.toNat_le_toNat below)
    omega
  · omega
  · omega
  · have nearer := settle_mono (Int.toNat_le_toNat (Int.neg_le_neg below))
    omega

theorem settled_of_far (sign : Sign) {exact : ℤ} (far : beyond ≤ sign.apply exact) :
    settled exact = level (.infinity sign) := by
  have some := beyond_pos
  cases sign with
  | positive =>
      have above : beyond ≤ exact := far
      rw [settled, if_pos (by omega), settle_of_beyond_le (by omega)]
      rfl
  | negative =>
      have below : beyond ≤ -exact := far
      rw [settled, if_neg (by omega), settle_of_beyond_le (by omega)]
      rfl

/-- No finite double leads back from infinity. -/
theorem Proper.settled_infinity_add {value : UnpackedFloat} (proper : Proper value)
    (finite : value.isFinite = true) (sign : Sign) :
    settled (level (.infinity sign) + level value) = level (.infinity sign) := by
  rcases proper.abs_level_lt finite with ⟨below, above⟩
  apply settled_of_far
  rw [level_infinity]
  cases sign <;> simp only [Sign.apply] <;> omega

/-- Doubles are settled already. -/
theorem Proper.settled_level {value : UnpackedFloat} (proper : Proper value) :
    settled (level value) = level value := by
  cases value with
  | notANumber | zero => simp [level, settled, settle_zero]
  | infinity sign =>
      rw [level, settled_apply, settle_of_beyond_le (by omega)]
  | finite sign significand exponent positive =>
      rw [level, settled_apply, proper.settle_units]

/-- What is stored stays as it is, unless it becomes infinity. -/
theorem level_stored {significand : ℕ} {exponent : ℤ} (sign : Sign)
    (normal : Normalised significand exponent) :
    (stored (.finite sign significand exponent normal.positive)).isNaN = false ∧
      level (stored (.finite sign significand exponent normal.positive)) =
        sign.apply (if units significand exponent < beyond then units significand exponent
          else 2 * beyond : ℕ) := by
  have range := normal.units_lt_beyond_iff
  by_cases within : exponent ≤ 971
  · rw [stored_normalised sign normal within, if_pos (range.2 within)]
    exact ⟨rfl, rfl⟩
  · rw [stored_overflow sign normal.positive (by omega), if_neg (mt range.1 within)]
    exact ⟨rfl, rfl⟩

theorem level_stored_round {significand : ℕ} {exponent : ℤ} (positive : 0 < significand)
    (least : -1074 ≤ exponent) (sign : Sign) :
    (stored (UnpackedFloat.round Format.binary64 sign significand exponent)).isNaN = false ∧
      level (stored (UnpackedFloat.round Format.binary64 sign significand exponent)) =
        settled (sign.apply (units significand exponent)) := by
  rcases exists_round positive least sign with ⟨rounded, raised, normal, round, same⟩
  rw [round, settled_apply, settle, ← same]
  exact level_stored sign normal

theorem apply_mul (sign : Sign) (count factor : ℕ) :
    sign.apply ((count * factor : ℕ) : ℤ) = sign.apply count * factor := by
  cases sign <;> simp [Sign.apply]

theorem normalize_apply (sign : Sign) {count : ℕ} (positive : 0 < count) (exponent : ℤ)
    (zeroSign : Sign) :
    UnpackedFloat.normalize Format.binary64 (sign.apply count) exponent zeroSign =
      UnpackedFloat.round Format.binary64 sign count exponent := by
  cases sign with
  | positive =>
      have above : compare (Sign.positive.apply count) 0 = .gt :=
        Int.compare_eq_gt.2 (Int.natCast_pos.2 positive)
      rw [UnpackedFloat.normalize, above]
      rfl
  | negative =>
      have below : compare (Sign.negative.apply count) 0 = .lt :=
        Int.compare_eq_lt.2 (Int.neg_neg_of_pos (Int.natCast_pos.2 positive))
      have same : (-Sign.negative.apply count).toNat = count := by simp [Sign.apply]
      rw [UnpackedFloat.normalize, below]
      simp only [same]

theorem exists_apply (n : ℤ) : ∃ (sign : Sign) (count : ℕ), n = sign.apply count := by
  rcases Int.eq_nat_or_neg n with ⟨count, same | same⟩
  · exact ⟨.positive, count, same⟩
  · exact ⟨.negative, count, same⟩

/-- The exact sum is settled on a double. -/
theorem level_stored_normalize (exact : ℤ) {exponent : ℤ} (least : -1074 ≤ exponent)
    (zeroSign : Sign) :
    (stored (UnpackedFloat.normalize Format.binary64 exact exponent zeroSign)).isNaN = false ∧
      level (stored (UnpackedFloat.normalize Format.binary64 exact exponent zeroSign)) =
        settled (exact * (2 ^ (exponent + 1074).toNat : ℕ)) := by
  rcases exists_apply exact with ⟨sign, count, rfl⟩
  rw [← apply_mul]
  change _ ∧ _ = settled (sign.apply (units count exponent))
  rcases count.eq_zero_or_pos with rfl | positive
  · have zero : UnpackedFloat.normalize Format.binary64 (sign.apply (0 : ℕ)) exponent zeroSign =
        .zero zeroSign := by
      cases sign <;> rfl
    rw [zero, stored_zero, settled_apply, units, Nat.zero_mul, settle_zero]
    cases sign <;> exact ⟨rfl, rfl⟩
  · rw [normalize_apply sign positive]
    exact level_stored_round positive least sign

/-! ## Sums -/

theorem unpack_add (x y : Float) :
    (x + y).toModel.unpack =
      stored (UnpackedFloat.add Format.binary64 x.toModel.unpack y.toModel.unpack) := rfl

/-- The finer of two exponents is good enough for the units of both. -/
theorem units_eq_mul (significand : ℕ) {exponent fine : ℤ} (finer : fine ≤ exponent)
    (least : -1074 ≤ fine) :
    units significand exponent =
      significand * 2 ^ (exponent - fine).toNat * 2 ^ (fine + 1074).toNat := by
  have split : (exponent + 1074).toNat = (exponent - fine).toNat + (fine + 1074).toNat := by
    omega
  rw [units, split, Nat.pow_add, Nat.mul_assoc]

theorem level_stored_add_finite {sign sign' : Sign} {first second : ℕ} {exponent exponent' : ℤ}
    {positive : 0 < first} {positive' : 0 < second}
    (proper : Proper (.finite sign first exponent positive))
    (proper' : Proper (.finite sign' second exponent' positive')) :
    (stored (UnpackedFloat.add Format.binary64 (.finite sign first exponent positive)
        (.finite sign' second exponent' positive'))).isNaN = false ∧
      level (stored (UnpackedFloat.add Format.binary64 (.finite sign first exponent positive)
        (.finite sign' second exponent' positive'))) =
      settled (level (.finite sign first exponent positive) +
        level (.finite sign' second exponent' positive')) := by
  have least : -1074 ≤ min exponent exponent' := le_min proper.1.least proper'.1.least
  have exact_sum : level (.finite sign first exponent positive) +
      level (.finite sign' second exponent' positive') =
        (sign.apply (first * 2 ^ (exponent - min exponent exponent').toNat : ℕ) +
          sign'.apply (second * 2 ^ (exponent' - min exponent exponent').toNat : ℕ)) *
            (2 ^ (min exponent exponent' + 1074).toNat : ℕ) := by
    rw [level, level, units_eq_mul first (min_le_left exponent exponent') least,
      units_eq_mul second (min_le_right exponent exponent') least, apply_mul, apply_mul sign',
      Int.add_mul]
  rw [exact_sum]
  simp only [UnpackedFloat.add, decreaseExponent, Nat.shiftLeft_eq]
  exact level_stored_normalize _ least _

/-- The level of a sum that is a number is the sum of the levels, settled on a double. -/
theorem level_stored_add {first second : UnpackedFloat} (proper : Proper first)
    (proper' : Proper second)
    (number : (stored (UnpackedFloat.add Format.binary64 first second)).isNaN = false) :
    level (stored (UnpackedFloat.add Format.binary64 first second)) =
      settled (level first + level second) := by
  rcases first with sign | _ | sign | ⟨sign, significand, exponent, positive⟩ <;>
    rcases second with sign' | _ | sign' | ⟨sign', significand', exponent', positive'⟩
  case finite.finite => exact (level_stored_add_finite proper proper').2
  case infinity.infinity =>
    have some := beyond_pos
    by_cases same : sign = sign'
    · subst same
      have sum : UnpackedFloat.add Format.binary64 (.infinity sign) (.infinity sign) =
          .infinity sign := if_pos BEq.rfl
      rw [sum, stored_infinity]
      symm
      apply settled_of_far
      rw [level_infinity]
      cases sign <;> simp only [Sign.apply] <;> omega
    · have sum : UnpackedFloat.add Format.binary64 (.infinity sign) (.infinity sign') =
          .notANumber := if_neg (by simpa using same)
      rw [sum] at number
      cases number
  case infinity.zero | infinity.finite =>
    rw [proper'.settled_infinity_add rfl]
    exact congrArg level (stored_infinity sign)
  case zero.infinity | finite.infinity =>
    rw [Int.add_comm, proper.settled_infinity_add rfl]
    exact congrArg level (stored_infinity sign')
  case zero.zero =>
    have sum : UnpackedFloat.add Format.binary64 (.zero sign) (.zero sign') =
        .zero (if sign == sign' then sign else .positive) := by
      cases sign <;> cases sign' <;> rfl
    rw [sum, stored_zero]
    exact proper.settled_level.symm
  case zero.finite =>
    have back := proper'.stored_eq
    have settles := proper'.settled_level
    rw [level_zero, Int.zero_add, settles]
    exact congrArg level back
  case finite.zero =>
    have back := proper.stored_eq
    have settles := proper.settled_level
    rw [level_zero, Int.add_zero, settles]
    exact congrArg level back
  all_goals
    simp only [UnpackedFloat.add] at number
    cases number

theorem level_add {x y : Float} (number : (x + y).isNaN = false) :
    level (x + y).toModel.unpack =
      settled (level x.toModel.unpack + level y.toModel.unpack) :=
  level_stored_add (proper_unpack x) (proper_unpack y) number

/-- Addition is monotone wherever it gives a number. -/
theorem add_le_add {x x' y y' : Float} (one : x ≤ x') (two : y ≤ y')
    (number : (x + y).isNaN = false) (number' : (x' + y').isNaN = false) :
    x + y ≤ x' + y' := by
  have below := (le_iff_level.1 one).2.2
  have below' := (le_iff_level.1 two).2.2
  refine le_iff_level.2 ⟨number, number', ?_⟩
  rw [level_add number, level_add number']
  exact settled_mono (by omega)

theorem isNaN_add_of_finite {x d : Float} (number : x.isNaN = false)
    (finite : d.isFinite = true) : (x + d).isNaN = false := by
  have proper := proper_unpack x
  have proper' := proper_unpack d
  change x.toModel.unpack.isNaN = false at number
  change d.toModel.unpack.isFinite = true at finite
  change (x + d).toModel.unpack.isNaN = false
  rw [unpack_add]
  generalize x.toModel.unpack = first at proper number ⊢
  generalize d.toModel.unpack = second at proper' finite ⊢
  cases second with
  | infinity | notANumber => cases finite
  | zero sign' =>
      cases first with
      | notANumber => cases number
      | zero sign => cases sign <;> cases sign' <;> rfl
      | infinity | finite => exact congrArg UnpackedFloat.isNaN proper.stored_eq
  | finite sign' significand' exponent' positive' =>
      cases first with
      | notANumber => cases number
      | infinity sign => exact congrArg UnpackedFloat.isNaN proper.stored_eq
      | zero sign => exact congrArg UnpackedFloat.isNaN proper'.stored_eq
      | finite sign significand exponent positive =>
          exact (level_stored_add_finite proper proper').1

theorem level_add_zero {x : Float} (number : x.isNaN = false) :
    level (x + 0).toModel.unpack = level x.toModel.unpack := by
  have nothing : level (0 : Float).toModel.unpack = 0 := by decide
  rw [level_add (isNaN_add_of_finite number rfl), nothing, Int.add_zero,
    (proper_unpack x).settled_level]

theorem le_add_of_nonneg {x d : Float} (number : x.isNaN = false) (nonneg : 0 ≤ d)
    (number' : (x + d).isNaN = false) : x ≤ x + d := by
  have still : (x + 0).isNaN = false := isNaN_add_of_finite number rfl
  have unmoved : x ≤ x + 0 := le_iff_level.2 ⟨number, still, (level_add_zero number).ge⟩
  exact le_trans unmoved (add_le_add (le_refl number) nonneg still number')

theorem add_le_of_nonpos {x d : Float} (number : x.isNaN = false) (nonpos : d ≤ 0)
    (number' : (x + d).isNaN = false) : x + d ≤ x := by
  have still : (x + 0).isNaN = false := isNaN_add_of_finite number rfl
  have unmoved : x + 0 ≤ x := le_iff_level.2 ⟨still, number, (level_add_zero number).le⟩
  exact le_trans (add_le_add (le_refl number) nonpos number' still) unmoved

/-- To add a finite double that is not below zero does not make a double smaller. -/
theorem le_add {x d : Float} (nonneg : 0 ≤ x) (nonneg' : 0 ≤ d) (finite : d.isFinite = true) :
    x ≤ x + d :=
  le_add_of_nonneg (isNaN_eq_false_of_le nonneg) nonneg'
    (isNaN_add_of_finite (isNaN_eq_false_of_le nonneg) finite)

/-- To add what is neither below nor above zero changes nothing. -/
theorem add_le_self {x d : Float} (number : x.isNaN = false) (nonneg : 0 ≤ d)
    (still : ¬ 0 < d) : x + d ≤ x := by
  have nonpos : d ≤ 0 := le_of_not_lt rfl (isNaN_eq_false_of_le nonneg) still
  exact add_le_of_nonpos number nonpos
    (isNaN_add_of_finite number (isFinite_of_le_of_le rfl rfl nonneg nonpos))

end ModeChoice.Number
