import ModeChoice.Proofs.Number.Places
import ModeChoice.Proofs.Number.Sum
import ModeChoice.Proofs.Text.Ends

/-!
# Whole numbers in texts and in doubles

A numeral is a row of decimal digits, zeros in front or not, with or without a sign; every
numeral of a 64-bit integer reads as that integer.  A finite double has a rational value,
and if that is a whole number of 64 bits, then cutting the double off at its point gives it.
Cutting off to a word without a sign gives the floor of any value that has one among the words,
and the nearest end of the words otherwise.  The other way about, the whole numbers up to
`2 ^ 53` in size become doubles without loss.
-/

namespace ModeChoice.Number

open Float.Model UnpackedFloat

/-! ## Numerals -/

/-- The decimal texts of a whole number. -/
inductive Numeral : ℤ → List Char → Prop
  | plain (zeros count : ℕ) : Numeral count (padded zeros count)
  | plus (zeros count : ℕ) : Numeral count ('+' :: padded zeros count)
  | minus (zeros count : ℕ) : Numeral (-count) ('-' :: padded zeros count)

variable {n : ℤ} {characters : List Char}

theorem Numeral.readInt? (numeral : Numeral n characters) :
    Number.readInt? characters = some n := by
  cases numeral with
  | plain zeros count =>
      apply readInt?_of_splitSign false zeros count
      exact splitSign_of_isDigit fun c first =>
        isDigit_of_mem_padded (List.mem_of_mem_head? first)
  | plus zeros count => exact readInt?_of_splitSign false zeros count rfl
  | minus zeros count => exact readInt?_of_splitSign true zeros count rfl

theorem isBlank_of_isDigit {c : Char} (digit : c.isDigit = true) : Text.isBlank c = false := by
  have range : 48 ≤ c.toNat ∧ c.toNat ≤ 57 := by
    simpa [Char.isDigit, UInt32.le_iff_toNat_le] using digit
  simp only [Text.isBlank, Bool.or_eq_false_iff, Bool.and_eq_false_iff, decide_eq_false_iff_not,
    beq_eq_false_iff_ne]
  omega

theorem Numeral.isBlank (numeral : Numeral n characters) {c : Char} (among : c ∈ characters) :
    Text.isBlank c = false := by
  cases numeral with
  | plain => exact isBlank_of_isDigit (isDigit_of_mem_padded among)
  | plus | minus =>
      rcases List.mem_cons.1 among with rfl | digit
      · rfl
      · exact isBlank_of_isDigit (isDigit_of_mem_padded digit)

/-- A whole number is shown as one of its numerals. -/
theorem numeral_toString (n : ℤ) : Numeral n (toString n).toList := by
  rw [Int.toString_eq_repr, Int.repr_eq_if]
  split
  · rename_i nonneg
    have plain := Numeral.plain 0 n.toNat
    rw [Int.toNat_of_nonneg nonneg] at plain
    rw [Nat.toList_repr]
    exact plain
  · rename_i negative
    have minus := Numeral.minus 0 (-n).toNat
    rw [Int.toNat_of_nonneg (by omega), Int.neg_neg] at minus
    rw [String.toList_append, Nat.toList_repr]
    exact minus

theorem fitsSigned_toInt (n : Int64) : fitsSigned n.toInt = true := by
  have least := n.le_toInt
  have most := n.toInt_lt
  rw [fitsSigned, Bool.and_eq_true, decide_eq_true_iff, decide_eq_true_iff, count63]
  exact ⟨least, most⟩

theorem Numeral.readInt64? {n : Int64} {text : String} (numeral : Numeral n.toInt text.toList) :
    Number.readInt64? text = some n := by
  rw [Number.readInt64?, numeral.readInt?, Option.bind_some, if_pos (fitsSigned_toInt n),
    Int64.ofInt_toInt]

/-! ## The value of a double -/

/-- The rational number that a double stands for; an infinity is none, and neither is what is
no number. -/
def Exact.value? : Exact → Option ℚ
  | .finite negative significand exponent => some (signedInt negative significand * 2 ^ exponent)
  | .infinite _ | .notANumber => none

theorem signedInt_isNegative (sign : Sign) (count : ℕ) :
    signedInt (isNegative sign) count = sign.apply count := by
  cases sign <;> rfl

/-- The value counts in units of the least double. -/
theorem value?_exact (x : Float) :
    (exact x).value? =
      if x.isFinite then some (level x.toModel.unpack / 2 ^ 1074 : ℚ) else none := by
  have proper := proper_unpack x
  change _ = if x.toModel.unpack.isFinite = true then _ else _
  rw [exact]
  cases unpacked : x.toModel.unpack with
  | notANumber | infinity => rfl
  | zero sign => simp [Exact.value?, UnpackedFloat.isFinite, level, signedInt]
  | finite sign significand exponent positive =>
      rw [unpacked] at proper
      have least := proper.1.least
      have split : (2 : ℚ) ^ exponent = 2 ^ (exponent + 1074).toNat / 2 ^ 1074 := by
        rw [eq_div_iff (by positivity), ← zpow_natCast, ← zpow_natCast, ← zpow_add₀ (by decide)]
        congr 1
        omega
      simp only [Exact.value?, UnpackedFloat.isFinite, level, if_true]
      rw [signedInt_isNegative, units, apply_mul, split]
      push_cast
      rw [mul_div_assoc]

theorem value?_exact_eq_some_iff {x : Float} {value : ℚ} :
    (exact x).value? = some value ↔
      x.isFinite = true ∧ (level x.toModel.unpack : ℚ) = value * 2 ^ 1074 := by
  rw [value?_exact]
  split
  · rename_i finite
    rw [Option.some_inj, div_eq_iff (by positivity)]
    simp [finite]
  · rename_i infinite
    simp [infinite]

/-- Zero is the value of the two zeros and of no other double. -/
theorem value?_exact_eq_zero_iff {x : Float} : (exact x).value? = some 0 ↔ (x == 0) = true := by
  have zero : (0 : Float).toModel.unpack = .zero .positive := rfl
  change _ ↔ (x.toModel.unpack.compare (0 : Float).toModel.unpack == some .eq) = true
  rw [exact, zero]
  cases x.toModel.unpack with
  | notANumber => simp [Exact.value?, UnpackedFloat.compare]
  | infinity sign => cases sign <;> simp [Exact.value?, UnpackedFloat.compare]
  | zero sign => cases sign <;> simp [Exact.value?, UnpackedFloat.compare, signedInt]
  | finite sign significand exponent positive =>
      cases sign <;>
        simp [Exact.value?, UnpackedFloat.compare, signedInt, isNegative, positive.ne', zpow_ne_zero]

/-! ## Cutting off at the point -/

theorem roundToInt_eq (sign : Sign) (significand : ℕ) (exponent : ℤ) :
    roundToInt sign significand exponent =
      sign.apply (significand * 2 ^ exponent.toNat / 2 ^ (-exponent).toNat : ℕ) := by
  have places : (0 - (exponent - exponent.toNat)).toNat = (-exponent).toNat := by omega
  simp only [roundToInt, decreaseExponent, shiftToExponent, Int.sub_zero]
  rw [mantissa_shiftRight, places, Nat.shiftLeft_eq]
  rfl

theorem apply_div {sign : Sign} {count divisor : ℕ} (positive : 0 < divisor)
    (multiple : sign.apply count = n * divisor) : sign.apply (count / divisor : ℕ) = n := by
  have nonzero : (divisor : ℤ) ≠ 0 := Int.natCast_ne_zero.2 positive.ne'
  cases sign with
  | positive =>
      change ((count / divisor : ℕ) : ℤ) = n
      rw [Int.natCast_ediv]
      exact Int.ediv_eq_of_eq_mul_left nonzero multiple
  | negative =>
      have opposite : (count : ℤ) = -n * divisor := by
        rw [Int.neg_mul, ← multiple, Sign.apply, Int.neg_neg]
      change -((count / divisor : ℕ) : ℤ) = n
      rw [Int.natCast_ediv, Int.ediv_eq_of_eq_mul_left nonzero opposite, Int.neg_neg]

/-- Rounding towards zero leaves a whole number as it is. -/
theorem roundToInt_of_value {sign : Sign} {significand : ℕ} {exponent : ℤ}
    (value : (sign.apply significand : ℚ) * 2 ^ exponent = n) :
    roundToInt sign significand exponent = n := by
  rw [roundToInt_eq]
  apply apply_div (Nat.two_pow_pos _)
  rw [apply_mul]
  have split := zpow_mul_pow_neg 2 (by decide) exponent
  have scaled : (sign.apply significand : ℚ) * 2 ^ exponent.toNat =
      n * 2 ^ (-exponent).toNat := by
    rw [← split, ← value, mul_assoc]
  exact_mod_cast scaled

theorem truncateSigned_of_value {x : Float} {n : Int64}
    (value : (exact x).value? = some (n.toInt : ℚ)) :
    x.isFinite = true ∧ truncateSigned x = n := by
  refine ⟨(value?_exact_eq_some_iff.1 value).1, ?_⟩
  have cut : x.toModel.unpack.toInt Int64.minValue.toInt Int64.maxValue.toInt = n.toInt := by
    rw [exact] at value
    cases unpacked : x.toModel.unpack with
    | notANumber | infinity => simp [unpacked, Exact.value?] at value
    | zero sign =>
        have zero : (0 : ℚ) = n.toInt := by
          simpa [unpacked, Exact.value?, signedInt] using value
        exact_mod_cast zero
    | finite sign significand exponent positive =>
        simp only [unpacked, Exact.value?, Option.some_inj, signedInt_isNegative] at value
        exact roundToInt_of_value value
  change Int64.ofIntClamp _ = n
  rw [cut, Int64.ofIntClamp_toInt]

/-- The whole number in a double: its value cut off below the point, zero if that is below zero,
and at most the last of the 64-bit words.  In what is not finite it is zero. -/
def wholePart (x : Float) : ℕ :=
  match (exact x).value? with
  | some value => min ⌊value⌋₊ (count64 - 1)
  | none => 0

theorem wholePart_of_lt {x : Float} {value : ℚ} (same : (exact x).value? = some value)
    (nonneg : 0 ≤ value) (within : value < 2 ^ 64) : wholePart x = ⌊value⌋₊ := by
  have word : ⌊value⌋₊ < count64 := (Nat.floor_lt nonneg).2 (by exact_mod_cast within)
  rw [wholePart, same]
  exact Nat.min_eq_left (Nat.le_sub_one_of_lt word)

theorem floor_significand (significand : ℕ) (exponent : ℤ) :
    ⌊(significand * 2 ^ exponent : ℚ)⌋₊ =
      significand * 2 ^ exponent.toNat / 2 ^ (-exponent).toNat := by
  have nonzero : (2 : ℚ) ^ (-exponent).toNat ≠ 0 := by positivity
  have split := zpow_mul_pow_neg 2 (by decide) exponent
  have quotient : (significand * 2 ^ exponent : ℚ) =
      (significand * 2 ^ exponent.toNat : ℕ) / (2 ^ (-exponent).toNat : ℕ) := by
    push_cast
    rw [eq_div_iff nonzero, mul_assoc, split]
  rw [quotient, Nat.floor_div_eq_div]

/-- Rounding towards zero is cutting off, and what lies below zero is zero in size. -/
theorem toNat_roundToInt (sign : Sign) (significand : ℕ) (exponent : ℤ) :
    (roundToInt sign significand exponent).toNat =
      ⌊(sign.apply significand * 2 ^ exponent : ℚ)⌋₊ := by
  rw [roundToInt_eq]
  cases sign with
  | positive =>
      rw [Sign.apply, Sign.apply, Int.toNat_natCast, Int.cast_natCast, floor_significand]
  | negative =>
      have below : ((-(significand : ℤ) : ℤ) : ℚ) * 2 ^ exponent ≤ 0 := by
        rw [Int.cast_neg, Int.cast_natCast, neg_mul, neg_nonpos]
        positivity
      rw [Sign.apply, Sign.apply, Nat.floor_of_nonpos below, Int.toNat_eq_zero, neg_nonpos]
      positivity

theorem toNat_ofNatClamp (count : ℕ) :
    (UInt64.ofNatClamp count).toNat = min count (count64 - 1) := by
  have words : count64 = UInt64.size := rfl
  rw [words]
  rcases Nat.lt_or_ge count UInt64.size with within | beyond
  · rw [UInt64.toNat_ofNatClamp_of_lt within, Nat.min_eq_left (Nat.le_sub_one_of_lt within)]
  · rw [UInt64.toNat_ofNatClamp_of_le beyond,
      Nat.min_eq_right (Nat.le_trans (Nat.sub_le _ _) beyond)]

/-- The whole part of a finite double is what cutting it off gives. -/
theorem toNat_truncateUnsigned {x : Float} (finite : x.isFinite = true) :
    (truncateUnsigned x).toNat = wholePart x := by
  change x.toModel.unpack.isFinite = true at finite
  have cut : truncateUnsigned x =
      UInt64.ofNatClamp (x.toModel.unpack.toInt 0 (UInt64.size - 1)).toNat := rfl
  rw [cut, toNat_ofNatClamp, wholePart, exact]
  cases unpacked : x.toModel.unpack with
  | notANumber | infinity => rw [unpacked] at finite; cases finite
  | zero sign => simp [Exact.value?, UnpackedFloat.toInt, signedInt]
  | finite sign significand exponent positive =>
      simp only [Exact.value?, UnpackedFloat.toInt, signedInt_isNegative]
      rw [toNat_roundToInt]

/-! ## Whole numbers as doubles -/

theorem nearest_whole {count : ℕ} (bounded : count ≤ 2 ^ 53) (places : ℕ) :
    nearest (count * 2 ^ places) = count * 2 ^ places := by
  rcases bounded.lt_or_eq with few | rfl
  · exact nearest_exact few places
  · rw [← Nat.pow_add]
    simpa using nearest_exact (show 1 < 2 ^ 53 by decide) (53 + places)

theorem units_whole_lt_beyond {count : ℕ} (bounded : count ≤ 2 ^ 53) :
    units count 0 < beyond := by
  have normal : Normalised (2 ^ 52) 1 := ⟨by decide, by decide, by decide, .inl le_rfl⟩
  refine Nat.lt_of_le_of_lt ?_ (normal.units_lt_beyond_iff.2 (by decide))
  have next : (1 + 1074 : ℤ).toNat = (0 + 1074 : ℤ).toNat + 1 := rfl
  rw [units, units, next]
  generalize (0 + 1074 : ℤ).toNat = places
  calc
    count * 2 ^ places ≤ 2 ^ 53 * 2 ^ places := Nat.mul_le_mul_right _ bounded
    _ = 2 ^ 52 * 2 ^ (places + 1) := by ring

/-- Up to `2 ^ 53` a whole number is settled on a double. -/
theorem settle_whole {count : ℕ} (bounded : count ≤ 2 ^ 53) :
    settle (units count 0) = units count 0 := by
  have nearest : nearest (units count 0) = units count 0 := nearest_whole bounded _
  rw [settle, nearest, if_pos (units_whole_lt_beyond bounded)]

theorem level_ofInt64 {n : Int64} {sign : Sign} {count : ℕ} (whole : n.toInt = sign.apply count)
    (bounded : count ≤ 2 ^ 53) :
    (Float.ofModel (.ofInt64 n)).isNaN = false ∧
      level (Float.ofModel (.ofInt64 n)).toModel.unpack = sign.apply (units count 0) := by
  have unpacked : (Float.ofModel (.ofInt64 n)).toModel.unpack =
      stored (UnpackedFloat.normalize Format.binary64 n.toInt 0 .positive) := rfl
  have least : -1074 ≤ (0 : ℤ) := by decide
  rcases level_stored_normalize n.toInt least .positive with ⟨number, same⟩
  refine ⟨number, ?_⟩
  rw [unpacked, same, whole, ← apply_mul, settled_apply]
  exact congrArg (fun count : ℕ => sign.apply count) (settle_whole bounded)

/-- Up to `2 ^ 53` a whole number is the value of the double made of it. -/
theorem value?_exact_ofInt64 {n : Int64} (bounded : n.toInt.natAbs ≤ 2 ^ 53) :
    (exact (.ofModel (.ofInt64 n))).value? = some (n.toInt : ℚ) := by
  rcases exists_apply n.toInt with ⟨sign, count, whole⟩
  have few : count ≤ 2 ^ 53 := by
    cases sign <;> rw [whole, Sign.apply] at bounded <;> omega
  rcases level_ofInt64 whole few with ⟨number, same⟩
  have within := units_whole_lt_beyond few
  rw [value?_exact_eq_some_iff, same, whole]
  refine ⟨isFinite_of_level_lt number ?_, ?_⟩
  · rw [same]
    cases sign <;> rw [Sign.apply] <;> omega
  · rw [units, apply_mul, Int.cast_mul, Int.cast_natCast, Nat.cast_pow, Nat.cast_ofNat]
    rfl

end ModeChoice.Number
