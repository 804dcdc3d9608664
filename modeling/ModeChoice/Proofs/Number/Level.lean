import ModeChoice.Proofs.Number.Rounding

/-!
# The levels of doubles

`level` is the number of units that a double stands for, with infinity far beyond all
other doubles.  What is taken apart from 64 bits is normalised and comes back from them,
and what is too large for them becomes infinity.  So the order of doubles is the order
of their levels.
-/

namespace ModeChoice.Number

open Float.Model UnpackedFloat

/-! ## Storing in 64 bits -/

theorem toNat_one_append (fraction : BitVec 52) :
    (1#1 ++ fraction).toNat = 2 ^ 52 + fraction.toNat := by
  rw [BitVec.toNat_append, ← Nat.shiftLeft_add_eq_or_of_lt fraction.isLt]
  rfl

/-- What is taken apart from the bits of a double is normalised. -/
theorem normalised_of_unpack {bits : BitVec Format.binary64.numBits} {sign : Sign}
    {significand : ℕ} {exponent : ℤ} {positive : 0 < significand}
    (same : UnpackedFloat.unpack Format.binary64 bits =
      .finite sign significand exponent positive) :
    Normalised significand exponent ∧ exponent ≤ 971 := by
  have bias : ((Format.binary64.exponentBias : ℕ) : ℤ) = 1023 := rfl
  have fraction : (unpackMantissa bits).toNat < 2 ^ 52 := (unpackMantissa bits).isLt
  have size : (unpackExponent bits).toNat < 2 ^ 11 := (unpackExponent bits).isLt
  simp only [UnpackedFloat.unpack, bias] at same
  split at same
  · split at same <;> cases same
  · rename_i bounded
    split at same
    · rename_i lowest
      split at same
      · cases same
      · injection same with _ here there
        subst here there
        have least : ((unpackExponent bits).toNat : ℤ) - (1023 + 52) + 1 = -1074 := by
          rw [lowest]
          rfl
        exact ⟨⟨positive, by omega, least.ge, .inr least⟩, by omega⟩
    · rename_i raised
      injection same with _ here there
      subst here there
      rw [toNat_one_append]
      have above : (unpackExponent bits).toNat ≠ 0 :=
        fun zero => raised (BitVec.eq_of_toNat_eq zero)
      have below : (unpackExponent bits).toNat ≠ 2047 :=
        fun all => bounded (BitVec.eq_of_toNat_eq all)
      exact ⟨⟨by omega, by omega, by omega, .inl (by omega)⟩, by omega⟩

/-- What becomes of a value that is stored in 64 bits. -/
def stored (value : UnpackedFloat) : UnpackedFloat :=
  UnpackedFloat.unpack Format.binary64 (UnpackedFloat.pack Format.binary64 value)

theorem stored_infinity (sign : Sign) : stored (.infinity sign) = .infinity sign := by
  cases sign <;> rfl

theorem stored_zero (sign : Sign) : stored (.zero sign) = .zero sign := by
  cases sign <;> rfl

/-- Beyond the range of doubles there is infinity. -/
theorem stored_overflow {significand : ℕ} {exponent : ℤ} (sign : Sign)
    (positive : 0 < significand) (beyond : 971 < exponent) :
    stored (.finite sign significand exponent positive) = .infinity sign := by
  have full : 2 ^ Format.binary64.exponentBits ≤ (exponent + 1023 + 52).toNat + 1 := by
    change 2048 ≤ _
    omega
  have packed : UnpackedFloat.pack Format.binary64
      (.finite sign significand exponent positive) = packedInfinity Format.binary64 sign :=
    if_pos full
  rw [stored, packed]
  exact stored_infinity sign

theorem pack_within {significand : ℕ} {exponent : ℤ} (sign : Sign)
    (positive : 0 < significand) (within : exponent ≤ 971) :
    UnpackedFloat.pack Format.binary64 (.finite sign significand exponent positive) =
      if significand.log2 + 1 = 53 then
        packComponents Format.binary64 sign (BitVec.ofNat 11 (exponent + 1023 + 52).toNat)
          (BitVec.ofNat 52 significand)
      else packComponents Format.binary64 sign 0#11 (BitVec.ofNat 52 significand) := by
  have roomy : ¬ 2 ^ Format.binary64.exponentBits ≤ (exponent + 1023 + 52).toNat + 1 := by
    change ¬ 2048 ≤ _
    omega
  exact if_neg roomy

theorem unpack_raised (sign : Sign) {size : BitVec 11} (fraction : BitVec 52)
    (raised : 0 < size.toNat) (bounded : size.toNat < 2047) :
    UnpackedFloat.unpack Format.binary64 (packComponents Format.binary64 sign size fraction) =
      .finite sign (2 ^ 52 + fraction.toNat) (size.toNat - 1075) (by omega) := by
  have bias : ((Format.binary64.exponentBias : ℕ) : ℤ) = 1023 := rfl
  have some_bit : size ≠ 0#11 := by
    rintro rfl
    simp at raised
  have some_gap : size ≠ 2047#11 := by
    rintro rfl
    simp at bounded
  simp [UnpackedFloat.unpack, some_bit, some_gap, bias, toNat_one_append]

theorem unpack_lowest (sign : Sign) {fraction : BitVec 52} (positive : 0 < fraction.toNat) :
    UnpackedFloat.unpack Format.binary64 (packComponents Format.binary64 sign 0#11 fraction) =
      .finite sign fraction.toNat (-1074) positive := by
  have bias : ((Format.binary64.exponentBias : ℕ) : ℤ) = 1023 := rfl
  have something : fraction ≠ 0#52 := by
    rintro rfl
    simp at positive
  simp [UnpackedFloat.unpack, something, bias]

/-- A normalised value in the range of doubles comes back from its bits. -/
theorem stored_normalised {significand : ℕ} {exponent : ℤ} (sign : Sign)
    (normal : Normalised significand exponent) (within : exponent ≤ 971) :
    stored (.finite sign significand exponent normal.positive) =
      .finite sign significand exponent normal.positive := by
  rcases normal with ⟨positive, bounded, least, full⟩
  rw [stored, pack_within sign positive within]
  by_cases many : 2 ^ 52 ≤ significand
  · have log : significand.log2 = 52 := (Nat.log2_eq_iff positive.ne').2 ⟨many, bounded⟩
    have size : (BitVec.ofNat 11 (exponent + 1023 + 52).toNat).toNat =
        (exponent + 1075).toNat := by
      rw [BitVec.toNat_ofNat]
      omega
    have fraction : (BitVec.ofNat 52 significand).toNat = significand - 2 ^ 52 := by
      rw [BitVec.toNat_ofNat]
      omega
    rw [if_pos (by rw [log]), unpack_raised _ _ (by omega) (by omega)]
    simp only [finite.injEq, true_and]
    omega
  · have lowest : exponent = -1074 := full.resolve_left many
    have log : significand.log2 < 52 := (Nat.log2_lt positive.ne').2 (by omega)
    have fraction : (BitVec.ofNat 52 significand).toNat = significand := by
      rw [BitVec.toNat_ofNat]
      omega
    rw [if_neg (by omega), unpack_lowest _ (by omega)]
    simp only [finite.injEq, true_and]
    omega

/-! ## Levels -/

/-- The least number of units that is too large for a double. -/
@[irreducible]
def beyond : ℕ :=
  units (2 ^ 52) 972

/-- The number of units that a double stands for.  Infinity is twice as far away as the
doubles go, so that no finite double leads back from it. -/
def level : UnpackedFloat → ℤ
  | .notANumber | .zero _ => 0
  | .finite sign significand exponent _ => sign.apply (units significand exponent)
  | .infinity sign => sign.apply (2 * beyond : ℕ)

theorem level_zero (sign : Sign) : level (.zero sign) = 0 := rfl

theorem level_infinity (sign : Sign) :
    level (.infinity sign) = sign.apply (2 * beyond : ℕ) := rfl

theorem normalised_beyond : Normalised (2 ^ 52) 972 :=
  ⟨by decide, by decide, by decide, .inl le_rfl⟩

theorem Normalised.units_pos {significand : ℕ} {exponent : ℤ}
    (normal : Normalised significand exponent) : 0 < units significand exponent :=
  Nat.mul_pos normal.positive (Nat.two_pow_pos _)

theorem beyond_pos : 0 < beyond := by
  unfold beyond
  exact normalised_beyond.units_pos

theorem Normalised.units_lt_beyond_iff {significand : ℕ} {exponent : ℤ}
    (normal : Normalised significand exponent) :
    units significand exponent < beyond ↔ exponent ≤ 971 := by
  have full := normal.full
  unfold beyond
  rw [← Nat.not_le, normalised_beyond.units_le_iff normal]
  omega

/-- What a double can be taken apart into. -/
def Proper : UnpackedFloat → Prop
  | .finite _ significand exponent _ =>
      Normalised significand exponent ∧ units significand exponent < beyond
  | _ => True

theorem proper_unpack (x : Float) : Proper x.toModel.unpack := by
  cases unpacked : x.toModel.unpack with
  | finite sign significand exponent positive =>
      rcases normalised_of_unpack unpacked with ⟨normal, within⟩
      exact ⟨normal, normal.units_lt_beyond_iff.2 within⟩
  | notANumber | infinity | zero => trivial

/-- It comes back from its bits. -/
theorem Proper.stored_eq {value : UnpackedFloat} (proper : Proper value) :
    stored value = value := by
  cases value with
  | notANumber => rfl
  | infinity sign => exact stored_infinity sign
  | zero sign => exact stored_zero sign
  | finite sign significand exponent positive =>
      exact stored_normalised sign proper.1 (proper.1.units_lt_beyond_iff.1 proper.2)

/-- The places of doubles stand in the order of their levels. -/
theorem rank_le_iff_level {first second : UnpackedFloat} (proper : Proper first)
    (proper' : Proper second) : rank first ≤ rank second ↔ level first ≤ level second := by
  have far := beyond_pos
  -- Two finite doubles compare by their units, and all other pairs by their kinds.
  rcases first with sign | _ | sign | ⟨sign, significand, exponent, positive⟩ <;>
    rcases second with sign' | _ | sign' | ⟨sign', significand', exponent', positive'⟩
  case finite.finite =>
    have some := proper.1.units_pos
    have some' := proper'.1.units_pos
    have same := proper.1.units_le_iff proper'.1
    have same' := proper'.1.units_le_iff proper.1
    cases sign <;> cases sign' <;>
      simp [rank, level, Sign.apply, Prod.Lex.toLex_le_toLex] <;> omega
  case finite.notANumber | finite.zero =>
    have some := proper.1.units_pos
    cases sign <;> simp [rank, level, Sign.apply, Prod.Lex.toLex_le_toLex]
    omega
  case notANumber.finite | zero.finite =>
    have some := proper'.1.units_pos
    cases sign' <;> simp [rank, level, Sign.apply, Prod.Lex.toLex_le_toLex]
    omega
  case finite.infinity =>
    have below := proper.2
    cases sign <;> cases sign' <;>
      simp [rank, level, Sign.apply, Prod.Lex.toLex_le_toLex] <;> omega
  case infinity.finite =>
    have below := proper'.2
    cases sign <;> cases sign' <;>
      simp [rank, level, Sign.apply, Prod.Lex.toLex_le_toLex] <;> omega
  case infinity.infinity =>
    cases sign <;> cases sign' <;>
      simp [rank, level, Sign.apply, Prod.Lex.toLex_le_toLex]
    omega
  case infinity.notANumber | infinity.zero =>
    cases sign <;> simp [rank, level, Sign.apply, Prod.Lex.toLex_le_toLex]
    omega
  case notANumber.infinity | zero.infinity =>
    cases sign' <;> simp [rank, level, Sign.apply, Prod.Lex.toLex_le_toLex]
    omega
  all_goals simp [rank, level]

/-- The order of doubles is the order of their levels. -/
theorem le_iff_level {first second : Float} :
    first ≤ second ↔ first.isNaN = false ∧ second.isNaN = false ∧
      level first.toModel.unpack ≤ level second.toModel.unpack := by
  rw [le_iff_rank, rank_le_iff_level (proper_unpack first) (proper_unpack second)]

theorem Proper.abs_level_lt {value : UnpackedFloat} (proper : Proper value)
    (finite : value.isFinite = true) :
    -(beyond : ℤ) < level value ∧ level value < beyond := by
  have some := beyond_pos
  cases value with
  | notANumber | infinity => cases finite
  | zero sign =>
      rw [level]
      omega
  | finite sign significand exponent positive =>
      have below := proper.2
      cases sign <;> rw [level, Sign.apply] <;> omega

theorem isFinite_of_level_lt {x : Float} (number : x.isNaN = false)
    (below : -(beyond : ℤ) < level x.toModel.unpack ∧ level x.toModel.unpack < beyond) :
    x.isFinite = true := by
  change x.toModel.unpack.isNaN = false at number
  change x.toModel.unpack.isFinite = true
  cases unpacked : x.toModel.unpack with
  | notANumber => simp [unpacked, UnpackedFloat.isNaN] at number
  | zero | finite => rfl
  | infinity sign =>
      rw [unpacked, level_infinity] at below
      cases sign <;> simp only [Sign.apply] at below <;> omega

/-- Between finite doubles there are only finite ones. -/
theorem isFinite_of_le_of_le {low x high : Float} (finite : low.isFinite = true)
    (finite' : high.isFinite = true) (above : low ≤ x) (below : x ≤ high) :
    x.isFinite = true := by
  rcases le_iff_level.1 above with ⟨_, number, one⟩
  have two := (le_iff_level.1 below).2.2
  have first := (proper_unpack low).abs_level_lt finite
  have last := (proper_unpack high).abs_level_lt finite'
  exact isFinite_of_level_lt number ⟨first.1.trans_le one, two.trans_lt last.2⟩

end ModeChoice.Number
