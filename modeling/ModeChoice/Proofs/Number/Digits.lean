import Mathlib.Data.Int.Notation
import Mathlib.Data.List.Basic
import Mathlib.Data.List.TakeDrop
import ModeChoice.Number.Reading

/-!
# Digits of numbers

A whole number comes back from its digits, and a number of units of the last place from
its text with a point.  What the text of a double is made of is told here, too: digits, a
sign, a point, and the letters of `NaN` and `inf`.
-/

namespace ModeChoice.Number

/-! ## Whole numbers -/

theorem digitsValue_eq_ofDigitChars {digits : List Char}
    (all : ∀ c ∈ digits, c.isDigit = true) :
    digitsValue 10 digits = Nat.ofDigitChars 10 digits 0 := by
  rw [digitsValue, Nat.ofDigitChars_eq_foldl]
  apply List.foldl_ext
  intro value c among
  rw [digitValue, if_pos (all c among), Nat.mul_comm]

theorem isDigit_of_mem_toDigits {count : ℕ} {c : Char} (among : c ∈ Nat.toDigits 10 count) :
    c.isDigit = true :=
  Nat.isDigit_of_mem_toDigits (by decide) (by decide) among

/-- Zeros in front of digits are digits. -/
theorem isDigit_of_mem_zeros_append {zeros : ℕ} {digits : List Char}
    (all : ∀ c ∈ digits, c.isDigit = true) {c : Char}
    (among : c ∈ List.replicate zeros '0' ++ digits) : c.isDigit = true := by
  rcases List.mem_append.1 among with zero | digit
  · rw [List.eq_of_mem_replicate zero]
    rfl
  · exact all c digit

/-- The decimal digits of a number after some zeros. -/
def padded (zeros count : ℕ) : List Char :=
  List.replicate zeros '0' ++ Nat.toDigits 10 count

theorem isDigit_of_mem_padded {zeros count : ℕ} {c : Char} (among : c ∈ padded zeros count) :
    c.isDigit = true :=
  isDigit_of_mem_zeros_append (fun _ => isDigit_of_mem_toDigits) among

theorem padded_ne_nil (zeros count : ℕ) : padded zeros count ≠ [] := by
  simp [padded, Nat.toDigits_ne_nil]

theorem digitsValue_padded (zeros count : ℕ) : digitsValue 10 (padded zeros count) = count := by
  rw [digitsValue_eq_ofDigitChars fun _ => isDigit_of_mem_padded, padded, Nat.ofDigitChars_append]
  simp

theorem splitSign_of_isDigit {characters : List Char}
    (digit : ∀ c ∈ characters.head?, c.isDigit = true) :
    splitSign characters = (false, characters) := by
  fun_cases splitSign characters with
  | case1 rest => exact absurd (digit '-' rfl) (by decide)
  | case2 rest => exact absurd (digit '+' rfl) (by decide)
  | case3 characters => rfl

theorem readInt?_of_splitSign {characters : List Char} (negative : Bool) (zeros count : ℕ)
    (parts : splitSign characters = (negative, padded zeros count)) :
    readInt? characters = some (signedInt negative count) := by
  have digits : (padded zeros count).all Char.isDigit = true :=
    List.all_eq_true.2 fun _ => isDigit_of_mem_padded
  simp [readInt?, parts, digits, digitsValue_padded, padded_ne_nil]

theorem readInt?_toDigits (count : ℕ) :
    readInt? (Nat.toDigits 10 count) = some (count : ℤ) := by
  apply readInt?_of_splitSign false 0 count
  exact splitSign_of_isDigit fun c first => isDigit_of_mem_toDigits (List.mem_of_mem_head? first)

/-! ## Numbers with places -/

/-- A text with a point has as many digits behind it as it should, and some in front. -/
theorem pointed_split {places : ℕ} (positive : 0 < places) {digits : List Char}
    (all : ∀ c ∈ digits, c.isDigit = true) :
    ∃ whole fraction, pointed digits places = whole ++ '.' :: fraction ∧ whole ≠ [] ∧
      fraction.length = places ∧
      whole ++ fraction = List.replicate (places + 1 - digits.length) '0' ++ digits ∧
      ∀ c ∈ whole ++ fraction, c.isDigit = true := by
  let padded := List.replicate (places + 1 - digits.length) '0' ++ digits
  have long : places < padded.length := by
    simp only [padded, List.length_append, List.length_replicate]
    omega
  have joined : padded.take (padded.length - places) ++ padded.drop (padded.length - places) =
      padded :=
    List.take_append_drop _ _
  refine ⟨padded.take (padded.length - places), padded.drop (padded.length - places),
    if_neg (Nat.ne_of_gt positive), ?_, ?_, joined, ?_⟩
  · apply List.ne_nil_of_length_pos
    rw [List.length_take]
    omega
  · rw [List.length_drop]
    omega
  · rw [joined]
    exact fun _ => isDigit_of_mem_zeros_append all

theorem span_isDigit_append {digits rest : List Char}
    (all : ∀ c ∈ digits, c.isDigit = true) (ends : ∀ c ∈ rest.head?, c.isDigit = false) :
    (digits ++ rest).span Char.isDigit = (digits, rest) := by
  have stops : rest.takeWhile Char.isDigit = [] ∧ rest.dropWhile Char.isDigit = rest := by
    cases rest with
    | nil => exact ⟨rfl, rfl⟩
    | cons c rest => simp [ends c rfl]
  rw [List.span_eq_takeWhile_dropWhile, List.takeWhile_append_of_pos all,
    List.dropWhile_append_of_pos all, stops.1, stops.2, List.append_nil]

theorem readDecimal?_pointed {places : ℕ} (positive : 0 < places) (count : ℕ) :
    readDecimal? (pointed (Nat.toDigits 10 count) places) = some ⟨count, -places⟩ := by
  have digits : ∀ c ∈ Nat.toDigits 10 count, c.isDigit = true :=
    fun _ => isDigit_of_mem_toDigits
  rcases pointed_split positive digits with
    ⟨whole, fraction, text, some_digit, length, joined, all⟩
  have front : (whole ++ '.' :: fraction).span Char.isDigit = (whole, '.' :: fraction) :=
    span_isDigit_append (fun c among => all c (List.mem_append_left _ among)) (by simp)
  have back : fraction.span Char.isDigit = (fraction, []) := by
    have alone : (fraction ++ []).span Char.isDigit = (fraction, []) :=
      span_isDigit_append (fun c among => all c (List.mem_append_right _ among)) (by simp)
    rwa [List.append_nil] at alone
  have value : digitsValue 10 (whole ++ fraction) = count := by
    rw [joined]
    exact digitsValue_padded _ count
  simp only [readDecimal?, text, front, back]
  simp [some_digit, readExponent?, value, length]

theorem isDigit_head?_pointed {places : ℕ} (positive : 0 < places) {digits : List Char}
    (all : ∀ c ∈ digits, c.isDigit = true) :
    ∀ c ∈ (pointed digits places).head?, c.isDigit = true := by
  rcases pointed_split positive all with ⟨whole, fraction, text, some_digit, _, _, all⟩
  intro c first
  rw [text, List.head?_append_of_ne_nil _ some_digit] at first
  exact all c (List.mem_append_left _ (List.mem_of_mem_head? first))

/-! ## The characters of a number -/

/-- A character that the text of a double may have. -/
def isNumeral (c : Char) : Bool :=
  c.isDigit || ['-', '.', 'N', 'a', 'i', 'n', 'f'].contains c

theorem isNumeral_of_isDigit {c : Char} (digit : c.isDigit = true) : isNumeral c = true := by
  simp [isNumeral, digit]

theorem isNumeral_signed {negative : Bool} {text : String}
    (all : ∀ c ∈ text.toList, isNumeral c = true) :
    ∀ c ∈ (signed negative text).toList, isNumeral c = true := by
  cases negative with
  | false => exact all
  | true =>
      intro c among
      rw [signed, if_pos rfl, String.toList_append] at among
      rcases List.mem_append.1 among with minus | among
      · rcases List.mem_singleton.1 minus with rfl
        rfl
      · exact all c among

theorem isNumeral_pointed {digits : List Char} (all : ∀ c ∈ digits, c.isDigit = true)
    (places : ℕ) : ∀ c ∈ pointed digits places, isNumeral c = true := by
  have padded : ∀ zeros : ℕ, ∀ c ∈ List.replicate zeros '0' ++ digits, isNumeral c = true :=
    fun _ _ among => isNumeral_of_isDigit (isDigit_of_mem_zeros_append all among)
  intro c among
  simp only [pointed] at among
  split at among
  · exact padded _ c among
  · rcases List.mem_append.1 among with whole | among
    · exact padded _ c (List.mem_of_mem_take whole)
    · rcases List.mem_cons.1 among with rfl | fraction
      · rfl
      · exact padded _ c (List.mem_of_mem_drop fraction)

theorem isNumeral_render (value : Decimal) : ∀ c ∈ value.render.toList, isNumeral c = true := by
  have digits : ∀ c ∈ Nat.toDigits 10 value.digits, c.isDigit = true :=
    fun c => isDigit_of_mem_toDigits
  intro c among
  simp only [Decimal.render] at among
  split at among
  · rw [String.toList_ofList, List.mem_reverse] at among
    have bare := (List.dropWhile_subset _) ((List.dropWhile_subset _) among)
    exact isNumeral_pointed digits _ c (List.mem_reverse.1 bare)
  · rw [String.toList_ofList] at among
    rcases List.mem_append.1 among with digit | zero
    · exact isNumeral_of_isDigit (digits c digit)
    · rw [List.eq_of_mem_replicate zero]
      rfl

theorem isNumeral_shortest (x : Float) : ∀ c ∈ (shortest x).toList, isNumeral c = true := by
  unfold shortest
  split
  · simp [notANumberText, isNumeral]
  · exact isNumeral_signed (by simp [infinityText, isNumeral])
  · exact isNumeral_signed (by simp [isNumeral])
  · exact isNumeral_signed (isNumeral_render _)

theorem isNumeral_fixed (places : ℕ) (x : Float) :
    ∀ c ∈ (fixed places x).toList, isNumeral c = true := by
  unfold fixed
  split
  · simp [notANumberText, isNumeral]
  · exact isNumeral_signed (by simp [infinityText, isNumeral])
  · apply isNumeral_signed
    rw [String.toList_ofList]
    exact isNumeral_pointed (fun c => isDigit_of_mem_toDigits) places

end ModeChoice.Number
