import Mathlib.Data.Prod.Lex
import ModeChoice.Clock
import ModeChoice.Proofs.Number.Whole

/-!
# Times of day in texts

The text of a clock has three fields of digits with colons between them, and what the fields
tell is the number of whole seconds on the clock, however many hours that are.  So two clocks
have one text when they stand in the same second, and the times that are read off two texts,
hours first, come in the order of the clocks.  A clock that stands below zero or is not finite
reads as midnight, and one beyond the 64-bit words as the last of them.
-/

namespace ModeChoice

open Number

/-- Hours, minutes and seconds since midnight. -/
structure TimeOfDay where
  hours : ℕ
  minutes : ℕ
  seconds : ℕ
  deriving DecidableEq

namespace TimeOfDay

/-- The seconds since midnight. -/
def total (time : TimeOfDay) : ℕ :=
  time.hours * 3600 + time.minutes * 60 + time.seconds

/-- The place among all times: first the hours, then the minutes, then the seconds. -/
def place (time : TimeOfDay) : ℕ ×ₗ ℕ ×ₗ ℕ :=
  toLex (time.hours, toLex (time.minutes, time.seconds))

/-- The time after so many seconds. -/
def ofSeconds (count : ℕ) : TimeOfDay :=
  ⟨count / 3600, count % 3600 / 60, count % 60⟩

theorem total_ofSeconds (count : ℕ) : (ofSeconds count).total = count := by
  simp only [total, ofSeconds]
  omega

theorem minutes_ofSeconds_lt (count : ℕ) : (ofSeconds count).minutes < 60 := by
  simp only [ofSeconds]
  omega

theorem seconds_ofSeconds_lt (count : ℕ) : (ofSeconds count).seconds < 60 :=
  Nat.mod_lt _ (by decide)

/-- Times come in the order of their seconds. -/
theorem place_ofSeconds_le_iff {count other : ℕ} :
    (ofSeconds count).place ≤ (ofSeconds other).place ↔ count ≤ other := by
  simp only [place, ofSeconds, Prod.Lex.toLex_le_toLex]
  omega

/-! ## Fields -/

/-- The field is the number in decimal digits: at least two of them, and no more zeros in front
than that takes. -/
structure IsField (field : List Char) (count : ℕ) : Prop where
  digits : ∀ c ∈ field, c.isDigit = true
  value : digitsValue 10 field = count
  long : 2 ≤ field.length
  tight : 2 < field.length → field.head? ≠ some '0'

/-- The number that a field of digits tells. -/
def readField? (field : List Char) : Option ℕ :=
  if field.isEmpty || !field.all Char.isDigit then none else some (digitsValue 10 field)

variable {count : ℕ} {field : List Char}

theorem IsField.readField?_eq (isField : IsField field count) : readField? field = some count := by
  have filled : field ≠ [] := List.ne_nil_of_length_pos (by have := isField.long; omega)
  have digits : field.all Char.isDigit = true := List.all_eq_true.2 isField.digits
  simp [readField?, filled, digits, isField.value]

theorem IsField.colon_not_mem (isField : IsField field count) : ':' ∉ field := by
  intro colon
  exact absurd (isField.digits ':' colon) (by decide)

/-- The digits of a number above zero do not begin with a zero. -/
theorem head?_toDigits_ne_zero (positive : 0 < count) :
    (Nat.toDigits 10 count).head? ≠ some '0' := by
  induction count using Nat.strong_induction_on with
  | _ count ih =>
      by_cases few : count < 10
      · rw [Nat.toDigits_of_lt_base few]
        have digits : ∀ digit < 10, 0 < digit → digit.digitChar ≠ '0' := by decide
        intro zero
        exact digits count few positive (Option.some.inj zero)
      · have tens : 10 ≤ count := Nat.le_of_not_lt few
        rw [Nat.toDigits_of_base_le (by decide) tens,
          List.head?_append_of_ne_nil _ Nat.toDigits_ne_nil]
        exact ih (count / 10) (by omega) (by omega)

theorem toList_twoDigits_of_lt (few : count < 10) :
    (twoDigits count).toList = ['0', count.digitChar] := by
  rw [twoDigits, if_pos few, String.toList_append, Nat.toString_eq_repr, Nat.toList_repr,
    Nat.toDigits_of_lt_base few]
  rfl

theorem toList_twoDigits_of_le (many : 10 ≤ count) :
    (twoDigits count).toList = Nat.toDigits 10 count := by
  rw [twoDigits, if_neg (Nat.not_lt.2 many), Nat.toString_eq_repr, Nat.toList_repr]

theorem isField_twoDigits (count : ℕ) : IsField (twoDigits count).toList count := by
  rcases Nat.lt_or_ge count 10 with few | many
  · have one : (twoDigits count).toList = padded 1 count := by
      rw [toList_twoDigits_of_lt few, padded, Nat.toDigits_of_lt_base few]
      rfl
    refine ⟨?_, ?_, ?_, ?_⟩
    · rw [one]
      exact fun c => isDigit_of_mem_padded
    · rw [one, digitsValue_padded]
    · rw [toList_twoDigits_of_lt few]
      exact Nat.le_refl 2
    · rw [toList_twoDigits_of_lt few]
      intro longer
      exact absurd longer (Nat.lt_irrefl 2)
  · rw [toList_twoDigits_of_le many]
    refine ⟨fun c => isDigit_of_mem_toDigits, digitsValue_padded 0 count, ?_, ?_⟩
    · apply Nat.lt_of_not_le
      rw [Nat.length_toDigits_le_iff (by decide) (by decide)]
      omega
    · exact fun _ => head?_toDigits_ne_zero (by omega)

theorem length_twoDigits (bounded : count < 100) : (twoDigits count).toList.length = 2 := by
  rcases Nat.lt_or_ge count 10 with few | many
  · rw [toList_twoDigits_of_lt few]
    rfl
  · have long := (isField_twoDigits count).long
    rw [toList_twoDigits_of_le many] at long ⊢
    have short := (Nat.length_toDigits_le_iff (by decide) (by decide)).2
      (show count < 10 ^ 2 from bounded)
    omega

/-! ## Texts -/

/-- The text shows the time: three fields with colons between them, the last two of exactly two
digits and below sixty. -/
def IsShown (time : TimeOfDay) (text : String) : Prop :=
  ∃ hours minutes seconds, text.toList = hours ++ ':' :: (minutes ++ ':' :: seconds) ∧
    IsField hours time.hours ∧ IsField minutes time.minutes ∧ IsField seconds time.seconds ∧
    minutes.length = 2 ∧ seconds.length = 2 ∧ time.minutes < 60 ∧ time.seconds < 60

/-- The time that a text tells. -/
def read? (text : String) : Option TimeOfDay :=
  match text.toList.splitOn ':' with
  | [hours, minutes, seconds] => do
      let hours ← readField? hours
      let minutes ← readField? minutes
      let seconds ← readField? seconds
      return ⟨hours, minutes, seconds⟩
  | _ => none

/-- A time comes back from the text that shows it. -/
theorem IsShown.read?_eq {time : TimeOfDay} {text : String} (shown : time.IsShown text) :
    read? text = some time := by
  rcases shown with ⟨hours, minutes, seconds, parts, isHours, isMinutes, isSeconds, _⟩
  have fields : text.toList.splitOn ':' = [hours, minutes, seconds] := by
    rw [parts, List.splitOn_append_cons_self_of_not_mem isHours.colon_not_mem,
      List.splitOn_append_cons_self_of_not_mem isMinutes.colon_not_mem,
      List.splitOn_eq_singleton isSeconds.colon_not_mem]
  simp [read?, fields, isHours.readField?_eq, isMinutes.readField?_eq, isSeconds.readField?_eq]

variable {seconds other : Float}

theorem clockText_eq (seconds : Float) :
    clockText seconds = twoDigits (ofSeconds (wholePart seconds)).hours ++ ":" ++
      twoDigits (ofSeconds (wholePart seconds)).minutes ++ ":" ++
      twoDigits (ofSeconds (wholePart seconds)).seconds := by
  have whole : (if seconds.isFinite then (truncateUnsigned seconds).toNat else 0) =
      wholePart seconds := by
    split
    · rename_i finite
      exact toNat_truncateUnsigned finite
    · rename_i infinite
      rw [wholePart, value?_exact, if_neg infinite]
  rw [clockText]
  simp only [whole]
  rfl

theorem isShown_clockText (seconds : Float) :
    (ofSeconds (wholePart seconds)).IsShown (clockText seconds) := by
  refine ⟨_, _, _, ?_, isField_twoDigits _, isField_twoDigits _, isField_twoDigits _, ?_, ?_,
    minutes_ofSeconds_lt _, seconds_ofSeconds_lt _⟩
  · rw [clockText_eq]
    simp
  · exact length_twoDigits (Nat.lt_trans (minutes_ofSeconds_lt _) (by decide))
  · exact length_twoDigits (Nat.lt_trans (seconds_ofSeconds_lt _) (by decide))

theorem read?_clockText (seconds : Float) :
    read? (clockText seconds) = some (ofSeconds (wholePart seconds)) :=
  (isShown_clockText seconds).read?_eq

theorem clockText_eq_iff :
    clockText seconds = clockText other ↔ wholePart seconds = wholePart other := by
  constructor
  · intro same
    have times := (read?_clockText seconds).symm.trans (same ▸ read?_clockText other)
    have totals := congrArg total (Option.some.inj times)
    rwa [total_ofSeconds, total_ofSeconds] at totals
  · intro same
    rw [clockText_eq, clockText_eq, same]

/-- Every clock shows a time, and from its text comes back the number of whole seconds on it.
Clocks have one text if they stand in the same second, and of two texts the one that tells the
earlier time belongs to the earlier clock, also past a day and past a hundred hours. -/
theorem clockText_tells_time :
    (∀ seconds : Float, ∃ time : TimeOfDay, time.IsShown (clockText seconds) ∧
      read? (clockText seconds) = some time ∧ time.total = wholePart seconds) ∧
      (∀ (seconds other : Float) (value value' : ℚ), (exact seconds).value? = some value →
        (exact other).value? = some value' → 0 ≤ value → value < 2 ^ 64 → 0 ≤ value' →
        value' < 2 ^ 64 → (clockText seconds = clockText other ↔ ⌊value⌋₊ = ⌊value'⌋₊)) ∧
      ∀ seconds other : Float, ∃ time time', read? (clockText seconds) = some time ∧
        read? (clockText other) = some time' ∧
        (time.place ≤ time'.place ↔ wholePart seconds ≤ wholePart other) := by
  refine ⟨?_, ?_, ?_⟩
  · intro seconds
    exact ⟨_, isShown_clockText seconds, read?_clockText seconds, total_ofSeconds _⟩
  · intro seconds other value value' same same' nonneg within nonneg' within'
    rw [clockText_eq_iff, wholePart_of_lt same nonneg within,
      wholePart_of_lt same' nonneg' within']
  · intro seconds other
    exact ⟨_, _, read?_clockText seconds, read?_clockText other, place_ofSeconds_le_iff⟩

/-- Half a second and a quarter of a second after a hundred hours, a clock shows the same. -/
theorem hundredth_hour_tells_time :
    let value : ℚ := 720001 / 2
    let value' : ℚ := 1440001 / 4
    (exact 360000.5).value? = some value ∧ (exact 360000.25).value? = some value' ∧
      0 ≤ value ∧ value < 2 ^ 64 ∧ 0 ≤ value' ∧ value' < 2 ^ 64 ∧
      (clockText 360000.5 = clockText 360000.25 ↔ ⌊value⌋₊ = ⌊value'⌋₊) ∧
      clockText 360000.5 = "100:00:00" := by
  intro value value'
  have same : (exact 360000.5).value? = some value := by decide +kernel
  have same' : (exact 360000.25).value? = some value' := by decide +kernel
  have nonneg : 0 ≤ value := by norm_num [value]
  have within : value < 2 ^ 64 := by norm_num [value]
  have nonneg' : 0 ≤ value' := by norm_num [value']
  have within' : value' < 2 ^ 64 := by norm_num [value']
  exact ⟨same, same', nonneg, within, nonneg', within',
    clockText_tells_time.2.1 360000.5 360000.25 value value' same same' nonneg within nonneg'
      within', by decide +kernel⟩

end TimeOfDay

end ModeChoice
