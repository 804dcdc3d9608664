/-!
# First occurrences

Where a word first stands in a text, counted in characters.
-/

namespace ModeChoice.Text

/-- The position of the first occurrence of `word` in a text. -/
def firstOccurrence (word : List Char) : List Char → Option Nat
  | [] => if word.isEmpty then some 0 else none
  | c :: rest =>
      if word.isPrefixOf (c :: rest) then some 0
      else (firstOccurrence word rest).map (· + 1)

/-- `word` stands in `text` at `position`. -/
def OccursAt (word text : List Char) (position : Nat) : Prop :=
  ∃ before after, text = before ++ word ++ after ∧ before.length = position

/-- `word` stands in `text` at `position`, and nowhere further left. -/
structure FirstAt (word text : List Char) (position : Nat) : Prop where
  here : OccursAt word text position
  first : ∀ other, OccursAt word text other → position ≤ other

variable {word text : List Char} {position : Nat}

theorem occursAt_iff :
    OccursAt word text position ↔
      position ≤ text.length ∧ word <+: text.drop position := by
  constructor
  · rintro ⟨before, after, rfl, rfl⟩
    exact ⟨by simp, after, by simp⟩
  · rintro ⟨within, after, rest⟩
    refine ⟨text.take position, after, ?_, List.length_take_of_le within⟩
    rw [List.append_assoc, rest, List.take_append_drop]

instance : Decidable (OccursAt word text position) :=
  decidable_of_iff _ occursAt_iff.symm

theorem occursAt_zero : OccursAt word text 0 ↔ word <+: text := by
  simp [occursAt_iff]

theorem occursAt_cons_succ {c : Char} :
    OccursAt word (c :: text) (position + 1) ↔ OccursAt word text position := by
  simp [occursAt_iff]

theorem occursAt_nil : OccursAt word [] position ↔ word = [] ∧ position = 0 := by
  simp [occursAt_iff, and_comm]

/-- A beginning of a word stands wherever the word does. -/
theorem OccursAt.of_prefix {beginning : List Char} (here : OccursAt word text position)
    (begins : beginning <+: word) : OccursAt beginning text position := by
  rcases occursAt_iff.1 here with ⟨within, stands⟩
  exact occursAt_iff.2 ⟨within, begins.trans stands⟩

/-- Of two words at one place the shorter begins the longer. -/
theorem OccursAt.begins {longer : List Char} (here : OccursAt word text position)
    (there : OccursAt longer text position) (shorter : word.length ≤ longer.length) :
    word <+: longer :=
  List.prefix_of_prefix_length_le (occursAt_iff.1 here).2 (occursAt_iff.1 there).2 shorter

theorem FirstAt.unique {other : Nat} (one : FirstAt word text position)
    (two : FirstAt word text other) : position = other :=
  Nat.le_antisymm (one.first other two.here) (two.first position one.here)

theorem firstAt_zero : FirstAt word text 0 ↔ word <+: text := by
  constructor
  · intro first
    exact occursAt_zero.1 first.here
  · intro begins
    exact ⟨occursAt_zero.2 begins, fun _ _ => Nat.zero_le _⟩

/-- A word that does not begin a text stands first where it does behind the first
character. -/
theorem firstAt_cons_succ {c : Char} (later : ¬ word <+: c :: text) :
    FirstAt word (c :: text) (position + 1) ↔ FirstAt word text position := by
  constructor
  · rintro ⟨here, first⟩
    refine ⟨occursAt_cons_succ.1 here, fun other there => ?_⟩
    exact Nat.le_of_succ_le_succ (first (other + 1) (occursAt_cons_succ.2 there))
  · rintro ⟨here, first⟩
    refine ⟨occursAt_cons_succ.2 here, fun other there => ?_⟩
    cases other with
    | zero => exact absurd (occursAt_zero.1 there) later
    | succ other => exact Nat.succ_le_succ (first other (occursAt_cons_succ.1 there))

theorem firstOccurrence_cons_of_begins {c : Char} (begins : word <+: c :: text) :
    firstOccurrence word (c :: text) = some 0 :=
  if_pos (List.isPrefixOf_iff_prefix.2 begins)

theorem firstOccurrence_cons_of_later {c : Char} (later : ¬ word <+: c :: text) :
    firstOccurrence word (c :: text) = (firstOccurrence word text).map (· + 1) :=
  if_neg fun begins => later (List.isPrefixOf_iff_prefix.1 begins)

theorem firstOccurrence_eq_some_iff :
    firstOccurrence word text = some position ↔ FirstAt word text position := by
  induction text generalizing position with
  | nil =>
      constructor
      · intro found
        cases word with
        | nil =>
            cases found
            exact firstAt_zero.2 List.prefix_rfl
        | cons c word => cases found
      · rintro ⟨here, _⟩
        rcases occursAt_nil.1 here with ⟨rfl, rfl⟩
        rfl
  | cons c text ih =>
      by_cases begins : word <+: c :: text
      · rw [firstOccurrence_cons_of_begins begins, Option.some.injEq]
        constructor
        · rintro rfl
          exact firstAt_zero.2 begins
        · exact (firstAt_zero.2 begins).unique
      · rw [firstOccurrence_cons_of_later begins, Option.map_eq_some_iff]
        constructor
        · rintro ⟨place, found, rfl⟩
          exact (firstAt_cons_succ begins).2 (ih.1 found)
        · intro first
          cases position with
          | zero => exact absurd (firstAt_zero.1 first) begins
          | succ place => exact ⟨place, ih.2 ((firstAt_cons_succ begins).1 first), rfl⟩

theorem firstOccurrence_eq_none_iff :
    firstOccurrence word text = none ↔ ∀ position, ¬ OccursAt word text position := by
  induction text with
  | nil => cases word <;> simp [firstOccurrence, occursAt_nil]
  | cons c text ih =>
      by_cases begins : word <+: c :: text
      · rw [firstOccurrence_cons_of_begins begins]
        simpa using ⟨0, occursAt_zero.2 begins⟩
      · rw [firstOccurrence_cons_of_later begins, Option.map_eq_none_iff, ih]
        constructor
        · intro nowhere position there
          cases position with
          | zero => exact begins (occursAt_zero.1 there)
          | succ position => exact nowhere position (occursAt_cons_succ.1 there)
        · intro nowhere position there
          exact nowhere (position + 1) (occursAt_cons_succ.2 there)

theorem OccursAt.exists_first (there : OccursAt word text position) :
    ∃ first, first ≤ position ∧ FirstAt word text first := by
  cases found : firstOccurrence word text with
  | none => exact absurd there (firstOccurrence_eq_none_iff.1 found position)
  | some first =>
      have stands := firstOccurrence_eq_some_iff.1 found
      exact ⟨first, stands.first position there, stands⟩

end ModeChoice.Text
