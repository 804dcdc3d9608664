import ModeChoice.Proofs.Text.Ends
import ModeChoice.Text.Lowercase

/-!
# Letters and their case

Words that stand in a configuration or in an attribute are matched without regard to the
case of ASCII letters and to the white space around them.  A text spells a word if it can be
cut into white space, something that differs from the word in case alone, and white space.
The comparison that is done, of the trimmed text in small letters with a word in small
letters, finds the spellings of the word and nothing else.
-/

namespace ModeChoice.Text

/-- The words differ at most in the case of ASCII letters. -/
def SameButCase (word other : List Char) : Prop :=
  word.map Char.toLower = other.map Char.toLower

instance (word other : List Char) : Decidable (SameButCase word other) :=
  inferInstanceAs (Decidable (_ = _))

/-- The text is the word, up to the case of ASCII letters, with nothing but white space
around it. -/
def Spells (text : String) (word : List Char) : Prop :=
  ∃ before middle after, text.toList = before ++ middle ++ after ∧
    (∀ c ∈ before, isBlank c = true) ∧ (∀ c ∈ after, isBlank c = true) ∧
    SameButCase middle word

variable {c : Char}

theorem toLower_eq_or_capital (c : Char) : c.toLower = c ∨ 65 ≤ c.toNat ∧ c.toNat ≤ 90 := by
  unfold Char.toLower
  split
  · rename_i capital
    exact .inr capital
  · exact .inl rfl

theorem isBlank_of_toLower (outside : isBlank c.toLower = false) : isBlank c = false := by
  rcases toLower_eq_or_capital c with same | capital
  · rw [← same, outside]
  · simp only [isBlank, Bool.or_eq_false_iff, Bool.and_eq_false_iff, decide_eq_false_iff_not,
      beq_eq_false_iff_ne]
    omega

theorem ascii_of_toLower (small : c.toLower.toNat < 0x80) : c.toNat < 0x80 := by
  rcases toLower_eq_or_capital c with same | capital
  · rwa [same] at small
  · omega

theorem lowercase_eq_map {word : List Char} (ascii : ∀ c ∈ word, c.toNat < 0x80) :
    lowercase word = word.map Char.toLower := by
  induction word with
  | nil => rfl
  | cons c rest ih =>
      rcases List.forall_mem_cons.1 ascii with ⟨first, others⟩
      rw [lowercase_cons, lowercaseChar_ascii first, ih others]
      rfl

/-! ## Spellings -/

variable {text : String} {word middle : List Char}

theorem toLower_mem_of_sameButCase (small : word.map Char.toLower = word)
    (same : SameButCase middle word) (among : c ∈ middle) : c.toLower ∈ word := by
  rw [← small, ← same]
  exact List.mem_map_of_mem among

/-- The middle of a spelling is what trimming leaves. -/
theorem spells_iff (small : word.map Char.toLower = word) (ink : ∀ c ∈ word, isBlank c = false) :
    Spells text word ↔ SameButCase (trim text).toList word := by
  constructor
  · rintro ⟨before, middle, after, parts, blank, blank', same⟩
    rw [toList_trim_of_parts parts blank blank']
    · exact same
    · intro c among
      exact isBlank_of_toLower (ink _ (toLower_mem_of_sameButCase small same among))
  · intro same
    rcases exists_stripped isBlank text.toList with ⟨before, after, parts, blank, blank'⟩
    rw [toList_trim] at same
    exact ⟨before, _, after, parts, blank, blank', same⟩

theorem lowercaseAscii_trim_eq_iff {word : String}
    (small : word.toList.map Char.toLower = word.toList)
    (ink : ∀ c ∈ word.toList, isBlank c = false) :
    lowercaseAscii (trim text) = word ↔ Spells text word.toList := by
  rw [spells_iff small ink, SameButCase, small, ← String.toList_inj, lowercaseAscii,
    String.toList_ofList]

end ModeChoice.Text
