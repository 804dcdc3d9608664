import ModeChoice.Proofs.Oracle.Replies
import ModeChoice.Proofs.Text.Letters

/-!
# Spellings of a label

A configuration may write the label of a mode with white space around it and with capital
letters in it.  A text is a spelling of a label if it can be cut into white space, a word
that differs from the label in the case of ASCII letters alone, and white space.  The
strict reader accepts the spellings and nothing else, and the reader of replies, which
knows far more letters and looks into the middle of a text, reads every spelling of an
allowed mode as that mode.

Where the mode is not allowed a spelling names nothing, but for one: what spells
`car_passenger` has `car` in front and is read as it.
-/

namespace ModeChoice

open Text

namespace Mode

/-- The text is a word for the mode, up to the case of ASCII letters, with nothing but white
space around it. -/
def SpelledBy (mode : Mode) (text : String) : Prop :=
  ∃ before word after, text.toList = before ++ word ++ after ∧
    (∀ c ∈ before, isBlank c = true) ∧ (∀ c ∈ after, isBlank c = true) ∧
    SameButCase word mode.label.toList

variable {mode : Mode} {text : String} {word : List Char}

/-! ## Labels -/

theorem map_toLower_label (mode : Mode) :
    mode.label.toList.map Char.toLower = mode.label.toList := by
  cases mode <;> decide

theorem plain_of_mem_label {c : Char} (among : c ∈ mode.label.toList) :
    isBlank c = false ∧ c.toNat < 0x80 := by
  have plain : (mode.label.toList.all fun c => !isBlank c && decide (c.toNat < 0x80)) = true := by
    cases mode <;> decide
  simpa using List.all_eq_true.1 plain c among

/-- A word that differs from a label in case has no blank in it and nothing beyond ASCII. -/
theorem plain_of_sameButCase (same : SameButCase word mode.label.toList) {c : Char}
    (among : c ∈ word) : isBlank c = false ∧ c.toNat < 0x80 := by
  rcases plain_of_mem_label (toLower_mem_of_sameButCase (map_toLower_label mode) same among) with
    ⟨outside, ascii⟩
  exact ⟨isBlank_of_toLower outside, ascii_of_toLower ascii⟩

theorem spelledBy_iff :
    mode.SpelledBy text ↔ SameButCase (trim text).toList mode.label.toList :=
  spells_iff (map_toLower_label mode) fun _ among => (plain_of_mem_label among).1

/-! ## The strict reader -/

theorem ofLabel?_eq_some_iff : ofLabel? text = some mode ↔ mode.label = text := by
  constructor
  · exact label_of_ofLabel?
  · rintro rfl
    exact ofLabel?_label mode

theorem label_eq_lowercaseAscii_iff :
    mode.label = lowercaseAscii (trim text) ↔ mode.SpelledBy text := by
  rw [eq_comm]
  exact lowercaseAscii_trim_eq_iff (map_toLower_label mode)
    fun _ among => (plain_of_mem_label among).1

theorem parse_eq_ok_iff : parse text = .ok mode ↔ mode.SpelledBy text := by
  rw [← label_eq_lowercaseAscii_iff, ← ofLabel?_eq_some_iff, parse]
  cases ofLabel? (lowercaseAscii (trim text)) with
  | none => simp
  | some found => simp

theorem parse_eq_error_iff {failure : ModeError} :
    parse text = .error failure ↔
      failure = .unknown text ∧ ∀ mode : Mode, ¬ mode.SpelledBy text := by
  constructor
  · intro refused
    refine ⟨?_, ?_⟩
    · unfold parse at refused
      split at refused
      · cases refused
      · exact (Except.error.inj refused).symm
    · intro mode spelled
      cases refused.symm.trans (parse_eq_ok_iff.2 spelled)
  · rintro ⟨rfl, unspelled⟩
    unfold parse
    split
    · rename_i mode found
      have label := label_of_ofLabel? found
      exact absurd (label_eq_lowercaseAscii_iff.1 label) (unspelled mode)
    · rfl

end Mode

/-! ## The reader of replies -/

namespace Reply

variable {mode : Mode} {text : String} {allowed : List Mode}

/-- Folding an answer that spells a label gives the label. -/
theorem folded_of_spelled (spelled : mode.SpelledBy text) : folded text = word mode := by
  have same := Mode.spelledBy_iff.1 spelled
  have ascii : ∀ c ∈ (trim text).toList, c.toNat < 0x80 := by
    intro c among
    exact (Mode.plain_of_sameButCase same among).2
  have joined : (word mode).map joinWords = word mode := by
    cases mode <;> decide
  rw [folded, lowercase_eq_map ascii, same, Mode.map_toLower_label, joined]

/-- The labels in a label are itself and the `car` in `car_passenger`. -/
theorem occursAt_word_iff {other : Mode} {place : ℕ} :
    OccursAt (word other) (word mode) place ↔
      place = 0 ∧ (other = mode ∨ other = .car ∧ mode = .carPassenger) := by
  constructor
  · have short : (word mode).length < 14 := by cases mode <;> decide
    have all : ∀ place < 14, OccursAt (word other) (word mode) place →
        place = 0 ∧ (other = mode ∨ other = .car ∧ mode = .carPassenger) := by
      cases mode <;> cases other <;> decide
    intro there
    exact all place ((occursAt_iff.1 there).1.trans_lt short) there
  · rintro ⟨rfl, rfl | ⟨rfl, rfl⟩⟩
    · exact occursAt_zero.2 List.prefix_rfl
    · decide

/-- What the reader of replies makes of any text that spells a label. -/
theorem read_of_spelled (spelled : mode.SpelledBy text) (allowed : List Mode) :
    read text allowed =
      if mode ∈ allowed then .ok mode
      else if mode = .carPassenger ∧ .car ∈ allowed then .ok .car
      else .error (.unmapped text) := by
  have whole := folded_of_spelled spelled
  split
  · rename_i member
    exact read_eq_ok_iff.2 (names_of_word member whole)
  · rename_i forbidden
    split
    · rename_i passenger
      rcases passenger with ⟨rfl, member⟩
      refine read_eq_ok_iff.2 ⟨member, 0, ?_, ?_⟩
      · rw [whole]
        exact firstAt_zero.2 (by decide)
      · intro other among elsewhere first
        rw [whole] at first
        rcases occursAt_word_iff.1 first.here with ⟨rfl, rfl | ⟨rfl, _⟩⟩
        · exact absurd among forbidden
        · exact .inr ⟨rfl, le_rfl⟩
    · rename_i alone
      rw [read_eq_scan, scan_eq_error_iff]
      refine ⟨rfl, fun other among place there => ?_⟩
      rw [whole] at there
      rcases occursAt_word_iff.1 there with ⟨_, rfl | ⟨rfl, rfl⟩⟩
      · exact forbidden among
      · exact alone ⟨rfl, among⟩

/-- What becomes of a text in the strict reader and in the reader of replies. -/
structure ReadsSpellings (text : String) : Prop where
  accepted : ∀ mode, Mode.parse text = .ok mode ↔ mode.SpelledBy text
  /-- Nothing else is accepted, and the error has the text as it came. -/
  refused : ∀ failure, Mode.parse text = .error failure ↔
    failure = .unknown text ∧ ∀ mode : Mode, ¬ mode.SpelledBy text
  /-- A mode that the strict reader finds is found in a reply too, where it is allowed. -/
  agreed : ∀ mode allowed, Mode.parse text = .ok mode → mode ∈ allowed →
    read text allowed = .ok mode

/-- The strict reader accepts the spellings of labels, and the reader of replies reads them
alike. -/
theorem reads_spellings :
    (∀ mode : Mode, Mode.parse mode.label = .ok mode) ∧
      ∀ text, ReadsSpellings text := by
  constructor
  · intro mode
    exact Mode.parse_eq_ok_iff.2 ⟨[], _, [], by simp, by simp, by simp, rfl⟩
  · intro text
    constructor
    · intro mode
      exact Mode.parse_eq_ok_iff
    · intro failure
      exact Mode.parse_eq_error_iff
    · intro mode allowed found member
      rw [read_of_spelled (Mode.parse_eq_ok_iff.1 found), if_pos member]

/-- Capitals and an ideographic space make no difference, neither in a configuration nor in
a reply. -/
theorem reads_wide_passenger :
    Mode.parse " Car_PASSENGER\u3000" = .ok .carPassenger ∧
      read " Car_PASSENGER\u3000" [.car, .carPassenger] = .ok .carPassenger := by
  have found : Mode.parse " Car_PASSENGER\u3000" = .ok .carPassenger := by
    decide +kernel
  exact ⟨found, (reads_spellings.2 _).agreed _ [.car, .carPassenger] found (by decide)⟩

end Reply

end ModeChoice
