/-!
# White space in TOML

Blanks are spaces and tabulators, a line ends with a line feed that may have a
carriage return before it, and a comment runs from a number sign to the end of
its line.  Control characters stand in no comment and in no text.

Whatever is read is read off the front of a text, and a reader hands back what
is left together with the proof that it is shorter.
-/

namespace ModeChoice.Toml

/-- What is left of a text from which something may have been taken. -/
structure Rest (input : List Char) where
  left : List Char
  le : left.length ≤ input.length

/-- What is left of a text from which something has been taken. -/
structure Shorter (input : List Char) where
  left : List Char
  lt : left.length < input.length

/-- A reader takes a value off the front of a text, or fails. -/
abbrev Reader (α : Type) := (input : List Char) → Option (α × Shorter input)

/-- Takes off the front of a text what says nothing. -/
structure Skip where
  run : List Char → List Char
  le : ∀ input, (run input).length ≤ input.length

variable {input : List Char}

/-- The text behind its first character. -/
def Rest.tail (c : Char) (input : List Char) : Rest (c :: input) :=
  ⟨input, Nat.le_succ _⟩

/-- The same text is left behind one more character. -/
def Rest.behind (rest : Rest input) (c : Char) : Shorter (c :: input) :=
  ⟨rest.left, Nat.lt_succ_of_le rest.le⟩

/-- The same text is left behind one more character. -/
def Shorter.behind (rest : Shorter input) (c : Char) : Shorter (c :: input) :=
  ⟨rest.left, Nat.lt_succ_of_lt rest.lt⟩

/-- The same text is left of a longer one. -/
def Shorter.of (rest : Shorter input) {longer : List Char}
    (le : input.length ≤ longer.length) : Shorter longer :=
  ⟨rest.left, Nat.lt_of_lt_of_le rest.lt le⟩

theorem Skip.le_of_run {skip : Skip} {c : Char} {rest : List Char}
    (found : skip.run input = c :: rest) : rest.length + 1 ≤ input.length := by
  have le := skip.le input
  rwa [found] at le

/-- A space or a tabulator. -/
def isBlank (c : Char) : Bool :=
  c == ' ' || c == '\t'

/-- A character that may stand in comments and texts as it is. -/
def isPlain (c : Char) : Bool :=
  c == '\t' || (0x20 ≤ c.toNat && c.toNat != 0x7f)

theorem length_dropWhile_le (holds : Char → Bool) (input : List Char) :
    (input.dropWhile holds).length ≤ input.length :=
  (List.dropWhile_suffix holds).length_le

/-- The text after its blanks. -/
def skipBlanks : Skip where
  run := List.dropWhile isBlank
  le := length_dropWhile_le isBlank

/-- The text after a comment at its front, if there is one. -/
def afterComment : List Char → List Char
  | '#' :: rest => rest.dropWhile isPlain
  | input => input

/-- The text after the line end at its front. -/
def lineEnd? : List Char → Option (List Char)
  | '\n' :: rest => some rest
  | '\r' :: '\n' :: rest => some rest
  | _ => none

theorem length_afterComment_le (input : List Char) :
    (afterComment input).length ≤ input.length := by
  unfold afterComment
  split
  · exact Nat.le_succ_of_le (length_dropWhile_le ..)
  · exact Nat.le_refl _

theorem length_lineEnd_lt {rest : List Char} (found : lineEnd? input = some rest) :
    rest.length < input.length := by
  unfold lineEnd? at found
  split at found
  · cases found
    exact Nat.lt_succ_self _
  · cases found
    exact Nat.lt_succ_of_lt (Nat.lt_succ_self _)
  · contradiction

/-- The text after blanks and a comment. -/
def skipRemark : Skip where
  run input := afterComment (skipBlanks.run input)
  le input := Nat.le_trans (length_afterComment_le _) (skipBlanks.le input)

/-- The text after blanks, comments and line ends. -/
def afterLines (input : List Char) : Rest input :=
  match ended : lineEnd? (skipRemark.run input) with
  | some next =>
      have shorter : next.length < input.length :=
        Nat.lt_of_lt_of_le (length_lineEnd_lt ended) (skipRemark.le input)
      let rest := afterLines next
      ⟨rest.left, Nat.le_trans rest.le (Nat.le_of_lt shorter)⟩
  | none => ⟨skipRemark.run input, skipRemark.le input⟩
termination_by input.length

/-- The text after blanks, comments and line ends. -/
def skipLines : Skip where
  run input := (afterLines input).left
  le input := (afterLines input).le

/-- The text after a line end at its front, if there is one. -/
def skipLineEnd : Skip where
  run input := (lineEnd? input).getD input
  le input := by
    cases found : lineEnd? input with
    | none => exact Nat.le_refl _
    | some rest => exact Nat.le_of_lt (length_lineEnd_lt found)

/-- The text after the rest of a line, on which there may be blanks and a
comment; the end of the text ends a line, too. -/
def restOfLine? (input : List Char) : Option (Rest input) :=
  match _left : skipRemark.run input with
  | [] => some ⟨[], Nat.zero_le _⟩
  | c :: rest =>
      match ended : lineEnd? (c :: rest) with
      | none => none
      | some next =>
          some ⟨next, Nat.le_of_lt
            (Nat.lt_of_lt_of_le (length_lineEnd_lt ended) (_left ▸ skipRemark.le input))⟩

end ModeChoice.Toml
