import Mathlib.Data.List.DropRight
import ModeChoice.Text.Blank

/-!
# The two ends of a text

White space is trimmed from a text, and quotation marks from a line, by the same rule:
characters of a class are taken off at both ends until one is met that is outside it.
What is taken off are characters of the class alone, and a middle that neither begins
nor ends with one is left as it is.
-/

namespace ModeChoice.Text

/-- The characters from the first to the last that is outside a class. -/
def stripped (inClass : Char → Bool) (characters : List Char) : List Char :=
  (characters.dropWhile inClass).rdropWhile inClass

theorem toList_trim (text : String) : (trim text).toList = stripped isBlank text.toList := by
  rw [trim, String.toList_ofList]
  rfl

theorem toList_trimMarks (mark : Char) (text : String) :
    (trimMarks mark text).toList = stripped (· == mark) text.toList := by
  simp only [trimMarks, String.toList_ofList]
  rfl

section Stripping

variable {inClass : Char → Bool} {front middle back : List Char}

theorem exists_stripped (inClass : Char → Bool) (characters : List Char) :
    ∃ front back, characters = front ++ stripped inClass characters ++ back ∧
      (∀ c ∈ front, inClass c = true) ∧ ∀ c ∈ back, inClass c = true := by
  refine ⟨characters.takeWhile inClass, (characters.dropWhile inClass).rtakeWhile inClass,
    ?_, ?_, ?_⟩
  · rw [stripped, List.append_assoc, List.rdropWhile_append_rtakeWhile,
      List.takeWhile_append_dropWhile]
  · intro c among
    exact List.mem_takeWhile_imp among
  · intro c among
    exact List.mem_rtakeWhile_imp among

theorem dropWhile_front {rest : List Char} (before : ∀ c ∈ front, inClass c = true)
    (opens : ∀ c ∈ rest.head?, inClass c = false) :
    (front ++ rest).dropWhile inClass = rest := by
  rw [List.dropWhile_append_of_pos before]
  cases rest with
  | nil => rfl
  | cons c rest => exact List.dropWhile_cons_of_neg (by simp [opens c rfl])

/-- What stands between characters of the class is left, if its own ends are outside it. -/
theorem stripped_append (before : ∀ c ∈ front, inClass c = true)
    (after : ∀ c ∈ back, inClass c = true) (opens : ∀ c ∈ middle.head?, inClass c = false)
    (closes : ∀ c ∈ middle.getLast?, inClass c = false) :
    stripped inClass (front ++ middle ++ back) = middle := by
  cases middle with
  | nil =>
      have all : ∀ c ∈ front ++ [] ++ back, inClass c = true := by
        intro c among
        rw [List.append_nil] at among
        exact (List.mem_append.1 among).elim (before c) (after c)
      rw [stripped, List.dropWhile_eq_nil_iff.2 all, List.rdropWhile_nil]
  | cons first rest =>
      have opened : (front ++ (first :: rest ++ back)).dropWhile inClass =
          first :: rest ++ back :=
        dropWhile_front before (by simpa using opens)
      rw [stripped, List.append_assoc, opened, List.rdropWhile, List.reverse_append,
        dropWhile_front, List.reverse_reverse]
      · intro c among
        exact after c (List.mem_reverse.1 among)
      · intro c last
        rw [List.head?_reverse] at last
        exact closes c last

/-- Where no character between them is of the class, the ends need no look of their own. -/
theorem stripped_append_of_outside (before : ∀ c ∈ front, inClass c = true)
    (after : ∀ c ∈ back, inClass c = true) (outside : ∀ c ∈ middle, inClass c = false) :
    stripped inClass (front ++ middle ++ back) = middle :=
  stripped_append before after
    (fun c first => outside c (List.mem_of_mem_head? first))
    (fun c last => outside c (List.mem_of_mem_getLast? last))

/-- Trimming leaves what stands between blanks and has none itself. -/
theorem toList_trim_of_parts {text : String} (parts : text.toList = front ++ middle ++ back)
    (before : ∀ c ∈ front, isBlank c = true) (after : ∀ c ∈ back, isBlank c = true)
    (ink : ∀ c ∈ middle, isBlank c = false) : (trim text).toList = middle := by
  rw [toList_trim, parts, stripped_append_of_outside before after ink]

end Stripping

/-! ## Ink -/

variable {text : String}

theorem hasInk_eq_false_iff : hasInk text = false ↔ ∀ c ∈ text.toList, isBlank c = true := by
  simp [hasInk]

theorem hasInk_of_begins {first : Char} {rest : List Char} (ink : isBlank first = false) :
    hasInk (String.ofList (first :: rest)) = true := by
  simp [hasInk, ink]

theorem hasInk_trim (text : String) : hasInk (trim text) = hasInk text := by
  rcases exists_stripped isBlank text.toList with ⟨front, back, parts, before, after⟩
  rw [Bool.eq_iff_iff, ← not_iff_not, Bool.not_eq_true, Bool.not_eq_true,
    hasInk_eq_false_iff, hasInk_eq_false_iff, toList_trim]
  constructor
  · intro blank c among
    rw [parts, List.mem_append, List.mem_append] at among
    rcases among with (here | here) | here
    · exact before c here
    · exact blank c here
    · exact after c here
  · intro blank c among
    apply blank
    rw [parts]
    simp [among]

theorem trim_eq_empty_iff : trim text = "" ↔ hasInk text = false := by
  constructor
  · intro nothing
    rw [← hasInk_trim, nothing]
    rfl
  · intro blank
    rw [← String.toList_inj, toList_trim, stripped,
      List.dropWhile_eq_nil_iff.2 (hasInk_eq_false_iff.1 blank), List.rdropWhile_nil]
    rfl

/-! ## Lines -/

theorem forall_mem_splitOn_iff {mark : Char} {characters : List Char} {holds : Char → Prop} :
    (∀ part ∈ characters.splitOn mark, ∀ c ∈ part, holds c) ↔
      ∀ c ∈ characters, c ≠ mark → holds c := by
  induction characters with
  | nil => simp
  | cons first rest ih =>
      rw [List.splitOn_cons_eq_if_modifyHead]
      split
      · rename_i cut
        rw [List.forall_mem_cons, List.forall_mem_cons, ih]
        simp [eq_of_beq cut]
      · rename_i still
        rcases List.exists_cons_of_ne_nil (List.splitOn_ne_nil mark rest) with
          ⟨head, others, parts⟩
        have other : first ≠ mark := by simpa using still
        rw [parts, List.forall_mem_cons] at ih
        rw [parts, List.modifyHead_cons, List.forall_mem_cons, List.forall_mem_cons,
          List.forall_mem_cons, ← ih, and_assoc]
        simp [other]

/-- A text is blank where all its lines are. -/
theorem forall_hasInk_lines_iff :
    (∀ line ∈ lines text, hasInk line = false) ↔ hasInk text = false := by
  have line_feed : isBlank '\n' = true := by decide
  rw [lines, List.forall_mem_map]
  simp only [hasInk_eq_false_iff, String.toList_ofList]
  rw [forall_mem_splitOn_iff]
  constructor
  · intro blank c among
    by_cases cut : c = '\n'
    · rw [cut, line_feed]
    · exact blank c among cut
  · intro blank c among _
    exact blank c among

end ModeChoice.Text
