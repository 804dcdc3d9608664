import ModeChoice.Document.Toml.Moment
import ModeChoice.Document.Toml.Number
import ModeChoice.Document.Toml.Table
import ModeChoice.Document.Toml.Text

/-!
# Names and values in TOML

A name is a row of letters, digits, dashes and underscores, or a text on one
line; names with points between them are a dotted name.  A value is a word, a
text, a list or a table between braces.  A list may go over many lines and may
have a comma behind its last item; a table between braces stays on its line and
may not.  Containers are nested in one another up to a limit, and so are the
tables of a dotted name.
-/

namespace ModeChoice.Toml

/-- How deep containers and dotted names go, and no deeper. -/
def deepest : Nat := 79

/-- Items with commas between them up to a closing character; `skip` takes off
what may stand around items and commas. -/
def items {α : Type} (item : Reader α) (skip : Skip) (closing : Char) (mayTrail : Bool)
    (input : List Char) : Option (List α × Shorter input) :=
  match item (skip.run input) with
  | none => none
  | some (first, rest) =>
      match found : skip.run rest.left with
      | [] => none
      | c :: more =>
          have shorter : more.length < input.length :=
            Nat.lt_trans (Skip.le_of_run found) (Nat.lt_of_lt_of_le rest.lt (skip.le input))
          if c == closing then some ([first], ⟨more, shorter⟩)
          else if c != ',' then none
          else
            match ended : skip.run more with
            | [] => none
            | next :: after =>
                if mayTrail && next == closing then
                  some ([first], ⟨after, Nat.lt_trans (Skip.le_of_run ended) shorter⟩)
                else
                  (items item skip closing mayTrail more).map fun (others, after) =>
                    (first :: others, after.of (Nat.le_of_lt shorter))
termination_by input.length

/-- A character of a bare name. -/
def isNameChar (c : Char) : Bool :=
  c.isAlphanum || c == '-' || c == '_'

/-- A name by itself. -/
def name? : Reader String
  | [] => none
  | c :: rest =>
      if isNameChar c then
        some (String.ofList (c :: rest.takeWhile isNameChar),
          ⟨rest.dropWhile isNameChar, Nat.lt_succ_of_le (length_dropWhile_le ..)⟩)
      else lineText? (c :: rest)

/-- A dotted name, with blanks around each of its names. -/
def names? (input : List Char) : Option (List String × Shorter input) :=
  match name? (skipBlanks.run input) with
  | none => none
  | some (name, rest) =>
      have shorter : (skipBlanks.run rest.left).length < input.length :=
        Nat.lt_of_le_of_lt (skipBlanks.le _) (Nat.lt_of_lt_of_le rest.lt (skipBlanks.le input))
      match found : skipBlanks.run rest.left with
      | '.' :: more =>
          have shorter : more.length < input.length := by
            rw [found] at shorter
            exact Nat.lt_of_succ_lt shorter
          (names? more).map fun (others, after) =>
            (name :: others, after.of (Nat.le_of_lt shorter))
      | _ => some ([name], ⟨skipBlanks.run rest.left, shorter⟩)
termination_by input.length

/-- A dotted name that is not too deep. -/
def path? : Reader (List String) := fun input =>
  (names? input).filter fun (names, _) => names.length ≤ deepest

/-- A character of a word. -/
def isWordChar (c : Char) : Bool :=
  c.isAlphanum || c == '+' || c == '-' || c == '.' || c == ':' || c == '_'

/-- The value of a word. -/
def wordValue? (word : List Char) : Option Document :=
  if word = "true".toList then some (.truth true)
  else if word = "false".toList then some (.truth false)
  else if isMoment word then some .moment
  else (numeral? word).map fun
    | .whole value => .whole value
    | .real value => .real value

/-- What is left of a text after a date, if a time of day stands behind a space
there. -/
def afterClock? (date : List Char) (rest : List Char) : Option (Rest rest) :=
  match rest with
  | ' ' :: more =>
      if isDate date && isTimeWithOffset (more.takeWhile isWordChar) then
        some ⟨more.dropWhile isWordChar, Nat.le_succ_of_le (length_dropWhile_le ..)⟩
      else none
  | _ => none

/-- A value that is a word; a date takes in the time of day behind it. -/
def word? : Reader Document
  | [] => none
  | c :: input =>
      if isWordChar c then
        let word := c :: input.takeWhile isWordChar
        let rest : Rest input := ⟨input.dropWhile isWordChar, length_dropWhile_le ..⟩
        match afterClock? word rest.left with
        | some after => some (.moment, ⟨after.left, Nat.lt_succ_of_le (Nat.le_trans after.le rest.le)⟩)
        | none => (wordValue? word).map fun value => (value, rest.behind c)
      else none

/-- A dotted name and its value. -/
def pair? (value : Reader Document) : Reader (List String × Document) := fun input => do
  let (path, rest) ← path? input
  match found : rest.left with
  | '=' :: more =>
      let (read, after) ← value (skipBlanks.run more)
      have le : (skipBlanks.run more).length ≤ input.length := by
        have lt := rest.lt
        rw [found] at lt
        exact Nat.le_trans (skipBlanks.le more) (Nat.le_of_lt (Nat.lt_of_succ_lt lt))
      return ((path, read), after.of le)
  | _ => none

/-- The table of pairs between braces. -/
def tableOf? (pairs : List (List String × Document)) : Option Document :=
  (pairs.foldlM (fun members (path, value) => Members.assign members path value) []).map
    Members.document

/-- A list after its opening bracket. -/
def list? (value : Reader Document) : Reader Document := fun input =>
  match found : skipLines.run input with
  | ']' :: rest => some (.list [], ⟨rest, Skip.le_of_run found⟩)
  | _ => (items value skipLines ']' true input).map fun (read, rest) => (.list read, rest)

/-- A table after its opening brace. -/
def table? (value : Reader Document) : Reader Document := fun input =>
  match found : skipBlanks.run input with
  | '\x7d' :: rest => some (.table [], ⟨rest, Skip.le_of_run found⟩)
  | _ => do
      let (pairs, rest) ← items (pair? value) skipBlanks '\x7d' false input
      return (← tableOf? pairs, rest)

/-- A value in which containers are nested up to `depth`. -/
def value? (depth : Nat) : Reader Document
  | [] => none
  | c :: rest =>
      if c == '"' || c == '\'' then
        (text? (c :: rest)).map fun (read, rest) => (.text read, rest)
      else if c == '[' || c == '\x7b' then
        match depth with
        | 0 => none
        | depth + 1 =>
            let inner := if c == '[' then list? (value? depth) else table? (value? depth)
            (inner rest).map fun (read, after) => (read, after.behind c)
      else word? (c :: rest)

end ModeChoice.Toml
