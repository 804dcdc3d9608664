import ModeChoice.Document.Toml.Line
import ModeChoice.Number.Reading

/-!
# Texts in TOML

There are four kinds of texts.  Double quotation marks allow escapes, single
ones do not.  One mark on either side keeps the text on a line; three allow line
ends in it, of which the first is dropped where it follows the marks at once,
and every other one counts as a line feed.  In a text over many lines up to two
marks may stand together, also right before the three that end it, and a
backslash at the end of a line swallows all blanks and line ends up to the next
character.
-/

namespace ModeChoice.Toml

/-- How a text is enclosed. -/
structure Enclosure where
  mark : Char
  /-- Whether a backslash starts an escape. -/
  escapes : Bool
  /-- Whether there are three marks on either side. -/
  manyLines : Bool

/-- Where the reader of a text is. -/
inductive TextState where
  | plain
  | escaped
  /-- In the digits of a code, some of which are still missing. -/
  | inCode (missing value : Nat)
  /-- Behind some marks that may end the text. -/
  | marks (count : Nat)
  /-- Behind a carriage return. -/
  | returned
  /-- Behind a backslash and blanks, and perhaps behind line ends, too. -/
  | folding (lineEnded : Bool)
  /-- The same behind a carriage return. -/
  | foldingReturned
  deriving DecidableEq

namespace Enclosure

/-- A text after a character that does not end it: what is added, and where the
reader is then. -/
def plainStep (enclosure : Enclosure) (c : Char) : Option (List Char × TextState) :=
  if enclosure.escapes && c == '\\' then some ([], .escaped)
  else if isPlain c then some ([c], .plain)
  else if enclosure.manyLines && c == '\n' then some (['\n'], .plain)
  else if enclosure.manyLines && c == '\r' then some ([], .returned)
  else none

/-- The character that is written with a backslash and a letter. -/
def escapedChar? : Char → Option Char
  | 'b' => some '\x08'
  | 't' => some '\t'
  | 'n' => some '\n'
  | 'f' => some '\x0c'
  | 'r' => some '\r'
  | '"' => some '"'
  | '\\' => some '\\'
  | _ => none

/-- The same step behind a backslash. -/
def escapedStep (enclosure : Enclosure) (c : Char) : Option (List Char × TextState) :=
  if c == 'u' then some ([], .inCode 4 0)
  else if c == 'U' then some ([], .inCode 8 0)
  else if enclosure.manyLines && isBlank c then some ([], .folding false)
  else if enclosure.manyLines && c == '\n' then some ([], .folding true)
  else if enclosure.manyLines && c == '\r' then some ([], .foldingReturned)
  else (escapedChar? c).map fun character => ([character], .plain)

/-- The same step in the digits of a code. -/
def codeStep (missing value : Nat) (c : Char) : Option (List Char × TextState) :=
  if Number.isHexDigit c then
    let value := value * 16 + Number.digitValue c
    if 1 < missing then some ([], .inCode (missing - 1) value)
    else if value.isValidChar then some ([Char.ofNat value], .plain)
    else none
  else none

/-- The same step in a fold. -/
def foldingStep (enclosure : Enclosure) (lineEnded : Bool) (c : Char) :
    Option (List Char × TextState) :=
  if isBlank c then some ([], .folding lineEnded)
  else if c == '\n' then some ([], .folding true)
  else if c == '\r' then some ([], .foldingReturned)
  else if lineEnded then enclosure.plainStep c
  else none

/-- The same step wherever the reader is. -/
def step (enclosure : Enclosure) : TextState → Char → Option (List Char × TextState)
  | .plain, c | .marks _, c => enclosure.plainStep c
  | .escaped, c => enclosure.escapedStep c
  | .inCode missing value, c => codeStep missing value c
  | .returned, c => if c == '\n' then some (['\n'], .plain) else none
  | .folding lineEnded, c => enclosure.foldingStep lineEnded c
  | .foldingReturned, c => if c == '\n' then some ([], .folding true) else none

/-- How many marks end a text. -/
def closing (enclosure : Enclosure) : Nat :=
  if enclosure.manyLines then 3 else 1

/-- How many marks stand behind the reader. -/
def marksBehind : TextState → Nat
  | .marks count => count
  | _ => 0

/-- Whether a mark counts as one that may end the text. -/
def countsMarks : TextState → Bool
  | .plain | .marks _ => true
  | .folding lineEnded => lineEnded
  | _ => false

/-- The rest of a text up to the marks that end it: three marks end it, and up
to two more right before them belong to it. -/
def body (enclosure : Enclosure) : TextState → (input : List Char) →
    Option (List Char × Rest input)
  | state, [] =>
      let count := marksBehind state
      if enclosure.closing ≤ count then
        some (List.replicate (count - enclosure.closing) enclosure.mark, ⟨[], Nat.le_refl _⟩)
      else none
  | state, c :: rest =>
      let count := marksBehind state
      if c == enclosure.mark && countsMarks state then
        if !enclosure.manyLines then some ([], ⟨rest, Nat.le_succ _⟩)
        else if count < 5 then
          (enclosure.body (.marks (count + 1)) rest).map fun (read, rest) =>
            (read, ⟨rest.left, Nat.le_succ_of_le rest.le⟩)
        else none
      else if 3 ≤ count then
        some (List.replicate (count - 3) enclosure.mark, ⟨c :: rest, Nat.le_refl _⟩)
      else do
        let (added, after) ← enclosure.step state c
        let (more, rest) ← enclosure.body after rest
        return (List.replicate count enclosure.mark ++ added ++ more,
          ⟨rest.left, Nat.le_succ_of_le rest.le⟩)

end Enclosure

/-- A text with one mark on either side. -/
def lineText? : Reader String
  | [] => none
  | mark :: rest =>
      if mark == '"' || mark == '\'' then
        (Enclosure.body ⟨mark, mark == '"', false⟩ .plain rest).map fun (read, rest) =>
          (String.ofList read, rest.behind mark)
      else none

/-- A text with three marks on either side, after them. -/
def manyLineText? (mark : Char) (input : List Char) : Option (String × Rest input) :=
  (Enclosure.body ⟨mark, mark == '"', true⟩ .plain (skipLineEnd.run input)).map
    fun (read, rest) => (String.ofList read, ⟨rest.left, Nat.le_trans rest.le (skipLineEnd.le _)⟩)

/-- A text of any kind. -/
def text? : Reader String
  | first :: second :: third :: rest =>
      if (first == '"' || first == '\'') && second == first && third == first then
        (manyLineText? first rest).map fun (read, rest) =>
          (read, (rest.behind third).of (Nat.le_add_right _ 2))
      else lineText? (first :: second :: third :: rest)
  | input => lineText? input

end ModeChoice.Toml
