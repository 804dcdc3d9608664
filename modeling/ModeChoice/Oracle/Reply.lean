import ModeChoice.Oracle.Basic
import ModeChoice.Text.Occurrence

/-!
# Replies in free text

Which mode a free answer names.  The answer is folded first: trimmed, put into
lower case, and with spaces and dashes turned into underscores, so that it reads
like a label.  An answer that is a label names its mode.  Any other names the
allowed mode whose label stands in it first, and of two labels at the same place
the longer, so that `car_passenger` is not read as `car`.
-/

namespace ModeChoice.Reply

/-- A space or a dash as an underscore, and any other character as it is. -/
def joinWords (c : Char) : Char :=
  if c = ' ' ∨ c = '-' then '_' else c

/-- The answer as it would be written as a label. -/
def folded (response : String) : List Char :=
  (Text.lowercase (Text.trim response).toList).map joinWords

/-- A mode and the place of its label in an answer. -/
structure Mention where
  place : Nat
  mode : Mode
  deriving DecidableEq

/-- The first mention of a mode. -/
def mention? (answer : List Char) (mode : Mode) : Option Mention :=
  (Text.firstOccurrence mode.label.toList answer).map fun place => ⟨place, mode⟩

/-- Whether a mention goes before another: it stands further left, or at the
same place with a longer label. -/
def Mention.precedes (one other : Mention) : Bool :=
  one.place < other.place ||
    (one.place == other.place && other.mode.label.length < one.mode.label.length)

/-- The mention that no other one precedes, the first of several. -/
def leading? : List Mention → Option Mention
  | [] => none
  | mention :: rest =>
      match leading? rest with
      | none => some mention
      | some other => if other.precedes mention then some other else some mention

/-- The allowed mode that an answer names. -/
def read (response : String) (allowed : List Mode) : Except OracleError Mode :=
  let answer := folded response
  match allowed.find? fun mode => mode.label.toList == answer with
  | some mode => .ok mode
  | none =>
      match leading? (allowed.filterMap (mention? answer)) with
      | some mention => .ok mention.mode
      | none => .error (.unmapped response)

end ModeChoice.Reply
