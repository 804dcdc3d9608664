import ModeChoice.Number.Reading

/-!
# Documents

What a structured text says, whatever its notation: nothing, a truth value, a
number, a text, a moment, a list, or a table whose members have names and stand
in the order of the text.

A notation may also admit a value that is well-formed and yet cannot be held,
such as a number beyond every double or half of a character.  It does no harm
where nobody asks for it, and therefore has a place of its own.
-/

namespace ModeChoice

/-- What a structured text says. -/
inductive Document where
  | nothing
  | truth (value : Bool)
  | whole (value : Int)
  | real (value : Float)
  | text (value : String)
  /-- A date, a time of day, or both. -/
  | moment
  | list (items : List Document)
  | table (members : List (String × Document))
  /-- A well-formed value that cannot be held. -/
  | unheld

namespace Document

mutual

/-- Whether every value in the document is held. -/
def isHeld : Document → Bool
  | .unheld => false
  | .list items => allHeld items
  | .table members => allMembersHeld members
  | .nothing | .truth _ | .whole _ | .real _ | .text _ | .moment => true

/-- Whether every item is held. -/
def allHeld : List Document → Bool
  | [] => true
  | item :: rest => item.isHeld && allHeld rest

/-- Whether every member is held. -/
def allMembersHeld : List (String × Document) → Bool
  | [] => true
  | (_, value) :: rest => value.isHeld && allMembersHeld rest

end

/-- Whether the document says nothing. -/
def isNothing : Document → Bool
  | .nothing => true
  | _ => false

/-- Whether the document is a table without members. -/
def isEmptyTable : Document → Bool
  | .table [] => true
  | _ => false

/-- Whether the document is a list without items. -/
def isEmptyList : Document → Bool
  | .list [] => true
  | _ => false

/-- A truth value. -/
def truth? : Document → Option Bool
  | .truth value => some value
  | _ => none

/-- A text. -/
def text? : Document → Option String
  | .text value => some value
  | _ => none

/-- A whole number from zero up to, and without, a bound. -/
def natural? (bound : Nat) : Document → Option Nat
  | .whole value => if 0 ≤ value && value < bound then some value.toNat else none
  | _ => none

/-- A number; a whole one counts as the double nearest to it. -/
def real? : Document → Option Float
  | .whole value => some (Number.ofDecimal (value < 0) value.natAbs 0)
  | .real value => some value
  | _ => none

/-- A list, item by item. -/
def list? {α : Type} (item : Document → Option α) : Document → Option (List α)
  | .list items => items.mapM item
  | _ => none

/-- A table, member by member. -/
def table? {α : Type} (item : Document → Option α) : Document → Option (List (String × α))
  | .table members =>
      members.mapM fun (name, value) => (item value).map fun read => (name, read)
  | _ => none

/-- A label: a text, or the name of the only member of a table in which a `void`
value stands beside the name. -/
def label? (void : Document → Bool) : Document → Option String
  | .text value => some value
  | .table [(name, value)] => if void value then some name else none
  | _ => none

end Document

end ModeChoice
