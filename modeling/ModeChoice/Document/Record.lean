import ModeChoice.Document.Basic

/-!
# Records in documents

A record is written as a table with its fields by name, in any order, or as a
list with its fields in their own order.  A field that is written twice makes
the record unreadable; so does a list with too many fields.  Whether a table
may have other members, and whether a list may leave out its last fields, is a
matter of the record.
-/

namespace ModeChoice.Document

/-- How a record is written. -/
structure Record where
  /-- The names of the fields, in order. -/
  names : List String
  /-- Whether a table may have other members. -/
  isOpen : Bool
  /-- Whether a list may leave out its last fields. -/
  mayStop : Bool

namespace Record

/-- A record that must be complete in a list and may have more in a table. -/
def ofNames (names : List String) : Record :=
  ⟨names, true, false⟩

/-- The value of a field in a table, if it is there; twice is an error. -/
def member (members : List (String × Document)) (name : String) : Option (Option Document) :=
  match members.filter fun entry => entry.1 == name with
  | [] => some none
  | [(_, value)] => some (some value)
  | _ :: _ :: _ => none

/-- The values of the fields, in their order. -/
def fields (record : Record) : Document → Option (List (Option Document))
  | .table members =>
      if record.isOpen || members.all fun entry => record.names.contains entry.1 then
        record.names.mapM (member members)
      else none
  | .list items =>
      let missing := record.names.length - items.length
      if items.length ≤ record.names.length && (missing == 0 || record.mayStop) then
        some (items.map some ++ List.replicate missing none)
      else none
  | _ => none

end Record

/-- A field that must be there. -/
def required {α : Type} (read : Document → Option α) (field : Option Document) : Option α :=
  field.bind read

/-- A field that may be missing or say nothing. -/
def optional {α : Type} (read : Document → Option α) :
    Option Document → Option (Option α)
  | none => some none
  | some value => if value.isNothing then some none else (read value).map some

/-- A field that has a value when it is missing. -/
def defaulted {α : Type} (standard : α) (read : Document → Option α) :
    Option Document → Option α
  | none => some standard
  | some value => read value

end ModeChoice.Document
