import ModeChoice.Mode

/-!
# Figures by mode

A table that has a figure for some of the modes.
-/

namespace ModeChoice

/-- A figure for some of the modes. -/
abbrev ModeTable (α : Type) := Mode → Option α

namespace ModeTable

/-- The table without figures. -/
def empty {α : Type} : ModeTable α := fun _ => none

/-- The table with one figure set. -/
def set {α : Type} (table : ModeTable α) (mode : Mode) (figure : α) : ModeTable α :=
  fun other => if other = mode then some figure else table other

/-- The table of a list of modes and figures; later figures win. -/
def ofList {α : Type} (entries : List (Mode × α)) : ModeTable α :=
  entries.foldl (fun table entry => table.set entry.1 entry.2) empty

end ModeTable

end ModeChoice
