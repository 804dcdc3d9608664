/-!
# Identifiers

Travellers and audited selections are known by numbers of their own kinds, so
that one can never stand where the other is meant.  The largest number of each
kind is the placeholder for "not assigned yet".
-/

namespace ModeChoice

/-- The identity of a traveller. -/
structure AgentId where
  number : UInt32
  deriving DecidableEq, Repr

/-- The sequence number of one audited selection. -/
structure SelectionId where
  number : UInt64
  deriving DecidableEq, Repr

namespace AgentId

/-- The identity that no traveller has yet. -/
def unassigned : AgentId := ⟨4294967295⟩

instance : Inhabited AgentId := ⟨unassigned⟩

instance : Hashable AgentId := ⟨fun agent => hash agent.number⟩

/-- Whether the identity has been assigned. -/
def isAssigned (agent : AgentId) : Bool :=
  agent != unassigned

/-- The identity as log lines and error messages show it. -/
def text (agent : AgentId) : String :=
  s!"AgentId({agent.number.toNat})"

end AgentId

namespace SelectionId

/-- The number that no selection has yet. -/
def unassigned : SelectionId := ⟨18446744073709551615⟩

instance : Inhabited SelectionId := ⟨unassigned⟩

/-- Whether the number has been assigned. -/
def isAssigned (selection : SelectionId) : Bool :=
  selection != unassigned

/-- The number of the selection after this one; the count starts again at zero
after the largest number. -/
def next (selection : SelectionId) : SelectionId :=
  ⟨selection.number + 1⟩

/-- The number as messages show it. -/
def text (selection : SelectionId) : String :=
  s!"SelectionId({selection.number.toNat})"

end SelectionId

end ModeChoice
