import ModeChoice.Agent.Attributes
import ModeChoice.Identifier

/-!
# Travellers

A traveller is an identity and named attributes.  Nothing else about a
traveller is kept here; whoever derives more keeps it under the identity.
-/

namespace ModeChoice

/-- A traveller. -/
structure Agent where
  id : AgentId
  attributes : Attributes
  deriving DecidableEq

/-- The traveller of whom nothing is known. -/
def Agent.bare (id : AgentId) : Agent :=
  ⟨id, Attributes.empty⟩

end ModeChoice
