import ModeChoice.Agent.Basic
import Std.Data.HashMap

/-!
# Populations

Travellers in the order in which they were first added, with a look-up by
identity.  Adding a traveller whose identity is present replaces the old one
where it stands.
-/

namespace ModeChoice

/-- Travellers in order of first addition.  The map from identities to places
holds exactly the places of the travellers. -/
structure Population where
  agents : Array Agent
  places : Std.HashMap AgentId Nat
  places_iff : ∀ id place, places[id]? = some place ↔ (agents[place]?).map Agent.id = some id

namespace Population

/-- A population without travellers. -/
def empty : Population where
  agents := #[]
  places := ∅
  places_iff := by simp

instance : Inhabited Population := ⟨empty⟩

/-- The population with one traveller added, or replaced where the identity is
present. -/
def insert (population : Population) (agent : Agent) : Population :=
  match found : population.places[agent.id]? with
  | some place =>
      { agents := population.agents.setIfInBounds place agent
        places := population.places
        places_iff := by
          intro id other
          have here := (population.places_iff agent.id place).1 found
          rw [population.places_iff, Array.getElem?_setIfInBounds]
          by_cases same : place = other
          · subst same
            have bound : place < population.agents.size := by
              rcases Nat.lt_or_ge place population.agents.size with bound | bound
              · exact bound
              · simp [Array.getElem?_eq_none bound] at here
            rw [here]
            simp [bound]
          · simp [same] }
  | none =>
      { agents := population.agents.push agent
        places := population.places.insert agent.id population.agents.size
        places_iff := by
          intro id place
          rw [Std.HashMap.getElem?_insert, Array.getElem?_push]
          by_cases same : agent.id = id
          · subst same
            simp only [beq_self_eq_true, if_true]
            constructor
            · rintro ⟨⟩
              simp
            · intro there
              split at there
              · rename_i last
                rw [last]
              · have := (population.places_iff agent.id place).2 there
                simp [found] at this
          · simp only [beq_iff_eq, same, if_false, population.places_iff]
            split
            · rename_i last
              simp [last, same]
            · exact Iff.rfl }

/-- The population of a list of travellers. -/
def ofList (agents : List Agent) : Population :=
  agents.foldl insert empty

/-- The traveller with this identity. -/
def get? (population : Population) (id : AgentId) : Option Agent :=
  population.places[id]?.bind fun place => population.agents[place]?

/-- How many travellers there are. -/
def size (population : Population) : Nat :=
  population.agents.size

/-- Whether there is nobody. -/
def isEmpty (population : Population) : Bool :=
  population.agents.isEmpty

/-- The travellers in order of first addition. -/
def toList (population : Population) : List Agent :=
  population.agents.toList

end Population

end ModeChoice
