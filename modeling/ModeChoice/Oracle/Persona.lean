import ModeChoice.Random
import Std.Data.HashMap

/-!
# Personas

One line that says who a traveller is.  Personas that have been found are
remembered by traveller; the first one stays until all are forgotten.
-/

namespace ModeChoice

/-- Personas for travellers who have none of their own: the usual spread of
town and country and of ways to live. -/
def stockPersonas : List String :=
  [ "City-centre student on a tight budget who cycles whenever the weather allows",
    "Suburban nurse on rotating shifts who relies on the regional train",
    "Rural farmer who drives a pickup for almost every errand",
    "Young software developer with a transit pass and no interest in owning a car",
    "Parent of two in a commuter town who chains school runs with the drive to work",
    "Retired nurse in a small town who walks to the shops and takes the bus for longer trips",
    "Sales representative who spends most of the day driving between clients",
    "Environmentally minded architect who bikes in the city and takes trains between cities",
    "Part-time retail worker without a licence who depends on buses and lifts from friends",
    "Senior manager with a company car and reserved parking at the office",
    "Teenager who gets around on foot, by bike, or as a passenger in the family car",
    "Tradesperson carrying tools who needs the van for work trips" ]

/-- The stock persona that stands in for a draw that fails. -/
def firstStockPersona : String :=
  "City-centre student on a tight budget who cycles whenever the weather allows"

/-- A stock persona drawn from the stream. -/
def drawPersona (random : Random) : String × Random :=
  let (drawn, after) := random.choose stockPersonas
  (drawn.getD firstStockPersona, after)

/-- The personas found so far. -/
structure PersonaCache where
  entries : Std.HashMap AgentId String

namespace PersonaCache

/-- No personas. -/
def empty : PersonaCache := ⟨∅⟩

/-- The persona of a traveller. -/
def get? (cache : PersonaCache) (agent : AgentId) : Option String :=
  cache.entries[agent]?

/-- The cache with a persona for a traveller; one that is there already stays. -/
def remember (cache : PersonaCache) (agent : AgentId) (persona : String) : PersonaCache :=
  ⟨cache.entries.insertIfNew agent persona⟩

/-- How many travellers have a persona. -/
def size (cache : PersonaCache) : Nat :=
  cache.entries.size

@[simp]
theorem get?_empty (agent : AgentId) : empty.get? agent = none := by
  simp [get?, empty]

theorem get?_remember (cache : PersonaCache) (agent other : AgentId) (persona : String) :
    (cache.remember agent persona).get? other =
      if agent = other ∧ cache.get? other = none then some persona else cache.get? other := by
  simp only [get?, remember, Std.HashMap.getElem?_insertIfNew, beq_iff_eq]
  by_cases same : agent = other
  · subst same
    simp [getElem?_eq_none_iff]
  · simp [same]

end PersonaCache

end ModeChoice
