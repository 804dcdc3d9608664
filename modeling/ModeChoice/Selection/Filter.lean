import ModeChoice.Agent.Basic
import ModeChoice.Plan.Trip

/-!
# Trip filters

Which trips go through the selection at all.  A trip that the filter rejects
keeps its initial mode, and nobody is asked about it.
-/

namespace ModeChoice

/-- Decides which trips go through the selection. -/
structure TripFilter where
  applies : Agent → Trip → Bool

namespace TripFilter

/-- Every trip goes through the selection. -/
def everyTrip : TripFilter where
  applies _ _ := true

/-- A trip goes through the selection when every part says so. -/
def both (parts : List TripFilter) : TripFilter where
  applies agent trip := parts.all fun part => part.applies agent trip

/-- Trips from or to an activity of one of the listed kinds are left out. -/
def excluding (kinds : List String) : TripFilter where
  applies _ trip :=
    !kinds.any fun kind => kind == trip.origin.kind || kind == trip.destination.kind

end TripFilter

end ModeChoice
