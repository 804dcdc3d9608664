import ModeChoice.Agent.Profile
import ModeChoice.Plan.Trip

/-!
# Availability

The modes that a traveller has for a whole tour.
-/

namespace ModeChoice

/-- Lists the modes that a traveller has for a tour. -/
structure Availability where
  modes : Agent → List Trip → List Mode

namespace Availability

/-- The same modes for everybody. -/
def fixed (modes : List Mode) : Availability where
  modes _ _ := modes

/-- A fixed list of modes, without the car for travellers who may not drive. -/
def byDriving (modes : List Mode) : Availability where
  modes agent _ :=
    let canDrive := (Profile.ofAgent agent).canDrive
    modes.filter fun mode => canDrive || mode != .car

end Availability

end ModeChoice
