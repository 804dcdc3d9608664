import ModeChoice.Mode
import ModeChoice.Plan.Activity

/-!
# Trips

One movement between two activities.  Nothing of a trip ever changes but its
departure time, which is set when the trip's turn on the clock has come.
-/

namespace ModeChoice

/-- One trip of a tour. -/
structure Trip where
  /-- The place of the trip in its tour, counted from zero. -/
  index : Nat
  origin : Activity
  destination : Activity
  initialMode : Mode
  /-- Seconds since midnight, once the trip has been placed on the clock. -/
  departureTime : Option Float
  deriving DecidableEq

namespace Trip

/-- The trip with its departure set. -/
def departAt (trip : Trip) (seconds : Float) : Trip :=
  { trip with departureTime := some seconds }

/-- The straight-line distance of the trip in kilometres. -/
def kilometres (trip : Trip) : Float :=
  trip.origin.place.kilometresTo trip.destination.place

end Trip

end ModeChoice
