import ModeChoice.Identifier
import ModeChoice.Plan.Trip

/-!
# Tours

The trips that one traveller makes in one day, in their order.  A tour is
usually built from the activities that its trips connect: consecutive trips
then share the activity between them.
-/

namespace ModeChoice

/-- Why activities and modes make no tour. -/
inductive TourError where
  | tooFewActivities (count : Nat)
  | modeCountMismatch (trips modes : Nat)
  deriving DecidableEq, Repr

/-- The wording of an error about tours. -/
def TourError.message : TourError → String
  | .tooFewActivities count => s!"a tour needs at least two activities, got {count}"
  | .modeCountMismatch trips modes => s!"{trips} trips but {modes} initial modes"

/-- The trips of one traveller's day. -/
structure Tour where
  agent : AgentId
  trips : List Trip
  deriving DecidableEq

/-- The trips between consecutive activities, numbered from `first`, as long
as there are modes for them. -/
def connect (first : Nat) : List Activity → List Mode → List Trip
  | origin :: destination :: rest, mode :: modes =>
      { index := first, origin, destination, initialMode := mode, departureTime := none } ::
        connect (first + 1) (destination :: rest) modes
  | _, _ => []

namespace Tour

/-- The tour that connects activities; `modes` holds the baseline mode of every
trip between two of them. -/
def ofActivities (agent : AgentId) (activities : List Activity) (modes : List Mode) :
    Except TourError Tour :=
  if activities.length < 2 then .error (.tooFewActivities activities.length)
  else if modes.length ≠ activities.length - 1 then
    .error (.modeCountMismatch (activities.length - 1) modes.length)
  else .ok ⟨agent, connect 0 activities modes⟩

/-- How many trips the tour has. -/
def size (tour : Tour) : Nat :=
  tour.trips.length

/-- Whether the tour has no trips. -/
def isEmpty (tour : Tour) : Bool :=
  tour.trips.isEmpty

/-- The baseline modes of the trips, in order. -/
def initialModes (tour : Tour) : List Mode :=
  tour.trips.map Trip.initialMode

end Tour

end ModeChoice
