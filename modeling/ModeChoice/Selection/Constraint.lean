import ModeChoice.Agent.Basic
import ModeChoice.Candidate
import ModeChoice.ModeSet
import ModeChoice.ModeTable
import ModeChoice.Plan.Trip

/-!
# Constraints

Feasibility rules for a proposed mode.  A rule speaks twice: before the trip is
estimated it sees the mode and the modes kept for the earlier trips, and after
it sees the candidate and the candidates kept so far.  Rules are made once per
tour, so that they may know the whole tour, and hold together as a conjunction.
-/

namespace ModeChoice

/-- A feasibility rule for the trips of one tour. -/
structure Constraint where
  acceptsMode : Trip → Mode → List Mode → Bool
  acceptsCandidate : Trip → Candidate → List Candidate → Bool

/-- Makes the rule for a tour out of the traveller, the trips and the modes. -/
structure ConstraintFactory where
  create : Agent → List Trip → TourModes → Constraint

/-- Rules that hold together. -/
structure Conjunction where
  parts : List Constraint

/-- Makers of rules that hold together. -/
structure ConjunctionFactory where
  parts : List ConstraintFactory

namespace Constraint

/-- The rule that accepts everything. -/
def accepting : Constraint where
  acceptsMode _ _ _ := true
  acceptsCandidate _ _ _ := true

/-- The same rule for every tour. -/
def forEveryTour (constraint : Constraint) : ConstraintFactory where
  create _ _ _ := constraint

end Constraint

namespace Conjunction

/-- How many rules there are. -/
def size (conjunction : Conjunction) : Nat :=
  conjunction.parts.length

/-- Whether there are no rules. -/
def isEmpty (conjunction : Conjunction) : Bool :=
  conjunction.parts.isEmpty

/-- The rule that accepts what every part accepts. -/
def toConstraint (conjunction : Conjunction) : Constraint where
  acceptsMode trip mode previous :=
    conjunction.parts.all fun part => part.acceptsMode trip mode previous
  acceptsCandidate trip candidate previous :=
    conjunction.parts.all fun part => part.acceptsCandidate trip candidate previous

end Conjunction

namespace ConjunctionFactory

/-- How many makers there are. -/
def size (factory : ConjunctionFactory) : Nat :=
  factory.parts.length

/-- Whether there are no makers. -/
def isEmpty (factory : ConjunctionFactory) : Bool :=
  factory.parts.isEmpty

/-- The maker of the conjunction of all the parts' rules. -/
def toFactory (factory : ConjunctionFactory) : ConstraintFactory where
  create agent trips modes :=
    (Conjunction.mk (factory.parts.map fun part => part.create agent trips modes)).toConstraint

end ConjunctionFactory

/-- A mode is refused for a trip longer than its limit in kilometres; a mode
without a limit never is. -/
def Constraint.maxDistance (limits : ModeTable Float) : Constraint where
  acceptsMode trip mode _ :=
    match limits mode with
    | some limit => trip.kilometres ≤ limit
    | none => true
  acceptsCandidate _ _ _ := true

/-- A candidate is refused when it takes longer than the limit of its mode, or
than the general limit where its mode has none, in seconds. -/
def Constraint.maxTravelTime (general : Float) (limits : ModeTable Float) : Constraint where
  acceptsMode _ _ _ := true
  acceptsCandidate _ candidate _ := candidate.duration ≤ (limits candidate.mode).getD general

/-- A candidate is refused when it arrives later than the planned end of the
activity at the destination plus the slack, in seconds.  Without a departure
or a planned end there is nothing to be late for. -/
def Constraint.timeWindow (slack : Float) : Constraint where
  acceptsMode _ _ _ := true
  acceptsCandidate trip candidate _ :=
    match trip.departureTime, trip.destination.endTime with
    | some departure, some ending => departure + candidate.duration ≤ ending + slack
    | _, _ => true

/-- Places at most this far apart are the same place, metres. -/
def samePlaceMetres : Float := 1

/-- Where the vehicle of a mode stands after trips by the `previous` modes to
the `destinations`: at the end of the last trip that used it, and at `start` if
none did. -/
def vehicleLocation
    (start : Location)
    (destinations : List Location)
    (mode : Mode)
    (previous : List Mode) : Location :=
  let used := (previous.zip destinations).filter fun leg => leg.1 == mode
  (used.getLast?.map Prod.snd).getD start

/-- A private vehicle can only be taken from where it is.  All vehicles stand
at the origin of the first trip in the beginning. -/
def Constraint.vehicleContinuity (start : Location) (destinations : List Location) :
    Constraint where
  acceptsMode trip mode previous :=
    if mode.isPrivateVehicle then
      (vehicleLocation start destinations mode previous).metresTo trip.origin.place ≤
        samePlaceMetres
    else true
  acceptsCandidate _ _ _ := true

/-- Vehicle continuity for the trips of a tour. -/
def ConstraintFactory.vehicleContinuity : ConstraintFactory where
  create _ trips _ :=
    Constraint.vehicleContinuity
      ((trips.head?.map fun trip => trip.origin.place).getD Location.origin)
      (trips.map fun trip => trip.destination.place)

end ModeChoice
