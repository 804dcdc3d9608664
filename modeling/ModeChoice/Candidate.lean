import ModeChoice.Mode
import ModeChoice.Number.Exact

/-!
# Trip candidates

One evaluated option for a trip: a mode, its utility and its travel duration
in seconds.  A utility that is infinite or no number says that the mode cannot
be used for the trip.  The duration of a candidate is always a number and
never below zero.
-/

namespace ModeChoice

/-- One evaluated option for a trip. -/
structure Candidate where
  mode : Mode
  utility : Float
  /-- Travel time in seconds. -/
  duration : Float
  duration_nonneg : 0 ≤ duration
  deriving DecidableEq

namespace Candidate

/-- The candidate with these figures; a duration below zero, or one that is no
number, is taken as zero. -/
def make (mode : Mode) (utility duration : Float) : Candidate where
  mode
  utility
  duration := Number.clampedBelow duration
  duration_nonneg := Number.clampedBelow_nonneg duration

/-- The candidate that marks a mode as unusable. -/
def infeasible (mode : Mode) : Candidate where
  mode
  utility := Number.negativeInfinity
  duration := 0
  duration_nonneg := by decide

/-- Whether the mode can be used: the utility is finite. -/
def isFeasible (candidate : Candidate) : Bool :=
  candidate.utility.isFinite

/-- The travel time in minutes. -/
def minutes (candidate : Candidate) : Float :=
  candidate.duration / 60

@[simp]
theorem mode_make (mode : Mode) (utility duration : Float) :
    (make mode utility duration).mode = mode := rfl

@[simp]
theorem mode_infeasible (mode : Mode) : (infeasible mode).mode = mode := rfl

end Candidate

end ModeChoice
