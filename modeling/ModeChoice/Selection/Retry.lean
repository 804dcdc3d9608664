import ModeChoice.Selection.Constraint
import ModeChoice.Selection.Event

/-!
# The retry loop of one trip

The oracle is asked for a mode out of the trip's own copy of the tour's modes,
from which the constraint has first taken what it refuses.  The proposal is
estimated and checked, and a rejected mode is taken out of the copy before the
oracle is asked again.  The loop ends with the first candidate that is accepted,
when the copy is empty, or when the oracle fails or proposes a mode that it was
not offered.  As the copy shrinks with every round, it always ends.
-/

namespace ModeChoice

/-- What stays the same while a mode is sought for one trip. -/
structure Encounter where
  agent : Agent
  /-- The trip with its departure set. -/
  trip : Trip
  constraint : Constraint
  estimator : Estimator
  /-- The candidates kept for the earlier trips, in order. -/
  prior : List Candidate

/-- The outcome of the loop, and everything that is different after it. -/
structure Search (σ : Type) where
  kept : Option Candidate
  /-- Every candidate that was estimated, in order. -/
  evaluated : List Candidate
  state : σ
  random : Random
  events : List Event

/-- The estimate of one proposed mode and whether it was accepted. -/
structure Trial where
  candidate : Candidate
  accepted : Bool
  events : List Event

namespace Encounter

/-- The modes kept for the earlier trips. -/
def previousModes (encounter : Encounter) : List Mode :=
  encounter.prior.map Candidate.mode

/-- The constraint's verdict on a mode before estimation. -/
def admits (encounter : Encounter) (mode : Mode) : Bool :=
  encounter.constraint.acceptsMode encounter.trip mode encounter.previousModes

/-- The trip by a mode, as the estimator sees it. -/
def estimate (encounter : Encounter) (mode : Mode) : Candidate :=
  encounter.estimator.estimate encounter.agent mode encounter.trip encounter.prior

/-- The constraint's verdict on a candidate after estimation. -/
def approves (encounter : Encounter) (candidate : Candidate) : Bool :=
  encounter.constraint.acceptsCandidate encounter.trip candidate encounter.prior

/-- What the oracle is shown when `open` modes are left. -/
def context (encounter : Encounter) (left : OpenModes) : TripContext where
  agent := encounter.agent
  trip := encounter.trip
  validModes := left
  prior := encounter.prior
  estimator := encounter.estimator

/-- The trip enters a state. -/
def enter (encounter : Encounter) (state : TripState) : Event :=
  .entered encounter.trip.index state

/-- The questions to the constraint about the modes that are left. -/
def screening (encounter : Encounter) (left : OpenModes) : List Event :=
  left.modes.map fun mode =>
    .screened encounter.trip mode encounter.previousModes (encounter.admits mode)

/-- The trial of a proposed mode: it is estimated, its utility must be finite,
and the constraint must approve. -/
def tryMode (encounter : Encounter) (mode : Mode) : Trial :=
  let candidate := encounter.estimate mode
  let begun := [encounter.enter .validating,
    Event.estimated encounter.trip mode encounter.prior candidate]
  if candidate.isFeasible then
    let verdict := encounter.approves candidate
    { candidate
      accepted := verdict
      events := begun ++ [.judged encounter.trip candidate encounter.prior verdict,
        encounter.enter (if verdict then .accepted else .retry)] }
  else
    { candidate
      accepted := false
      events := begun ++ [.illegalUtility encounter.trip.index mode candidate.utility,
        encounter.enter .retry] }

end Encounter

namespace Search

variable {σ : Type}

/-- A search that ends without a mode and without an estimate. -/
def exhausted (state : σ) (random : Random) (events : List Event) : Search σ :=
  { kept := none, evaluated := [], state, random, events }

/-- The search with an estimate and events before it. -/
def after (search : Search σ) (candidate : Candidate) (events : List Event) : Search σ :=
  { search with
    evaluated := candidate :: search.evaluated
    events := events ++ search.events }

end Search

/-- The retry loop over the modes that are left. -/
def Encounter.search {σ : Type} (encounter : Encounter) (oracle : Oracle σ) (left : OpenModes)
    (state : σ) (random : Random) : Search σ :=
  let screening := encounter.screening left
  let valid := left.retain encounter.admits
  if valid.isEmpty then
    .exhausted state random (screening ++ [encounter.enter .exhausted])
  else
    let context := encounter.context valid
    let proposal := oracle.propose state random context
    let asked := screening ++
      [encounter.enter .awaitingRecommendation, .asked context proposal.answer proposal.log]
    match proposal.answer with
    | .error _ =>
        .exhausted proposal.state proposal.random (asked ++ [encounter.enter .exhausted])
    | .ok mode =>
        if _offered : mode ∈ valid.modes then
          let trial := encounter.tryMode mode
          if trial.accepted then
            { kept := some trial.candidate
              evaluated := [trial.candidate]
              state := proposal.state
              random := proposal.random
              events := asked ++ trial.events }
          else
            (encounter.search oracle (valid.without mode) proposal.state proposal.random).after
              trial.candidate (asked ++ trial.events)
        else .exhausted proposal.state proposal.random (asked ++ [encounter.enter .exhausted])
termination_by left.size
decreasing_by
  exact Nat.lt_of_lt_of_le (OpenModes.size_without_lt _offered) (OpenModes.size_retain_le _ _)

end ModeChoice
