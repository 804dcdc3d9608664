import ModeChoice.Plan.Tour
import ModeChoice.Selection.Availability
import ModeChoice.Selection.Fallback
import ModeChoice.Selection.Filter
import ModeChoice.Selection.Retry

/-!
# The selection of a tour

For every trip of a tour, in order:

* the clock passes the activity at the origin and sets the trip's departure;
* a trip that the filter leaves out keeps its initial mode;
* any other trip goes through the retry loop, and where that ends without a
  mode the fallback policy decides;
* the auditor is told, and the duration of the kept candidate moves the clock.

Under `IGNORE_AGENT` a trip without a mode sends the whole tour back: it is
done again from midnight with the initial modes alone, and the auditor is told
of the tour as one decision.

A model serves any number of tours.  Between tours only the states of oracle
and auditor and the number of the next selection are kept; the random stream of
a tour depends on the run's seed and the traveller alone.
-/

namespace ModeChoice

/-- Everything that decides a selection. -/
structure Model (σ τ : Type) where
  oracle : Oracle σ
  estimator : Estimator
  availability : Availability
  constraints : ConstraintFactory
  filter : TripFilter
  fallback : Fallback
  interpretation : TimeInterpretation
  auditor : Auditor τ
  seed : UInt64

/-- What a model keeps between tours. -/
structure Desk (σ τ : Type) where
  oracle : σ
  auditor : τ
  nextSelection : SelectionId

/-- The state of a tour between two trips. -/
structure Progress (σ τ : Type) where
  clock : Clock
  random : Random
  desk : Desk σ τ
  /-- The candidates kept so far, in the order of the trips. -/
  kept : List Candidate

/-- Why a tour stops at a trip without a mode. -/
inductive Stop where
  | failure
  | reversal
  deriving DecidableEq, Repr

/-- The outcome of a trip's turn: the tour goes on, or it stops. -/
inductive TurnEnd (σ τ : Type) where
  | advanced (progress : Progress σ τ)
  | stopped (stop : Stop) (desk : Desk σ τ)

/-- A trip's turn. -/
structure Turn (σ τ : Type) where
  /-- The trip with its departure set. -/
  trip : Trip
  ending : TurnEnd σ τ
  events : List Event

/-- The outcome of a walk along trips: all had their turns, or one stopped the
tour. -/
inductive WalkEnd (σ τ : Type) where
  | finished (progress : Progress σ τ)
  | stopped (stop : Stop) (trip : Trip) (desk : Desk σ τ)

/-- A walk along trips. -/
structure Walk (σ τ : Type) where
  /-- All trips, those that had their turns with their departures set. -/
  trips : List Trip
  ending : WalkEnd σ τ
  events : List Event

/-- A tour done with its initial modes alone. -/
structure Baseline where
  trips : List Trip
  candidates : List Candidate
  events : List Event

/-- The selection of a tour, and everything that is different after it. -/
structure Selection (σ τ : Type) where
  outcome : Except ChoiceError (List Candidate)
  trips : List Trip
  desk : Desk σ τ
  events : List Event

/-- What is fixed when a tour has begun. -/
structure TourFrame where
  agent : Agent
  modes : TourModes
  constraint : Constraint

namespace Desk

variable {σ τ : Type}

/-- The desk of a model that has not been used. -/
def fresh (oracle : σ) (auditor : τ) : Desk σ τ :=
  ⟨oracle, auditor, ⟨0⟩⟩

/-- Tells the auditor of a decision under the next number. -/
def audit (desk : Desk σ τ) (auditor : Auditor τ) (agent : AgentId) (tripIndices : List Nat)
    (candidates : List Candidate) (selected : Selected) : Desk σ τ × Event :=
  let record : SelectionRecord :=
    { agent, tripIndices, selection := desk.nextSelection, candidates, selected }
  let (answer, state) := auditor.record desk.auditor record
  ( { desk with auditor := state, nextSelection := desk.nextSelection.next },
    .recorded record answer )

end Desk

namespace Model

variable {σ τ : Type}

/-- The trip by its initial mode. -/
def estimateInitial (model : Model σ τ) (agent : Agent) (trip : Trip) (prior : List Candidate) :
    Candidate :=
  model.estimator.estimate agent trip.initialMode trip prior

/-- The turn of a trip for which `candidate` is kept after `evaluated` were
estimated: the auditor is told, and the clock moves on. -/
def keep (model : Model σ τ) (agent : Agent) (progress : Progress σ τ) (clock : Clock)
    (trip : Trip) (evaluated : List Candidate) (candidate : Candidate) : Progress σ τ × Event :=
  let (desk, told) := progress.desk.audit model.auditor agent.id [trip.index] evaluated
    (.at (evaluated.length - 1))
  ( { progress with
      clock := clock.travel candidate.duration
      desk
      kept := progress.kept ++ [candidate] },
    told )

/-- The encounter of a trip after the progress made so far. -/
def encounter (model : Model σ τ) (frame : TourFrame) (trip : Trip) (prior : List Candidate) :
    Encounter where
  agent := frame.agent
  trip := trip
  constraint := frame.constraint
  estimator := model.estimator
  prior := prior

/-- The turn of a trip for which the initial mode is estimated and kept, after
`evaluated` were estimated in vain. -/
def keepInitial (model : Model σ τ) (frame : TourFrame) (progress : Progress σ τ) (clock : Clock)
    (trip : Trip) (evaluated : List Candidate) (events : List Event) : Turn σ τ :=
  let candidate := model.estimateInitial frame.agent trip progress.kept
  let (after, told) :=
    model.keep frame.agent progress clock trip (evaluated ++ [candidate]) candidate
  { trip
    ending := .advanced after
    events := events ++
      [.estimated trip trip.initialMode progress.kept candidate, told] }

/-- The turn of a trip that goes through the retry loop. -/
def chooseTurn (model : Model σ τ) (frame : TourFrame) (progress : Progress σ τ) (clock : Clock)
    (trip : Trip) (events : List Event) : Turn σ τ :=
  let search := (model.encounter frame trip progress.kept).search model.oracle
    frame.modes.candidates progress.desk.oracle progress.random
  let desk := { progress.desk with oracle := search.state }
  let progress := { progress with desk, random := search.random }
  let events := events ++ search.events
  match search.kept with
  | some candidate =>
      let (after, told) := model.keep frame.agent progress clock trip search.evaluated candidate
      { trip, ending := .advanced after, events := events ++ [told] }
  | none =>
      match model.fallback with
      | .initialChoice =>
          model.keepInitial frame progress clock trip search.evaluated
            (events ++ [.fellBack trip.index trip.initialMode])
      | .ignoreAgent =>
          { trip, ending := .stopped .reversal desk, events := events ++ [.reverted trip.index] }
      | .exception => { trip, ending := .stopped .failure desk, events }

/-- The turn of a trip. -/
def turn (model : Model σ τ) (frame : TourFrame) (progress : Progress σ τ) (planned : Trip) :
    Turn σ τ :=
  let clock := progress.clock.passActivity planned.origin.timing
  let trip := planned.departAt clock.time
  let pending := Event.entered trip.index .pending
  if model.filter.applies frame.agent trip then
    model.chooseTurn frame progress clock trip [pending]
  else model.keepInitial frame progress clock trip [] [pending, .leftOut trip.index]

/-- The walk along trips. -/
def walk (model : Model σ τ) (frame : TourFrame) : List Trip → Progress σ τ → Walk σ τ
  | [], progress => { trips := [], ending := .finished progress, events := [] }
  | planned :: rest, progress =>
      let turn := model.turn frame progress planned
      match turn.ending with
      | .advanced after =>
          let walk := model.walk frame rest after
          { trips := turn.trip :: walk.trips
            ending := walk.ending
            events := turn.events ++ walk.events }
      | .stopped stop desk =>
          { trips := turn.trip :: rest
            ending := .stopped stop turn.trip desk
            events := turn.events }

/-- The trips with their initial modes, from a clock on. -/
def baseline (model : Model σ τ) (agent : Agent) :
    List Trip → Clock → List Candidate → Baseline
  | [], _, _ => { trips := [], candidates := [], events := [] }
  | planned :: rest, clock, prior =>
      let clock := clock.passActivity planned.origin.timing
      let trip := planned.departAt clock.time
      let candidate := model.estimateInitial agent trip prior
      let after := model.baseline agent rest (clock.travel candidate.duration)
        (prior ++ [candidate])
      { trips := trip :: after.trips
        candidates := candidate :: after.candidates
        events := .estimated trip trip.initialMode prior candidate :: after.events }

/-- The tour sent back to its initial modes. -/
def revert (model : Model σ τ) (agent : Agent) (walk : Walk σ τ) (desk : Desk σ τ) :
    Selection σ τ :=
  let baseline := model.baseline agent walk.trips (Clock.midnight model.interpretation) []
  let (desk, told) := desk.audit model.auditor agent.id (baseline.trips.map Trip.index)
    baseline.candidates .all
  { outcome := .ok baseline.candidates
    trips := baseline.trips
    desk
    events := walk.events ++ baseline.events ++ [told] }

/-- The state of a tour before its first trip. -/
def begin (model : Model σ τ) (agent : Agent) (desk : Desk σ τ) : Progress σ τ where
  clock := Clock.midnight model.interpretation
  random := Random.forAgent model.seed agent.id
  desk := desk
  kept := []

/-- A mode for every trip of a traveller, in order. -/
def select (model : Model σ τ) (desk : Desk σ τ) (agent : Agent) (trips : List Trip) :
    Selection σ τ :=
  match TourModes.ofList (model.availability.modes agent trips) with
  | .error _ => { outcome := .error (.emptyModeSet agent.id), trips, desk, events := [] }
  | .ok modes =>
      let frame : TourFrame :=
        { agent, modes, constraint := model.constraints.create agent trips modes }
      let walk := model.walk frame trips (model.begin agent desk)
      match walk.ending with
      | .finished progress =>
          { outcome := .ok progress.kept
            trips := walk.trips
            desk := progress.desk
            events := walk.events }
      | .stopped .reversal _ desk => model.revert agent walk desk
      | .stopped .failure trip desk =>
          { outcome := .error (.noFeasibleChoice agent.id trip.index)
            trips := walk.trips
            desk
            events := walk.events }

end Model

end ModeChoice
