import ModeChoice.Proofs.Tour.Departures
import ModeChoice.Proofs.Tour.Foresight
import ModeChoice.Proofs.Tour.Parts

/-!
# Planned ends and time windows

Where an activity between two trips has a planned end, the second trip does not depart
before it, and the time window is there so that the first one is not late for it.  The
window and the clock add the same doubles, so that what the window accepts has no later
arrival on the clock.  A duration that the clock does not count, because it is not
finite, cannot make the clock late, and the window refuses it where it should.

Hence with a window the next trip departs between the planned end and the end of the
window, and right at the planned end if the window gives no slack.
-/

namespace ModeChoice

/-- A planned end that is a time settles the end of the activity, unless a planned
duration may settle it earlier. -/
theorem TimeInterpretation.endTime?_of_planned {interpretation : TimeInterpretation}
    (first : interpretation = .endTimeThenDuration ∨ interpretation = .endTimeOnly)
    {timing : ActivityTiming} {ending : Float} (planned : timing.endTime = some ending)
    (finite : ending.isFinite = true) (now : Float) :
    interpretation.endTime? timing now = some ending := by
  have counts : finite? timing.endTime = some ending := by
    rw [planned]
    exact Option.filter_some_pos finite
  rcases first with rfl | rfl
  · simp [endTime?, counts]
  · simp [endTime?, counts]

namespace Clock

@[simp]
theorem interpretation_passActivity (clock : Clock) (timing : ActivityTiming) :
    (clock.passActivity timing).interpretation = clock.interpretation := by
  unfold passActivity
  split <;> rfl

@[simp]
theorem interpretation_travel (clock : Clock) (duration : Float) :
    (clock.travel duration).interpretation = clock.interpretation := by
  unfold travel
  split <;> rfl

theorem interpretation_replay (clock : Clock) (trips : List Trip) (kept : List Candidate) :
    (clock.replay trips kept).interpretation = clock.interpretation := by
  induction trips generalizing clock kept with
  | nil => rfl
  | cons trip rest ih =>
      cases kept with
      | nil => rw [replay_nil]
      | cons candidate others => rw [replay_cons, ih]; simp

/-- The clock is never later than the arrival, whether it counts the duration or
not. -/
theorem travel_le_add {clock : Clock} {duration : Float} (started : 0 ≤ clock.time)
    (nonneg : 0 ≤ duration) (number : (clock.time + duration).isNaN = false) :
    (clock.travel duration).time ≤ clock.time + duration := by
  unfold travel
  split
  · exact Number.le_refl number
  · exact Number.le_add_of_nonneg (Number.isNaN_eq_false_of_le started) nonneg number

/-- After an arrival within the window of an activity the clock passes its planned end
no later than the window allows. -/
theorem passActivity_within {clock : Clock} {timing : ActivityTiming}
    {duration ending slack : Float}
    (first : clock.interpretation = .endTimeThenDuration ∨ clock.interpretation = .endTimeOnly)
    (planned : timing.endTime = some ending) (finite : ending.isFinite = true)
    (finite' : slack.isFinite = true) (started : 0 ≤ clock.time) (nonneg : 0 ≤ duration)
    (within : clock.time + duration ≤ ending + slack) :
    ending ≤ ((clock.travel duration).passActivity timing).time ∧
      ((clock.travel duration).passActivity timing).time ≤
        Number.larger ending (ending + slack) ∧
      (slack ≤ 0 → (((clock.travel duration).passActivity timing).time == ending) = true) := by
  have number : ending.isNaN = false := Number.isNaN_eq_false_of_isFinite finite
  have number' : (ending + slack).isNaN = false := Number.isNaN_add_of_finite number finite'
  have arrived : (clock.travel duration).time ≤ ending + slack :=
    Number.le_trans (travel_le_add started nonneg (Number.isNaN_left_of_le within)) within
  have passed : ((clock.travel duration).passActivity timing).time =
      Number.larger (clock.travel duration).time ending := by
    have ends := TimeInterpretation.endTime?_of_planned
      ((clock.interpretation_travel duration).symm ▸ first) planned finite
      (clock.travel duration).time
    rw [passActivity, ends]
  rw [passed]
  have reached : ending ≤ Number.larger (clock.travel duration).time ending :=
    Number.le_larger_right (Number.isNaN_left_of_le arrived) number
  refine ⟨reached, ?_, ?_⟩
  · exact Number.larger_le (Number.le_trans arrived (Number.le_larger_right number number'))
      (Number.le_larger _ number)
  · intro tight
    have early := Number.add_le_of_nonpos number tight number'
    exact Number.beq_of_le_of_le
      (Number.larger_le (Number.le_trans arrived early) (Number.le_refl number)) reached

end Clock

/-- The window accepts what arrives within the slack after the planned end. -/
theorem acceptsCandidate_timeWindow {slack departure ending : Float} {trip : Trip}
    {candidate : Candidate} {previous : List Candidate}
    (departs : trip.departureTime = some departure)
    (planned : trip.destination.endTime = some ending) :
    (Constraint.timeWindow slack).acceptsCandidate trip candidate previous = true ↔
      departure + candidate.duration ≤ ending + slack := by
  simp [Constraint.timeWindow, departs, planned]

namespace Model

variable {σ τ : Type}

/-- In a walk to the end the clock of a stage is that of the stage before it, after the
travelling. -/
theorem Journey.clock_next {model : Model σ τ} {frame : TourFrame} {trips : List Trip}
    {agent : Agent} {desk : Desk σ τ} {stages : List (Stage σ τ)} {walk : Walk σ τ}
    (journey : model.Journey frame trips (model.begin agent desk) stages walk)
    {progress : Progress σ τ} (finished : walk.ending = .finished progress) {place : ℕ}
    {stage next : Stage σ τ} {candidate : Candidate} (there : stages[place]? = some stage)
    (after : stages[place + 1]? = some next)
    (keeps : model.keptAt frame stage = some candidate) :
    next.progress.clock = stage.clock.travel candidate.duration := by
  have reading {place : ℕ} {stage : Stage σ τ} (there : stages[place]? = some stage) :
      stage.progress.clock =
        (Clock.midnight model.interpretation).replay trips (progress.kept.take place) := by
    rcases journey.clock_eq there with ⟨earlier, found, _, reading⟩
    rcases journey.kept_of_stage rfl finished there with ⟨_, _, _, prior⟩
    have same : stage.progress.kept = earlier := found
    rw [reading, ← same, prior]
    rfl
  rcases journey.kept_of_stage rfl finished there with ⟨_, here, keeps', _⟩
  cases keeps.symm.trans keeps'
  rw [reading after, Clock.replay_take_succ _ (journey.planned_getElem? there) here, Stage.clock,
    reading there]

theorem Journey.started {model : Model σ τ} {frame : TourFrame} {trips : List Trip}
    {agent : Agent} {desk : Desk σ τ} {stages : List (Stage σ τ)} {walk : Walk σ τ}
    (journey : model.Journey frame trips (model.begin agent desk) stages walk) {place : ℕ}
    {stage : Stage σ τ} (there : stages[place]? = some stage) :
    0 ≤ stage.clock.time ∧ stage.clock.interpretation = model.interpretation := by
  rcases journey.clock_eq there with ⟨earlier, _, _, reading⟩
  have midnight : 0 ≤ (Clock.midnight model.interpretation).time := Number.le_refl rfl
  have started : 0 ≤ stage.progress.clock.time := by
    rw [reading]
    exact Number.le_trans midnight (Clock.le_replay midnight)
  constructor
  · exact Number.le_trans started
      (Clock.le_passActivity _ _ (Number.isNaN_eq_false_of_le started))
  · rw [Stage.clock, Clock.interpretation_passActivity, reading, Clock.interpretation_replay]
    rfl

/-- Time windows keep the planned ends.  Where the rules of a model include a time
window, and planned ends come first in reading the plan, the trip after one for which the
retry loop has found a mode departs no earlier than the planned end of the activity
between the two, and no later than the window allows; without slack it departs right at
the planned end. -/
theorem select_keeps_planned_ends (model : Model σ τ) (desk : Desk σ τ) (agent : Agent)
    (trips : List Trip) {kept : List Candidate} {slack : Float}
    (window : (Constraint.timeWindow slack).forEveryTour.Within model.constraints)
    (finite : slack.isFinite = true)
    (first : model.interpretation = .endTimeThenDuration ∨
      model.interpretation = .endTimeOnly)
    (succeeded : (model.select desk agent trips).outcome = .ok kept)
    (unreverted : ¬ (model.select desk agent trips).Reverted) :
    ∃ modes, TourModes.ofList (model.availability.modes agent trips) = .ok modes ∧
      (model.history desk agent trips modes).length = trips.length ∧
      ∀ place stage candidate,
        (model.history desk agent trips modes)[place]? = some stage →
        model.foundAt (model.frameOf agent trips modes) stage = some candidate →
        trips[place]? = some stage.planned ∧ kept[place]? = some candidate ∧
          ∀ next ending, trips[place + 1]? = some next →
            next.origin = stage.planned.destination →
            next.origin.endTime = some ending → ending.isFinite = true →
            ∃ departing time,
              (model.select desk agent trips).trips[place + 1]? = some departing ∧
              departing.departureTime = some time ∧
              ending ≤ time ∧ time ≤ Number.larger ending (ending + slack) ∧
              (slack ≤ 0 → (time == ending) = true) := by
  rcases exists_journey_of_unreverted succeeded unreverted with
    ⟨modes, walk, progress, available, journey, finished, rfl, dated⟩
  refine ⟨modes, available, (journey.of_finished finished).1, ?_⟩
  intro place stage candidate there found
  have keeps := keptAt_of_foundAt found
  rcases journey.kept_of_stage rfl finished there with ⟨same, here, keeps', _⟩
  cases keeps.symm.trans keeps'
  refine ⟨journey.planned_getElem? there, here, ?_⟩
  intro planned ending follows shared ends finite'
  have within := (List.getElem?_eq_some_iff.1 follows).1
  rw [← (journey.of_finished finished).1] at within
  have after := List.getElem?_eq_getElem within
  generalize (model.history desk agent trips modes)[place + 1] = next at after
  cases (journey.planned_getElem? after).symm.trans follows
  rcases journey.started there with ⟨started, reading⟩
  rcases accepted_of_foundAt found (window agent trips modes) with ⟨_, _, _, approved⟩
  have arrives := (acceptsCandidate_timeWindow rfl (shared ▸ ends)).1 approved
  refine ⟨next.trip, next.clock.time, ?_, rfl, ?_⟩
  · rw [dated, journey.trip_getElem? after]
  · rw [Stage.clock, journey.clock_next finished there after keeps]
    exact Clock.passActivity_within (reading ▸ first) ends finite' finite started
      candidate.duration_nonneg arrives

/-- A model under everyday rules and without slack, in which the car never arrives. -/
def punctual : Model Unit Unit :=
  { commuter .exception with
    estimator := Estimator.constant fun mode =>
      some (1, if mode == .car then Number.infinity else 600)
    constraints := ConjunctionFactory.toFactory
      ⟨[everydayRules, (Constraint.timeWindow 0).forEveryTour]⟩ }

/-- The car is refused on the way to work, and the bike is there ten minutes before the
end of work, so that the way home begins right then. -/
theorem punctual_keeps_planned_end :
    let work : Activity := ⟨"work", ⟨3000, 4000⟩, some 30000, none⟩
    let trips := connect 0 [⟨"home", ⟨0, 0⟩, some 28800, none⟩, work,
      ⟨"home", ⟨0, 0⟩, none, none⟩] [.walk, .walk]
    let selection := punctual.select (Desk.fresh () ()) (Agent.bare ⟨7⟩) trips
    selection.outcome = .ok [Candidate.make .bike 1 600, Candidate.make .bike 1 600] ∧
      ∃ departing time, selection.trips[1]? = some departing ∧
        departing.departureTime = some time ∧ (time == 30000) = true := by
  intro work trips selection
  let modes : TourModes := ⟨[.car, .walk, .bike], by decide, by decide⟩
  have available : TourModes.ofList (punctual.availability.modes (Agent.bare ⟨7⟩) trips) =
      .ok modes := by
    decide
  have window : (Constraint.timeWindow 0).forEveryTour.Within punctual.constraints :=
    .inPart (by simp) .itself
  have succeeded : selection.outcome =
      .ok [Candidate.make .bike 1 600, Candidate.make .bike 1 600] := by
    decide +kernel
  have unreverted : ¬ selection.Reverted := by
    decide +kernel
  have earlier : (punctual.history (Desk.fresh () ()) (Agent.bare ⟨7⟩) trips modes)[0]?.bind
      (punctual.foundAt (punctual.frameOf (Agent.bare ⟨7⟩) trips modes)) =
        some (Candidate.make .bike 1 600) := by
    decide +kernel
  rcases Option.bind_eq_some_iff.1 earlier with ⟨stage, there, found⟩
  rcases select_keeps_planned_ends punctual (Desk.fresh () ()) (Agent.bare ⟨7⟩) trips window
    (by decide) (.inr rfl) succeeded unreverted with ⟨modes', available', _, each⟩
  cases available.symm.trans available'
  rcases each 0 stage _ there found with ⟨planned, _, follow⟩
  have leads : stage.planned.destination = work :=
    congrArg Trip.destination (Option.some.inj planned).symm
  rcases follow _ 30000 rfl leads.symm rfl (by decide) with
    ⟨departing, time, dated, departs, _, _, tight⟩
  exact ⟨succeeded, departing, time, dated, departs, tight (by decide)⟩

end Model

end ModeChoice
