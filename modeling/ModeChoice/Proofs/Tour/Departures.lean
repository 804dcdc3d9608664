import ModeChoice.Proofs.Number.Sum
import ModeChoice.Proofs.Tour.Briefing

/-!
# Departures in order

The clock of a tour never runs backwards.  An activity ends now at the earliest, and
a trip takes the time of its candidate, which is not below zero; a time that is not
finite does not count, and what is no number never gets as far as the clock.  So the
departures of a tour stand in order, and a finite trip is over before the next one
departs.

This is read off the departures that replay the kept candidates, and therefore it
holds in the same way of a tour that has gone through, of one that was sent back and
dated a second time, and of the trips before the one at which a tour failed.
-/

namespace ModeChoice

namespace Clock

/-! ## One step of the clock -/

theorem le_passActivity (clock : Clock) (timing : ActivityTiming)
    (number : clock.time.isNaN = false) :
    clock.time ≤ (clock.passActivity timing).time := by
  unfold passActivity
  split
  · exact Number.le_larger _ number
  · exact Number.le_refl number

/-- A trip is over when the clock has travelled, if it takes finite time. -/
theorem add_le_travel {clock : Clock} {duration : Float} (started : 0 ≤ clock.time)
    (nonneg : 0 ≤ duration) (finite : duration.isFinite = true) :
    clock.time + duration ≤ (clock.travel duration).time := by
  have number : clock.time.isNaN = false := Number.isNaN_eq_false_of_le started
  unfold travel
  split
  · exact Number.le_refl (Number.isNaN_eq_false_of_le (Number.le_add started nonneg finite))
  · rename_i still
    rw [finite, Bool.true_and, decide_eq_true_eq] at still
    exact Number.add_le_self number nonneg still

theorem le_travel {clock : Clock} {duration : Float} (started : 0 ≤ clock.time)
    (nonneg : 0 ≤ duration) :
    clock.time ≤ (clock.travel duration).time := by
  unfold travel
  split
  · rename_i moving
    exact Number.le_add started nonneg (Bool.and_eq_true_iff.1 moving).1
  · exact Number.le_refl (Number.isNaN_eq_false_of_le started)

/-! ## Step after step -/

variable {trips : List Trip} {kept : List Candidate}

theorem le_replay {clock : Clock} (started : 0 ≤ clock.time) :
    clock.time ≤ (clock.replay trips kept).time := by
  induction trips generalizing clock kept with
  | nil => exact Number.le_refl (Number.isNaN_eq_false_of_le started)
  | cons trip rest ih =>
      cases kept with
      | nil =>
          rw [replay_nil]
          exact Number.le_refl (Number.isNaN_eq_false_of_le started)
      | cons candidate others =>
          have passed := clock.le_passActivity trip.origin.timing
            (Number.isNaN_eq_false_of_le started)
          have gone := le_travel (Number.le_trans started passed) candidate.duration_nonneg
          have later := Number.le_trans passed gone
          exact Number.le_trans later (ih (Number.le_trans started later))

/-- The clock after one more trip. -/
theorem replay_take_succ (clock : Clock) {place : ℕ} {trip : Trip} {candidate : Candidate}
    (here : trips[place]? = some trip) (keeps : kept[place]? = some candidate) :
    clock.replay trips (kept.take (place + 1)) =
      ((clock.replay trips (kept.take place)).passActivity trip.origin.timing).travel
        candidate.duration := by
  induction trips generalizing clock kept place with
  | nil => cases here
  | cons first rest ih =>
      cases kept with
      | nil => cases keeps
      | cons earliest others =>
          cases place with
          | zero =>
              cases here
              cases keeps
              simp
          | succ place => exact ih _ here keeps

end Clock

/-! ## Trips in order -/

/-- The trips depart in order: every departure is a time of day or later, none lies
before the one of the trip before it, and none before the end of that trip if this
one takes finite time. -/
structure Timely (dated : List Trip) (kept : List Candidate) : Prop where
  departs : ∀ trip ∈ dated, ∃ time,
    trip.departureTime = some time ∧ time.isNaN = false ∧ 0 ≤ time
  ordered : ∀ (place : ℕ) (trip next : Trip), dated[place]? = some trip →
    dated[place + 1]? = some next → ∃ candidate time later,
      kept[place]? = some candidate ∧ trip.departureTime = some time ∧
      next.departureTime = some later ∧ time ≤ later ∧
      (candidate.duration.isFinite = true → time + candidate.duration ≤ later)

/-- The trips depart by a clock that starts at midnight and replays the kept
candidates. -/
structure Replayed (interpretation : TimeInterpretation) (trips dated : List Trip)
    (kept : List Candidate) : Prop where
  enough : dated.length ≤ kept.length + 1
  stamped : ∀ (place : ℕ) (trip : Trip), dated[place]? = some trip →
    ∃ planned, trips[place]? = some planned ∧ trip = planned.departAt
      (((Clock.midnight interpretation).replay trips (kept.take place)).passActivity
        planned.origin.timing).time

theorem Replayed.timely {interpretation : TimeInterpretation} {trips dated : List Trip}
    {kept : List Candidate} (replayed : Replayed interpretation trips dated kept) :
    Timely dated kept := by
  have midnight : 0 ≤ (Clock.midnight interpretation).time := Number.le_refl rfl
  have started (place : ℕ) :
      0 ≤ ((Clock.midnight interpretation).replay trips (kept.take place)).time :=
    Number.le_trans midnight (Clock.le_replay midnight)
  have departed (place : ℕ) (planned : Trip) :
      0 ≤ (((Clock.midnight interpretation).replay trips (kept.take place)).passActivity
        planned.origin.timing).time :=
    Number.le_trans (started place)
      (Clock.le_passActivity _ _ (Number.isNaN_eq_false_of_le (started place)))
  constructor
  · intro trip among
    rcases List.mem_iff_getElem?.1 among with ⟨place, there⟩
    rcases replayed.stamped place trip there with ⟨planned, _, rfl⟩
    exact ⟨_, rfl, Number.isNaN_eq_false_of_le (departed place planned), departed place planned⟩
  · intro place trip next there after
    rcases replayed.stamped place trip there with ⟨planned, here, rfl⟩
    rcases replayed.stamped (place + 1) next after with ⟨planned', _, rfl⟩
    have within : place < kept.length := by
      have enough := replayed.enough
      have beyond := (List.getElem?_eq_some_iff.1 after).1
      omega
    have keeps := List.getElem?_eq_getElem within
    refine ⟨kept[place], _, _, keeps, rfl, rfl, ?_⟩
    -- The next trip departs after the activity that follows the travelling.
    have step := (Clock.midnight interpretation).replay_take_succ here keeps
    have passed := Clock.le_passActivity _ planned'.origin.timing
      (Number.isNaN_eq_false_of_le (started (place + 1)))
    rw [step] at passed ⊢
    constructor
    · exact Number.le_trans
        (Clock.le_travel (departed place planned) kept[place].duration_nonneg) passed
    · intro finite
      exact Number.le_trans
        (Clock.add_le_travel (departed place planned) kept[place].duration_nonneg finite) passed

theorem InitialTour.replayed {estimator : Estimator} {interpretation : TimeInterpretation}
    {agent : Agent} {trips dated : List Trip} {candidates : List Candidate}
    (tour : InitialTour estimator interpretation agent trips dated candidates) :
    Replayed interpretation trips dated candidates := by
  constructor
  · rw [tour.dates, tour.complete]
    exact Nat.le_succ _
  · intro place trip there
    have within := (List.getElem?_eq_some_iff.1 there).1
    rw [tour.dates] at within
    have here := List.getElem?_eq_getElem within
    have stamped := tour.stamped place _ here
    exact ⟨_, here, Option.some.inj (there.symm.trans stamped)⟩

namespace Model

variable {σ τ : Type} {model : Model σ τ} {frame : TourFrame} {trips : List Trip}
  {stages : List (Stage σ τ)}

/-- What an earlier stage finds kept is a piece of what a later one finds. -/
theorem Briefed.kept_take {place place' : ℕ} {earlier later : Stage σ τ}
    (one : model.Briefed frame trips stages place earlier)
    (other : model.Briefed frame trips stages place' later) (order : place ≤ place') :
    earlier.progress.kept = later.progress.kept.take place := by
  apply (List.map_inj_right fun _ _ => Option.some.inj).1
  calc
    earlier.progress.kept.map some
      = (stages.take place).map (model.keptAt frame) := one.kept.symm
    _ = ((stages.take place').take place).map (model.keptAt frame) := by
          rw [List.take_take, Nat.min_eq_left order]
    _ = ((stages.take place').map (model.keptAt frame)).take place := List.map_take
    _ = (later.progress.kept.map some).take place := by rw [other.kept]
    _ = (later.progress.kept.take place).map some := List.map_take.symm

namespace Journey

variable {agent : Agent} {desk : Desk σ τ} {walk : Walk σ τ} {kept : List Candidate}

theorem replayed (journey : model.Journey frame trips (model.begin agent desk) stages walk)
    (enough : stages.length ≤ kept.length + 1)
    (all : ∀ place stage, stages[place]? = some stage →
      stage.progress.kept = kept.take place) :
    Replayed model.interpretation trips (stages.map Stage.trip) kept := by
  constructor
  · rw [List.length_map]
    exact enough
  · intro place trip there
    rw [List.getElem?_map] at there
    rcases Option.map_eq_some_iff.1 there with ⟨stage, here, rfl⟩
    have briefed := journey.briefed here
    have departure := briefed.departure
    rw [all place stage here] at departure
    exact ⟨stage.planned, briefed.planned, departure⟩

theorem replayed_of_finished
    (journey : model.Journey frame trips (model.begin agent desk) stages walk)
    {progress : Progress σ τ} (finished : walk.ending = .finished progress) :
    Replayed model.interpretation trips walk.trips progress.kept := by
  have full := (journey.of_finished finished).1
  have dated : walk.trips = stages.map Stage.trip := by
    rw [journey.trips_eq, full, List.drop_length, List.append_nil]
  rw [dated]
  apply journey.replayed
  · rw [full, journey.length_kept rfl finished]
    exact Nat.le_succ _
  · intro place stage there
    rcases journey.kept_of_stage rfl finished there with ⟨_, _, _, prior⟩
    exact prior

theorem replayed_at
    (journey : model.Journey frame trips (model.begin agent desk) stages walk) {place : ℕ}
    {last : Stage σ τ} (there : stages[place]? = some last)
    (length : stages.length = place + 1) :
    Replayed model.interpretation trips (walk.trips.take (place + 1)) last.progress.kept := by
  have dated : walk.trips.take (place + 1) = stages.map Stage.trip := by
    rw [journey.trips_eq, ← length]
    exact List.take_left' (List.length_map _)
  have briefed := journey.briefed there
  rw [dated]
  apply journey.replayed
  · rw [length, briefed.complete]
  · intro earlier stage here
    have within := (List.getElem?_eq_some_iff.1 here).1
    exact (journey.briefed here).kept_take briefed (by omega)

end Journey

/-- In every selection the trips depart in order, whatever times activities and
estimates come with.  If it succeeds, all of them do, with the candidates of the
outcome; if it fails, those do that had their departures set, with the candidates
kept until then, and the others are as before. -/
theorem select_departs_in_order (model : Model σ τ) (desk : Desk σ τ) (agent : Agent)
    (trips : List Trip) :
    let selection := model.select desk agent trips
    (∀ kept, selection.outcome = .ok kept →
      selection.trips.length = trips.length ∧ kept.length = trips.length ∧
      Timely selection.trips kept) ∧
    ∀ who index, selection.outcome = .error (.noFeasibleChoice who index) →
      ∃ modes place stage,
        TourModes.ofList (model.availability.modes agent trips) = .ok modes ∧
        model.FirstStuck (model.frameOf agent trips modes)
          (model.history desk agent trips modes) place stage ∧
        stage.planned.index = index ∧
        Timely (selection.trips.take (place + 1)) stage.progress.kept ∧
        selection.trips.drop (place + 1) = trips.drop (place + 1) := by
  have course := model.selectionCourse_select desk agent trips
  generalize model.select desk agent trips = selection at course ⊢
  cases course with
  | barren nothing =>
      constructor
      · intro kept impossible
        cases impossible
      · intro who index impossible
        cases impossible
  | completed found journey finished =>
      constructor
      · intro kept succeeded
        cases succeeded
        have lengths := congrArg List.length journey.undated
        rw [List.length_map, List.length_map] at lengths
        exact ⟨lengths, journey.length_kept rfl finished,
          (journey.replayed_of_finished finished).timely⟩
      · intro who index impossible
        cases impossible
  | @reverted modes walk trip last found journey stopped =>
      constructor
      · intro kept succeeded
        cases succeeded
        have tour := model.initialTour_baseline agent journey.undated
        exact ⟨tour.dates, tour.complete, tour.replayed.timely⟩
      · intro who index impossible
        cases impossible
  | @failed modes walk trip last found journey stopped =>
      constructor
      · intro kept impossible
        cases impossible
      · intro who index failed
        cases failed
        rcases journey.firstStuck_of_stopped stopped with
          ⟨place, stage, first, length, rfl, _⟩
        refine ⟨modes, place, stage, found, first, rfl, ?_, ?_⟩
        · exact (journey.replayed_at first.there length).timely
        · rw [journey.trips_eq, ← length]
          exact List.drop_left' (List.length_map _)

/-- A second errand, from a place that is left at a time that is no number and after a
stay that is below zero. -/
def muddled : Trip :=
  { errand 5 .car with origin := ⟨"work", ⟨0, 0⟩, some Number.notANumber, some (-60)⟩ }

/-- The bike is back when the second errand departs, in the tour that is sent back
there; and where the tour fails there instead, both departures are in order too. -/
theorem weary_departs_in_order :
    let trips := [errand 2 .bike, muddled]
    let reverted := (weary .ignoreAgent).select (Desk.fresh () ()) (Agent.bare ⟨7⟩) trips
    let failed := (weary .exception).select (Desk.fresh () ()) (Agent.bare ⟨7⟩) trips
    reverted.outcome = .ok [Candidate.make .bike 1 1800, Candidate.make .car 1 660] ∧
      reverted.trips.map Trip.departureTime = [some 28800, some 30600] ∧
      Timely reverted.trips [Candidate.make .bike 1 1800, Candidate.make .car 1 660] ∧
      failed.outcome = .error (.noFeasibleChoice ⟨7⟩ 5) ∧
      failed.trips.map Trip.departureTime = [some 28800, some 30000] ∧
      ∃ place, ∃ stage : Stage Unit Unit, stage.planned.index = 5 ∧
        Timely (failed.trips.take (place + 1)) stage.progress.kept := by
  intro trips reverted failed
  have succeeded : reverted.outcome =
      .ok [Candidate.make .bike 1 1800, Candidate.make .car 1 660] := by
    decide +kernel
  have refused : failed.outcome = .error (.noFeasibleChoice ⟨7⟩ 5) := by
    decide +kernel
  have timely := (select_departs_in_order (weary .ignoreAgent) (Desk.fresh () ())
    (Agent.bare ⟨7⟩) trips).1 _ succeeded
  rcases (select_departs_in_order (weary .exception) (Desk.fresh () ()) (Agent.bare ⟨7⟩)
    trips).2 _ _ refused with ⟨_, place, stage, _, _, here, stamped, _⟩
  exact ⟨succeeded, by decide +kernel, timely.2.2, refused, by decide +kernel, place, stage,
    here, stamped⟩

end Model

end ModeChoice
