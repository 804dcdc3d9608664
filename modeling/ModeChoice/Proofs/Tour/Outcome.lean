import ModeChoice.Proofs.Tour.Baseline
import ModeChoice.Proofs.Tour.Soundness

/-!
# How a selection ends

A selection fails for two reasons only: the traveller has no mode, or a trip got
none and the policy is to fail then.  In the first case nothing has happened; in
the second the tour has come as far as the first such trip.  Otherwise there is
a candidate for every trip.  In no case does anything of a trip change but its
departure.
-/

namespace ModeChoice

namespace Model

variable {σ τ : Type}

/-- The first stage whose trip goes through the retry loop and gets no mode. -/
structure FirstStuck (model : Model σ τ) (frame : TourFrame) (stages : List (Stage σ τ))
    (place : Nat) (stage : Stage σ τ) : Prop where
  there : stages[place]? = some stage
  stuck : model.Stuck frame stage
  earlier : ∀ before ∈ stages.take place, ¬ model.Stuck frame before

/-- How the selection of a tour ends, and what it leaves of the trips. -/
structure Concludes (model : Model σ τ) (desk : Desk σ τ) (agent : Agent)
    (trips : List Trip) (selection : Selection σ τ) : Prop where
  barren_iff : selection.outcome = .error (.emptyModeSet agent.id) ↔
    model.availability.modes agent trips = []
  /-- For a traveller without modes nobody is asked or told anything, and no
  number is used up. -/
  untouched : model.availability.modes agent trips = [] →
    selection.trips = trips ∧ selection.desk = desk ∧ selection.events = []
  fails_iff : ∀ modes, TourModes.ofList (model.availability.modes agent trips) = .ok modes →
    ((∃ error, selection.outcome = .error error) ↔
      model.fallback = .exception ∧
        ∃ stage ∈ model.history desk agent trips modes,
          model.Stuck (model.frameOf agent trips modes) stage)
  /-- The error names the first trip without a mode; the trips up to that one
  have their departures set, and the others are as before. -/
  failure : ∀ modes, TourModes.ofList (model.availability.modes agent trips) = .ok modes →
    ∀ error, selection.outcome = .error error →
      ∃ place stage,
        model.FirstStuck (model.frameOf agent trips modes)
          (model.history desk agent trips modes) place stage ∧
        error = .noFeasibleChoice agent.id stage.planned.index ∧
        trips.take (place + 1) = (model.history desk agent trips modes).map Stage.planned ∧
        selection.trips = (model.history desk agent trips modes).map Stage.trip ++
          trips.drop (place + 1)
  /-- The candidates are estimates of their trips, each after those before. -/
  success : ∀ kept, selection.outcome = .ok kept →
    kept.length = trips.length ∧
      (∀ trip ∈ selection.trips, trip.departureTime.isSome = true) ∧
      ∀ place candidate, kept[place]? = some candidate →
        ∃ trip mode, selection.trips[place]? = some trip ∧
          candidate = model.estimator.estimate agent mode trip (kept.take place)
  undated : selection.trips.map Trip.undated = trips.map Trip.undated

variable {model : Model σ τ} {frame : TourFrame}

namespace Journey

variable {trips : List Trip} {progress : Progress σ τ} {stages : List (Stage σ τ)}
  {walk : Walk σ τ}

theorem undated (journey : model.Journey frame trips progress stages walk) :
    walk.trips.map Trip.undated = trips.map Trip.undated := by
  have stamped : stages.map (Trip.undated ∘ Stage.trip) =
      (stages.map Stage.planned).map Trip.undated := by
    rw [List.map_map]
    rfl
  rw [journey.trips_eq, List.map_append, List.map_map, stamped, journey.planned_eq,
    ← List.map_append, List.take_append_drop]

/-- A walk that fails stops at the first trip without a mode. -/
theorem firstStuck_of_stopped (journey : model.Journey frame trips progress stages walk)
    {trip : Trip} {desk : Desk σ τ} (stopped : walk.ending = .stopped .failure trip desk) :
    ∃ place stage, model.FirstStuck frame stages place stage ∧
      stages.length = place + 1 ∧ trip = stage.trip ∧ model.fallback = .exception := by
  rcases journey.of_stopped stopped with ⟨before, last, rfl, all, halted, same⟩
  rcases (model.course_turnAt frame last).of_stopped halted with
    ⟨stuck, ⟨impossible, _⟩ | ⟨_, policy⟩⟩
  · cases impossible
  · refine ⟨before.length, last, ⟨by simp, stuck, ?_⟩, by simp, same, policy⟩
    intro stage among
    have early : stage ∈ before := by simpa using among
    intro wedged
    apply all stage early
    apply keptAt_eq_none_iff.2
    exact ⟨wedged, by simp [policy]⟩

/-- A walk to the end has met no trip that would have stopped it. -/
theorem not_stuck_of_finished (journey : model.Journey frame trips progress stages walk)
    {after : Progress σ τ} (finished : walk.ending = .finished after)
    (policy : model.fallback ≠ .initialChoice) :
    ∀ stage ∈ stages, ¬ model.Stuck frame stage := by
  intro stage among stuck
  rcases journey.of_finished finished with ⟨_, kept, _, all⟩
  have none : model.keptAt frame stage = none := keptAt_eq_none_iff.2 ⟨stuck, policy⟩
  have image : model.keptAt frame stage ∈ stages.map (model.keptAt frame) :=
    List.mem_map_of_mem among
  rw [all, none] at image
  rcases List.mem_map.1 image with ⟨candidate, _, impossible⟩
  cases impossible

end Journey

/-- Every kept candidate is an estimate, whatever the reason that it is kept. -/
theorem Justifies.estimated_by {stage : Stage σ τ} {candidate : Candidate}
    (reason : model.Justifies frame stage candidate) :
    ∃ mode, candidate =
      model.estimator.estimate frame.agent mode stage.trip stage.progress.kept := by
  cases reason with
  | chosen through among admitted estimated finite approved => exact ⟨_, estimated⟩
  | leftOut out estimated => exact ⟨_, estimated⟩
  | fellBack policy unfound estimated => exact ⟨_, estimated⟩

theorem modes_ne_nil_of_found {agent : Agent} {trips : List Trip} {modes : TourModes}
    (found : TourModes.ofList (model.availability.modes agent trips) = .ok modes) :
    model.availability.modes agent trips ≠ [] := by
  intro nothing
  rw [nothing] at found
  cases found

section Conclusions

variable {desk : Desk σ τ} {agent : Agent} {trips : List Trip} {modes : TourModes}
  {walk : Walk σ τ}

theorem concludes_of_barren (nothing : model.availability.modes agent trips = []) :
    model.Concludes desk agent trips
      { outcome := .error (.emptyModeSet agent.id), trips, desk, events := [] } where
  barren_iff := ⟨fun _ => nothing, fun _ => rfl⟩
  untouched _ := ⟨rfl, rfl, rfl⟩
  fails_iff _ found := absurd nothing (modes_ne_nil_of_found found)
  failure _ found := absurd nothing (modes_ne_nil_of_found found)
  success kept succeeded := by cases succeeded
  undated := rfl

variable
  (found : TourModes.ofList (model.availability.modes agent trips) = .ok modes)
  (journey : model.Journey (model.frameOf agent trips modes) trips (model.begin agent desk)
    (model.history desk agent trips modes) walk)

include found journey

theorem concludes_of_completed {progress : Progress σ τ}
    (finished : walk.ending = .finished progress) :
    model.Concludes desk agent trips
      { outcome := .ok progress.kept, trips := walk.trips, desk := progress.desk,
        events := walk.events } where
  barren_iff := iff_of_false (by simp) (modes_ne_nil_of_found found)
  untouched nothing := absurd nothing (modes_ne_nil_of_found found)
  fails_iff given same := by
    cases found.symm.trans same
    constructor
    · rintro ⟨error, impossible⟩
      cases impossible
    · rintro ⟨policy, stage, among, stuck⟩
      have strict : model.fallback ≠ .initialChoice := by simp [policy]
      exact absurd stuck (journey.not_stuck_of_finished finished strict stage among)
  failure given same error impossible := by cases impossible
  success kept succeeded := by
    have same : progress.kept = kept := Except.ok.inj succeeded
    subst same
    refine ⟨journey.length_kept rfl finished, ?_, ?_⟩
    · intro trip among
      rw [journey.trips_eq, (journey.of_finished finished).1, List.drop_length,
        List.append_nil] at among
      rcases List.mem_map.1 among with ⟨stage, _, rfl⟩
      rfl
    · intro place candidate there
      rcases journey.stage_of_kept rfl finished there with ⟨stage, here, keeps, prior⟩
      rcases (justifies_of_keptAt keeps).estimated_by with ⟨mode, estimated⟩
      exact ⟨stage.trip, mode, journey.trip_getElem? here, prior ▸ estimated⟩
  undated := journey.undated

theorem concludes_of_reverted {trip : Trip} {last : Desk σ τ}
    (stopped : walk.ending = .stopped .reversal trip last) :
    model.Concludes desk agent trips (model.revert agent walk last) where
  barren_iff := iff_of_false (by simp [revert]) (modes_ne_nil_of_found found)
  untouched nothing := absurd nothing (modes_ne_nil_of_found found)
  fails_iff given same := by
    constructor
    · rintro ⟨error, impossible⟩
      cases impossible
    · rintro ⟨policy, _⟩
      rw [journey.policy_of_reversal stopped] at policy
      cases policy
  failure given same error impossible := by cases impossible
  success kept succeeded := by
    have same := Except.ok.inj succeeded
    subst same
    refine ⟨?_, model.isSome_departureTime_baseline agent _ _ _, ?_⟩
    · have lengths := congrArg List.length journey.undated
      simp only [List.length_map] at lengths
      exact (model.length_candidates_baseline agent _ _ _).trans lengths
    · intro place candidate there
      rcases model.candidates_baseline_getElem? agent _ _ _ there with
        ⟨trip, here, estimated⟩
      exact ⟨trip, trip.initialMode, here, estimated⟩
  undated := (model.undated_baseline agent _ _ _).trans journey.undated

theorem concludes_of_failed {trip : Trip} {last : Desk σ τ}
    (stopped : walk.ending = .stopped .failure trip last) :
    model.Concludes desk agent trips
      { outcome := .error (.noFeasibleChoice agent.id trip.index), trips := walk.trips,
        desk := last, events := walk.events } where
  barren_iff := iff_of_false (by simp) (modes_ne_nil_of_found found)
  untouched nothing := absurd nothing (modes_ne_nil_of_found found)
  fails_iff given same := by
    cases found.symm.trans same
    rcases journey.firstStuck_of_stopped stopped with ⟨place, stage, first, _, _, policy⟩
    constructor
    · intro _
      exact ⟨policy, stage, List.mem_of_getElem? first.there, first.stuck⟩
    · intro _
      exact ⟨_, rfl⟩
  failure given same error told := by
    cases found.symm.trans same
    rcases journey.firstStuck_of_stopped stopped with
      ⟨place, stage, first, length, rfl, _⟩
    refine ⟨place, stage, first, (Except.error.inj told).symm, ?_, ?_⟩
    · rw [← length, journey.planned_eq]
    · rw [← length]
      exact journey.trips_eq
  success kept impossible := by cases impossible
  undated := journey.undated

end Conclusions

/-- A selection of any model concludes as it should: it fails for the two
reasons alone, with the error and the trips that belong to them, and otherwise
has a candidate for every trip. -/
theorem select_concludes (model : Model σ τ) (desk : Desk σ τ) (agent : Agent)
    (trips : List Trip) :
    model.Concludes desk agent trips (model.select desk agent trips) := by
  have course := model.selectionCourse_select desk agent trips
  generalize model.select desk agent trips = selection at course ⊢
  cases course with
  | barren nothing => exact concludes_of_barren nothing
  | completed found journey finished => exact concludes_of_completed found journey finished
  | reverted found journey stopped => exact concludes_of_reverted found journey stopped
  | failed found journey stopped => exact concludes_of_failed found journey stopped

/-- The first errand is dated, and the second one, at which the tour fails, is
dated too. -/
theorem strict_concludes_with_failure :
    (strictSelection .exception).outcome = .error (.noFeasibleChoice ⟨7⟩ 5) ∧
      ∃ modes place stage,
        (strict .exception).FirstStuck
          ((strict .exception).frameOf (Agent.bare ⟨7⟩) [errand 2 .bike, errand 5 .car] modes)
          ((strict .exception).history (Desk.fresh () ()) (Agent.bare ⟨7⟩)
            [errand 2 .bike, errand 5 .car] modes) place stage ∧
        stage.planned.index = 5 := by
  have failed : (strictSelection .exception).outcome =
      .error (.noFeasibleChoice ⟨7⟩ 5) := by
    decide +kernel
  let modes : TourModes := ⟨[.car, .walk], by decide, by decide⟩
  have found : TourModes.ofList ((strict .exception).availability.modes (Agent.bare ⟨7⟩)
      [errand 2 .bike, errand 5 .car]) = .ok modes := by
    decide
  rcases (select_concludes (strict .exception) (Desk.fresh () ()) (Agent.bare ⟨7⟩)
    [errand 2 .bike, errand 5 .car]).failure modes found _ failed with
      ⟨place, stage, first, told, _, _⟩
  refine ⟨failed, modes, place, stage, first, ?_⟩
  injection told with _ same
  exact same.symm

end Model

end ModeChoice
