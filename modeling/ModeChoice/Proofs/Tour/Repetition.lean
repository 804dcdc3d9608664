import ModeChoice.Proofs.Retry.Agreement
import ModeChoice.Proofs.Tour.Initial

/-!
# A selection done again

A trip that comes to its turn gets its departure from the clock before anybody looks at
it, and a tour that is sent back gets all departures anew.  So the departures that the
trips of a tour have already are read by nobody but the availability and the maker of
the rule, which see the whole tour when it begins, and those at hand do not look at
departures.  Where that is so, a selection can be done again on what it has left behind,
and comes to the same.
-/

namespace ModeChoice

/-- The modes of a tour do not depend on the departures that its trips have already. -/
def Availability.IgnoresDepartures (availability : Availability) : Prop :=
  ∀ (agent : Agent) (first second : List Trip),
    first.map Trip.undated = second.map Trip.undated →
      availability.modes agent first = availability.modes agent second

/-- The rule of a tour does not depend on the departures that its trips have already. -/
def ConstraintFactory.IgnoresDepartures (factory : ConstraintFactory) : Prop :=
  ∀ (agent : Agent) (modes : TourModes) (first second : List Trip),
    first.map Trip.undated = second.map Trip.undated →
      factory.create agent first modes = factory.create agent second modes

theorem Availability.Bundled.ignoresDepartures {availability : Availability}
    (bundled : availability.Bundled) : availability.IgnoresDepartures :=
  fun agent first second _ => bundled.modes_eq agent first second

theorem ConstraintFactory.Bundled.ignoresDepartures {factory : ConstraintFactory}
    (bundled : factory.Bundled) : factory.IgnoresDepartures := by
  intro agent modes first second same
  induction bundled with
  | everyTour constraint => rfl
  | vehicleContinuity =>
      -- Origins and destinations are the same with and without departures.
      have origins : (first.head?.map fun trip => trip.origin.place) =
          second.head?.map fun trip => trip.origin.place := by
        have undated := congrArg (fun trips => trips.head?.map fun trip => trip.origin.place) same
        simpa [Function.comp_def, Trip.undated] using undated
      have destinations : (first.map fun trip => trip.destination.place) =
          second.map fun trip => trip.destination.place := by
        have undated := congrArg (List.map fun trip => trip.destination.place) same
        simpa [Function.comp_def, Trip.undated] using undated
      simp only [ConstraintFactory.vehicleContinuity, origins, destinations]
  | conjunction all ih =>
      exact congrArg (fun parts => (Conjunction.mk parts).toConstraint) (List.map_congr_left ih)

namespace Model

variable {σ τ : Type} (model : Model σ τ)

/-- A turn sets the departure before anything reads it. -/
theorem turnAt_redated (frame : TourFrame) (progress : Progress σ τ) {first second : Trip}
    (same : first.undated = second.undated) :
    model.turnAt frame ⟨progress, first⟩ = model.turnAt frame ⟨progress, second⟩ := by
  have timing : first.origin.timing = second.origin.timing :=
    congrArg (fun trip => trip.origin.timing) same
  have stamped (seconds : Float) : first.departAt seconds = second.departAt seconds :=
    congrArg (fun trip => trip.departAt seconds) same
  simp only [turnAt, turn, timing, stamped]

/-- Two walks along trips that differ in their departures go the same way: they set the
same departures on the same first trips, and leave the rest alone. -/
theorem walk_redated (frame : TourFrame) (progress : Progress σ τ) {first second : List Trip}
    (same : first.map Trip.undated = second.map Trip.undated) :
    (model.walk frame first progress).ending = (model.walk frame second progress).ending ∧
      ∃ stamped,
        (model.walk frame first progress).trips = stamped ++ first.drop stamped.length ∧
        (model.walk frame second progress).trips = stamped ++ second.drop stamped.length ∧
        ∀ after, (model.walk frame first progress).ending = .finished after →
          stamped.length = first.length := by
  induction first generalizing second progress with
  | nil =>
      cases second with
      | nil => exact ⟨rfl, [], rfl, rfl, fun _ _ => rfl⟩
      | cons planned rest => cases same
  | cons planned rest ih =>
      cases second with
      | nil => cases same
      | cons planned' rest' =>
          simp only [List.map_cons, List.cons.injEq] at same
          rcases same with ⟨here, later⟩
          rw [walk_cons, walk_cons, ← model.turnAt_redated frame progress here]
          cases (model.turnAt frame ⟨progress, planned⟩).ending with
          | stopped stop desk =>
              refine ⟨rfl, [(model.turnAt frame ⟨progress, planned⟩).trip], rfl, rfl, ?_⟩
              intro after impossible
              cases impossible
          | advanced next =>
              rcases ih next later with ⟨endings, stamped, one, other, all⟩
              refine ⟨endings, (model.turnAt frame ⟨progress, planned⟩).trip :: stamped,
                congrArg _ one, congrArg _ other, ?_⟩
              intro after finished
              exact congrArg (· + 1) (all after finished)

/-- Two selections come to the same and set the same departures on the same first trips,
which are all of them if they succeed. -/
structure SelectAlike (desk desk' : Desk σ τ) (agent : Agent) (first second : List Trip) :
    Prop where
  outcome : (model.select desk agent first).outcome = (model.select desk' agent second).outcome
  stamped : ∃ stamped,
    (model.select desk agent first).trips = stamped ++ first.drop stamped.length ∧
    (model.select desk' agent second).trips = stamped ++ second.drop stamped.length ∧
    ∀ kept, (model.select desk agent first).outcome = .ok kept →
      stamped.length = first.length

/-- A tour that is sent back gets the same departure for every trip, whatever departures
the walk has left. -/
theorem revert_redated (agent : Agent) {walk walk' : Walk σ τ} (desk : Desk σ τ)
    (same : walk.trips.map Trip.undated = walk'.trips.map Trip.undated) :
    (model.revert agent walk desk).outcome = (model.revert agent walk' desk).outcome ∧
      (model.revert agent walk desk).trips = (model.revert agent walk' desk).trips ∧
      (model.revert agent walk desk).trips.length = walk.trips.length := by
  have again := model.baseline_congr agent same (Clock.midnight model.interpretation) []
  have all := congrArg List.length
    (model.undated_baseline agent walk.trips (Clock.midnight model.interpretation) [])
  rw [List.length_map, List.length_map] at all
  exact ⟨congrArg (Except.ok ∘ Baseline.candidates) again, congrArg Baseline.trips again, all⟩

variable {model}

theorem selectAlike_redated (availability : model.availability.IgnoresDepartures)
    (constraints : model.constraints.IgnoresDepartures) (desk : Desk σ τ) (agent : Agent)
    {first second : List Trip} (same : first.map Trip.undated = second.map Trip.undated) :
    model.SelectAlike desk desk agent first second := by
  have modes_eq := availability agent first second same
  cases found : TourModes.ofList (model.availability.modes agent first) with
  | error error =>
      have nothing := (TourModes.ofList_eq_error_iff.1 found).1
      constructor
      · rw [model.select_of_barren desk nothing,
          model.select_of_barren desk (modes_eq.symm.trans nothing)]
      · rw [model.select_of_barren desk nothing,
          model.select_of_barren desk (modes_eq.symm.trans nothing)]
        refine ⟨[], rfl, rfl, ?_⟩
        intro kept impossible
        cases impossible
  | ok modes =>
      have found' : TourModes.ofList (model.availability.modes agent second) = .ok modes := by
        rw [← modes_eq, found]
      have frames : model.frameOf agent second modes = model.frameOf agent first modes := by
        rw [frameOf, frameOf, constraints agent modes first second same]
      have journey := model.journey_walk (model.frameOf agent first modes) first
        (model.begin agent desk)
      have journey' := model.journey_walk (model.frameOf agent first modes) second
        (model.begin agent desk)
      rcases model.walk_redated (model.frameOf agent first modes) (model.begin agent desk) same
        with ⟨endings, stamped, one, other, all⟩
      have undated := journey.undated.trans (same.trans journey'.undated.symm)
      have lengths := congrArg List.length journey.undated
      rw [List.length_map, List.length_map] at lengths
      have select := model.select_of_found desk found
      have select' := model.select_of_found desk found'
      rw [frames] at select'
      generalize model.walk (model.frameOf agent first modes) first (model.begin agent desk) =
        walk at *
      generalize model.walk (model.frameOf agent first modes) second (model.begin agent desk) =
        walk' at *
      rw [← endings] at select'
      cases ended : walk.ending with
      | finished after =>
          rw [ended] at select select'
          constructor
          · rw [select, select']
          · rw [select, select']
            exact ⟨stamped, one, other, fun _ _ => all after ended⟩
      | stopped stop trip last =>
          rw [ended] at select select'
          cases stop with
          | failure =>
              constructor
              · rw [select, select']
              · rw [select, select']
                refine ⟨stamped, one, other, ?_⟩
                intro kept impossible
                cases impossible
          | reversal =>
              rcases model.revert_redated agent last undated with ⟨outcome, trips, full⟩
              have full' := congrArg List.length same
              rw [List.length_map, List.length_map] at full'
              rw [lengths] at full
              constructor
              · rw [select, select']
                exact outcome
              · rw [select, select']
                refine ⟨(model.revert agent walk last).trips, ?_, ?_, fun _ _ => full⟩
                · rw [full, List.drop_length, List.append_nil]
                · rw [full, full', List.drop_length, List.append_nil]
                  exact trips.symm

/-- Without a state of the oracle, a selection does not depend on the desk either. -/
theorem selectAlike_of_stateless {model : Model Unit τ} {desk desk' : Desk Unit τ}
    {agent : Agent} {first second : List Trip}
    (alike : model.SelectAlike desk desk agent first second) :
    model.SelectAlike desk desk' agent first second := by
  rcases model.select_audited model.auditor desk desk' rfl agent second with
    ⟨outcome, trips, _⟩
  have outcome' : (model.select desk' agent second).outcome =
      (model.select desk agent second).outcome := outcome
  have trips' : (model.select desk' agent second).trips =
      (model.select desk agent second).trips := trips
  constructor
  · rw [outcome', alike.outcome]
  · rw [trips']
    exact alike.stamped

theorem undated_select (desk : Desk σ τ) (agent : Agent) (trips : List Trip) :
    (model.select desk agent trips).trips.map Trip.undated = trips.map Trip.undated := by
  have course := model.selectionCourse_select desk agent trips
  generalize model.select desk agent trips = selection at course ⊢
  cases course with
  | barren nothing => rfl
  | completed found journey finished => exact journey.undated
  | reverted found journey stopped =>
      exact (model.undated_baseline agent _ _ _).trans journey.undated
  | failed found journey stopped => exact journey.undated

/-- A selection can be repeated on what it has left behind.  With an oracle without a
state, and an availability and a maker of the rule that do not look at departures, as all
those at hand, neither the outcome of a selection nor the departures that it sets depend
on the departures that the trips have already; and done again on its own trips it comes
to the same outcome and changes none of them. -/
theorem select_repeats (model : Model Unit τ) :
    (∀ availability : Availability, availability.Bundled → availability.IgnoresDepartures) ∧
    (∀ factory : ConstraintFactory, factory.Bundled → factory.IgnoresDepartures) ∧
    (model.availability.IgnoresDepartures → model.constraints.IgnoresDepartures →
      (∀ (desk desk' : Desk Unit τ) (agent : Agent) (first second : List Trip),
        first.map Trip.undated = second.map Trip.undated →
          model.SelectAlike desk desk' agent first second) ∧
      ∀ (desk desk' : Desk Unit τ) (agent : Agent) (trips : List Trip),
        let dated := (model.select desk agent trips).trips
        (model.select desk' agent dated).outcome = (model.select desk agent trips).outcome ∧
          (model.select desk' agent dated).trips = dated) := by
  refine ⟨fun _ bundled => bundled.ignoresDepartures, fun _ bundled =>
    bundled.ignoresDepartures, ?_⟩
  intro availability constraints
  have alike (desk desk' : Desk Unit τ) (agent : Agent) (first second : List Trip)
      (same : first.map Trip.undated = second.map Trip.undated) :
      model.SelectAlike desk desk' agent first second :=
    selectAlike_of_stateless (selectAlike_redated availability constraints desk agent same)
  refine ⟨alike, ?_⟩
  intro desk desk' agent trips dated
  have again := alike desk desk' agent trips dated (undated_select desk agent trips).symm
  refine ⟨again.outcome.symm, ?_⟩
  rcases again.stamped with ⟨stamped, one, other, _⟩
  have rest : dated.drop stamped.length = trips.drop stamped.length := by
    change (model.select desk agent trips).trips.drop stamped.length = _
    rw [one, List.drop_left]
  rw [other, rest, ← one]

/-- The tour that the second errand sends back is sent back to the same departures once
more, though the first errand takes longer in the morning; and where the selection fails
there, it fails again. -/
theorem weary_repeats :
    let trips := [errand 2 .bike, (errand 5 .car).departAt 77]
    let reverted := (weary .ignoreAgent).select (Desk.fresh () ()) (Agent.bare ⟨7⟩) trips
    let again := (weary .ignoreAgent).select reverted.desk (Agent.bare ⟨7⟩) reverted.trips
    let failed := (weary .exception).select (Desk.fresh () ()) (Agent.bare ⟨7⟩) trips
    let failed' := (weary .exception).select failed.desk (Agent.bare ⟨7⟩) failed.trips
    reverted.outcome = .ok [Candidate.make .bike 1 1800, Candidate.make .car 1 660] ∧
      again.outcome = .ok [Candidate.make .bike 1 1800, Candidate.make .car 1 660] ∧
      again.trips.map Trip.departureTime = [some 28800, some 30600] ∧
      failed'.outcome = .error (.noFeasibleChoice ⟨7⟩ 5) ∧
      failed'.trips = failed.trips := by
  intro trips reverted again failed failed'
  have succeeded : reverted.outcome =
      .ok [Candidate.make .bike 1 1800, Candidate.make .car 1 660] := by
    decide +kernel
  have refused : failed.outcome = .error (.noFeasibleChoice ⟨7⟩ 5) := by
    decide +kernel
  have departures : reverted.trips.map Trip.departureTime = [some 28800, some 30600] := by
    decide +kernel
  rcases (select_repeats (weary .ignoreAgent)).2.2
    (Availability.Bundled.fixed _).ignoresDepartures
    (ConstraintFactory.Bundled.everyTour _).ignoresDepartures with ⟨_, repeats⟩
  rcases (select_repeats (weary .exception)).2.2
    (Availability.Bundled.fixed _).ignoresDepartures
    (ConstraintFactory.Bundled.everyTour _).ignoresDepartures with ⟨_, repeats'⟩
  rcases repeats (Desk.fresh () ()) reverted.desk (Agent.bare ⟨7⟩) trips with ⟨same, dated⟩
  rcases repeats' (Desk.fresh () ()) failed.desk (Agent.bare ⟨7⟩) trips with ⟨same', dated'⟩
  refine ⟨succeeded, same.trans succeeded, ?_, same'.trans refused, dated'⟩
  exact (congrArg (List.map Trip.departureTime) dated).trans departures

end Model

end ModeChoice
