import ModeChoice.Proofs.Tour.Initial

/-!
# What the collaborators are shown

Oracle, estimator and constraint are told of a tour as it stands: the trip with its
departure, and the candidates that the trips before it keep.  A candidate that was
rejected is told to nobody and moves no clock, although it has been estimated for
the same trips at the same time of day.

Two lists run beside each other in a tour, the kept candidates and the reading of
the clock.  The second is a function of the first: `Clock.replay` gives the reading
again from midnight on, and so what is shown at a place of the tour is settled by
what was kept before it.
-/

namespace ModeChoice

/-- Whoever is asked is shown this trip and these earlier candidates, or the modes
of these. -/
def Event.Shows (agent : Agent) (trip : Trip) (prior : List Candidate) : Event → Prop
  | .screened shown _ previous _ => shown = trip ∧ previous = prior.map Candidate.mode
  | .asked context _ _ => context.agent = agent ∧ context.trip = trip ∧ context.prior = prior
  | .estimated shown _ earlier _ => shown = trip ∧ earlier = prior
  | .judged shown _ earlier _ => shown = trip ∧ earlier = prior
  | .entered _ _ | .leftOut _ | .illegalUtility _ _ _ | .fellBack _ _ | .reverted _
  | .recorded _ _ => True

theorem Encounter.Reports.shows {encounter : Encounter} {event : Event}
    (reports : encounter.Reports event) :
    event.Shows encounter.agent encounter.trip encounter.prior := by
  cases event with
  | screened trip mode previous verdict => exact ⟨reports.1, reports.2.1⟩
  | asked context answer log =>
      rcases reports with ⟨left, rfl⟩
      exact ⟨rfl, rfl, rfl⟩
  | estimated trip mode prior candidate => exact ⟨reports.1, reports.2.1⟩
  | judged trip candidate prior verdict => exact ⟨reports.1, reports.2.1⟩
  | entered | leftOut | illegalUtility | fellBack | reverted | recorded => trivial

namespace Model

variable {σ τ : Type} {model : Model σ τ} {frame : TourFrame}

/-! ## One stage -/

section Turns

variable {stage : Stage σ τ}

theorem shows_searchAt :
    ∀ event ∈ (model.searchAt frame stage).events,
      event.Shows frame.agent stage.trip stage.progress.kept := by
  intro event told
  exact ((model.rounds_searchAt frame stage).reports event told).shows

theorem shows_keepInitial {progress : Progress σ τ} {clock : Clock}
    {evaluated : List Candidate} {opening : List Event}
    (kept : progress.kept = stage.progress.kept)
    (shown : ∀ event ∈ opening, event.Shows frame.agent stage.trip stage.progress.kept) :
    ∀ event ∈ (model.keepInitial frame progress clock stage.trip evaluated opening).events,
      event.Shows frame.agent stage.trip stage.progress.kept := by
  intro event told
  rcases List.mem_append.1 told with earlier | later
  · exact shown event earlier
  · simp only [List.mem_cons, List.not_mem_nil, or_false] at later
    rcases later with rfl | rfl
    · exact ⟨rfl, kept⟩
    · trivial

/-- In a turn, all who are asked are shown the stage it sets out from. -/
theorem Course.shows {turn : Turn σ τ} (course : model.Course frame stage turn) :
    ∀ event ∈ turn.events, event.Shows frame.agent stage.trip stage.progress.kept := by
  have in_loop : ∀ event ∈ [pending stage] ++ (model.searchAt frame stage).events,
      event.Shows frame.agent stage.trip stage.progress.kept := by
    intro event told
    rcases List.mem_append.1 told with begun | searched
    · rw [List.mem_singleton.1 begun]
      trivial
    · exact shows_searchAt event searched
  have after_loop (last : Event) (shown : last.Shows frame.agent stage.trip stage.progress.kept) :
      ∀ event ∈ [pending stage] ++ (model.searchAt frame stage).events ++ [last],
        event.Shows frame.agent stage.trip stage.progress.kept := by
    intro event told
    rcases List.mem_append.1 told with earlier | now
    · exact in_loop event earlier
    · exact List.mem_singleton.1 now ▸ shown
  cases course with
  | leftOut out =>
      refine shows_keepInitial rfl ?_
      simp [pending, Event.Shows]
  | chosen through found => exact after_loop _ trivial
  | fellBack stuck policy => exact shows_keepInitial rfl (after_loop _ trivial)
  | reversed stuck policy => exact after_loop _ trivial
  | failed stuck policy => exact in_loop

end Turns

/-! ## Stage after stage -/

/-- A stage finds kept what the stages before it have kept, one candidate each, and
finds the clock where these have brought it. -/
theorem Journey.clock_eq {trips : List Trip} {progress : Progress σ τ}
    {stages : List (Stage σ τ)} {walk : Walk σ τ}
    (journey : model.Journey frame trips progress stages walk) {place : Nat}
    {stage : Stage σ τ} (there : stages[place]? = some stage) :
    ∃ kept, stage.progress.kept = progress.kept ++ kept ∧
      (stages.take place).map (model.keptAt frame) = kept.map some ∧
      stage.progress.clock = progress.clock.replay trips kept := by
  -- A turn that goes on has kept one candidate, and this one alone has moved the clock.
  induction journey generalizing place with
  | arrived => cases there
  | @onward planned rest progress after stages walk advanced tail ih =>
      cases place with
      | zero =>
          cases there
          exact ⟨[], by simp, rfl, by simp⟩
      | succ place =>
          rcases (model.course_turnAt frame ⟨progress, planned⟩).of_advanced advanced with
            ⟨candidate, here, more, clock⟩
          rcases ih there with ⟨kept, found, all, reading⟩
          refine ⟨candidate :: kept, by simp [found, more], by simp [here, all], ?_⟩
          rw [reading, clock, Clock.replay_cons]
          rfl
  | halted stopped =>
      cases place with
      | zero =>
          cases there
          exact ⟨[], by simp, rfl, by simp⟩
      | succ place => cases there

/-- The stage at a place of a tour is told of as it should be: the trip departs
when the clock has gone from midnight through the trips before it and all
activities up to its own origin, and the candidates shown with it are those that
the earlier stages keep, one for each place. -/
structure Briefed (model : Model σ τ) (frame : TourFrame) (trips : List Trip)
    (stages : List (Stage σ τ)) (place : Nat) (stage : Stage σ τ) : Prop where
  planned : trips[place]? = some stage.planned
  complete : stage.progress.kept.length = place
  kept : (stages.take place).map (model.keptAt frame) = stage.progress.kept.map some
  /-- Nothing is among the earlier candidates that was not found acceptable, or put
  there by the filter or the fallback policy. -/
  justified : ∀ (earlier : Nat) (candidate : Candidate),
    stage.progress.kept[earlier]? = some candidate →
      ∃ before, stages[earlier]? = some before ∧ model.Justifies frame before candidate
  departure : stage.trip = stage.planned.departAt
    (((Clock.midnight model.interpretation).replay trips stage.progress.kept).passActivity
      stage.planned.origin.timing).time
  shown : ∀ event ∈ (model.turnAt frame stage).events,
    event.Shows frame.agent stage.trip stage.progress.kept

theorem Journey.briefed {trips : List Trip} {agent : Agent} {desk : Desk σ τ}
    {stages : List (Stage σ τ)} {walk : Walk σ τ}
    (journey : model.Journey frame trips (model.begin agent desk) stages walk) {place : Nat}
    {stage : Stage σ τ} (there : stages[place]? = some stage) :
    model.Briefed frame trips stages place stage := by
  rcases journey.clock_eq there with ⟨kept, found, all, reading⟩
  have same : stage.progress.kept = kept := found
  subst same
  have within : place < stages.length := (List.getElem?_eq_some_iff.1 there).1
  constructor
  · exact journey.planned_getElem? there
  · have lengths := congrArg List.length all
    simp only [List.length_map, List.length_take] at lengths
    omega
  · exact all
  · intro earlier candidate here
    have image := congrArg (fun list : List (Option Candidate) => list[earlier]?) all
    simp only [List.getElem?_map, here, Option.map_some] at image
    rcases Option.map_eq_some_iff.1 image with ⟨before, among, keeps⟩
    rw [List.getElem?_take] at among
    split at among
    · exact ⟨before, among, justifies_of_keptAt keeps⟩
    · cases among
  · rw [Stage.trip, Stage.clock, reading]
    rfl
  · exact (model.course_turnAt frame stage).shows

/-! ## The tour that was sent back -/

theorem length_events_baseline (agent : Agent) (trips : List Trip) (clock : Clock)
    (prior : List Candidate) :
    (model.baseline agent trips clock prior).events.length = trips.length := by
  induction trips generalizing clock prior with
  | nil => rfl
  | cons planned rest ih => simp [baseline, ih]

/-- At each place of a tour that was sent back the estimator is asked once, and
shown the new candidates before it. -/
theorem events_baseline_getElem? (agent : Agent) (trips : List Trip) (clock : Clock)
    (prior : List Candidate) {place : Nat} {trip : Trip} {candidate : Candidate}
    (dated : (model.baseline agent trips clock prior).trips[place]? = some trip)
    (kept : (model.baseline agent trips clock prior).candidates[place]? = some candidate) :
    (model.baseline agent trips clock prior).events[place]? =
      some (.estimated trip trip.initialMode
        (prior ++ (model.baseline agent trips clock prior).candidates.take place) candidate) := by
  induction trips generalizing clock prior place with
  | nil => cases dated
  | cons planned rest ih =>
      cases place with
      | zero =>
          cases dated
          cases kept
          simp [baseline]
      | succ place =>
          have later := ih _ _ dated kept
          rw [List.append_assoc] at later
          exact later

/-- These events do the tour again with its initial modes: for every place one
question to the estimator, about the trip with its new departure and after the new
candidates before it, and the record in the end. -/
structure Rebuilt (model : Model σ τ) (agent : Agent) (trips dated : List Trip)
    (candidates : List Candidate) (events : List Event) : Prop where
  tour : InitialTour model.estimator model.interpretation agent trips dated candidates
  calls : ∃ estimates record answer, events = estimates ++ [.recorded record answer] ∧
    estimates.length = trips.length ∧
    ∀ (place : Nat) (trip : Trip) (candidate : Candidate), dated[place]? = some trip →
      candidates[place]? = some candidate → estimates[place]? =
        some (.estimated trip trip.initialMode (candidates.take place) candidate)

theorem rebuilt_revert (model : Model σ τ) (agent : Agent) (last : Desk σ τ)
    {trips : List Trip} {walk : Walk σ τ}
    (same : walk.trips.map Trip.undated = trips.map Trip.undated) :
    ∃ candidates closing, (model.revert agent walk last).outcome = .ok candidates ∧
      (model.revert agent walk last).events = walk.events ++ closing ∧
      model.Rebuilt agent trips (model.revert agent walk last).trips candidates closing := by
  have lengths := congrArg List.length same
  rw [List.length_map, List.length_map] at lengths
  refine ⟨_, _, rfl, List.append_assoc _ _ _, model.initialTour_baseline agent same, ?_⟩
  refine ⟨_, _, _, rfl, ?_, ?_⟩
  · rw [length_events_baseline, lengths]
  · intro place trip candidate dated kept
    exact events_baseline_getElem? agent walk.trips _ [] dated kept

/-- Oracle, estimator and constraint are shown a tour as it stands in every
selection.  All that happens, happens in the turn of some stage, or in the second
tour of one that was sent back; and wherever a question is asked there, it comes
with the trip as it departs by the replayed clock, and with the candidates that are
kept for the places before it. -/
theorem select_briefs (model : Model σ τ) (desk : Desk σ τ) (agent : Agent)
    (trips : List Trip) :
    let selection := model.select desk agent trips
    (model.availability.modes agent trips = [] → selection.events = []) ∧
    ∀ modes, TourModes.ofList (model.availability.modes agent trips) = .ok modes →
      let frame := model.frameOf agent trips modes
      let stages := model.history desk agent trips modes
      (∀ place stage, stages[place]? = some stage →
        model.Briefed frame trips stages place stage) ∧
      ∃ closing,
        selection.events =
          (stages.flatMap fun stage => (model.turnAt frame stage).events) ++ closing ∧
        (¬ model.SentBack desk agent trips modes →
          closing = [] ∧ ∀ kept, selection.outcome = .ok kept →
            ∀ place stage, stages[place]? = some stage →
              stage.progress.kept = kept.take place) ∧
        (model.SentBack desk agent trips modes →
          ∃ candidates, selection.outcome = .ok candidates ∧
            model.Rebuilt agent trips selection.trips candidates closing) := by
  constructor
  · intro nothing
    rw [model.select_of_barren desk nothing]
  · intro modes found frame stages
    constructor
    · intro place stage there
      exact (model.journey_walk frame trips (model.begin agent desk)).briefed there
    · have course := model.selectionCourse_select desk agent trips
      generalize model.select desk agent trips = selection at course ⊢
      cases course with
      | barren nothing => exact absurd nothing (modes_ne_nil_of_found found)
      | @completed given walk progress given_found journey finished =>
          cases found.symm.trans given_found
          refine ⟨[], ?_, ?_, ?_⟩
          · rw [List.append_nil]
            exact journey.events_eq
          · intro _
            refine ⟨rfl, ?_⟩
            intro kept succeeded place stage there
            cases Except.ok.inj succeeded
            rcases journey.kept_of_stage rfl finished there with ⟨_, _, _, prior⟩
            exact prior
          · intro back
            exact absurd back (not_sentBack_of_finished journey finished)
      | @reverted given walk trip last given_found journey stopped =>
          cases found.symm.trans given_found
          rcases model.rebuilt_revert agent last
            journey.undated with ⟨candidates, closing, succeeded, told, rebuilt⟩
          refine ⟨closing, ?_, ?_, ?_⟩
          · rw [told, journey.events_eq]
          · intro onward
            exact absurd (sentBack_of_reversal journey stopped) onward
          · intro _
            exact ⟨candidates, succeeded, rebuilt⟩
      | @failed given walk trip last given_found journey stopped =>
          cases found.symm.trans given_found
          refine ⟨[], ?_, ?_, ?_⟩
          · rw [List.append_nil]
            exact journey.events_eq
          · intro _
            exact ⟨rfl, fun kept succeeded => by cases succeeded⟩
          · intro back
            exact absurd back (not_sentBack_of_failure journey stopped)

/-- The second errand is shown with what the first one kept on foot, the car of the
first round being forgotten.  The tour is sent back from there, and then the errand
departs ten minutes later, after the bike. -/
theorem weary_briefs_second_errand :
    let trips := [errand 2 .bike, errand 5 .car]
    ∃ modes stage closing,
      TourModes.ofList ((weary .ignoreAgent).availability.modes (Agent.bare ⟨7⟩) trips) =
        .ok modes ∧
      ((weary .ignoreAgent).history (Desk.fresh () ()) (Agent.bare ⟨7⟩) trips modes)[1]? =
        some stage ∧
      stage.trip.departureTime = some 30000 ∧
      stage.progress.kept = [Candidate.make .walk 1 1200] ∧
      (∀ event ∈ ((weary .ignoreAgent).turnAt ((weary .ignoreAgent).frameOf (Agent.bare ⟨7⟩)
        trips modes) stage).events,
          event.Shows (Agent.bare ⟨7⟩) stage.trip [Candidate.make .walk 1 1200]) ∧
      (weary .ignoreAgent).Rebuilt (Agent.bare ⟨7⟩) trips
        [(errand 2 .bike).departAt 28800, (errand 5 .car).departAt 30600]
        [Candidate.make .bike 1 1800, Candidate.make .car 1 660] closing := by
  intro trips
  let reverted := (weary .ignoreAgent).select (Desk.fresh () ()) (Agent.bare ⟨7⟩) trips
  let modes : TourModes := ⟨[.car, .walk], by decide, by decide⟩
  have found : TourModes.ofList ((weary .ignoreAgent).availability.modes (Agent.bare ⟨7⟩)
      trips) = .ok modes := by
    decide
  have second : ((weary .ignoreAgent).history (Desk.fresh () ()) (Agent.bare ⟨7⟩) trips
      modes)[1]?.map (fun stage => (stage.trip.departureTime, stage.progress.kept,
        ((weary .ignoreAgent).searchAt ((weary .ignoreAgent).frameOf (Agent.bare ⟨7⟩) trips
          modes) stage).kept)) =
      some (some 30000, [Candidate.make .walk 1 1200], none) := by
    decide +kernel
  rcases Option.map_eq_some_iff.1 second with ⟨stage, there, looks⟩
  simp only [Prod.mk.injEq] at looks
  rcases looks with ⟨departs, kept, unfound⟩
  have back : (weary .ignoreAgent).SentBack (Desk.fresh () ()) (Agent.bare ⟨7⟩) trips modes :=
    ⟨rfl, stage, List.mem_of_getElem? there, rfl, unfound⟩
  rcases (select_briefs (weary .ignoreAgent) (Desk.fresh () ()) (Agent.bare ⟨7⟩) trips).2
    modes found with ⟨briefed, closing, _, _, rebuilds⟩
  rcases rebuilds back with ⟨candidates, succeeded, rebuilt⟩
  have same : reverted.outcome =
      .ok [Candidate.make .bike 1 1800, Candidate.make .car 1 660] := by
    decide +kernel
  cases Except.ok.inj (succeeded.symm.trans same)
  have dated : reverted.trips =
      [(errand 2 .bike).departAt 28800, (errand 5 .car).departAt 30600] := by
    decide +kernel
  have shown := (briefed 1 stage there).shown
  rw [kept] at shown
  exact ⟨modes, stage, closing, found, there, departs, kept, shown, dated ▸ rebuilt⟩

end Model

end ModeChoice
