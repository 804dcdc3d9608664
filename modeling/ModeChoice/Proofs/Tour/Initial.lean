import ModeChoice.Proofs.Audit.Trail

/-!
# Tours of initial modes

Three kinds of runs give every trip of a tour its initial mode: a trip without
one sends the tour back, or the filter leaves every trip out, or the oracle is
never of use and every trip falls back.  The first one takes trips that have
their departures already, and sets these a second time.

What comes out of it can be told by the trips alone: `InitialTour` says where the
clock stands at each of them, and leaves room for one tour only.
-/

namespace ModeChoice

/-- The clock after trips that take as long as their candidates, each after the
activity at its origin. -/
def Clock.replay (clock : Clock) (trips : List Trip) (candidates : List Candidate) : Clock :=
  (trips.zip candidates).foldl
    (fun clock leg => (clock.passActivity leg.1.origin.timing).travel leg.2.duration) clock

@[simp]
theorem Clock.replay_nil (clock : Clock) (trips : List Trip) :
    clock.replay trips [] = clock := by
  simp [replay]

@[simp]
theorem Clock.replay_cons (clock : Clock) (trip : Trip) (trips : List Trip)
    (candidate : Candidate) (candidates : List Candidate) :
    clock.replay (trip :: trips) (candidate :: candidates) =
      ((clock.passActivity trip.origin.timing).travel candidate.duration).replay trips
        candidates := rfl

/-- The `dated` trips and their candidates are those of a tour in which every
trip takes its initial mode: the clock starts at midnight and goes through the
earlier trips and all activities up to the trip's own origin. -/
structure InitialTour (estimator : Estimator) (interpretation : TimeInterpretation)
    (agent : Agent) (trips dated : List Trip) (candidates : List Candidate) : Prop where
  dates : dated.length = trips.length
  complete : candidates.length = trips.length
  stamped : ∀ (place : Nat) (planned : Trip), trips[place]? = some planned →
    dated[place]? = some (planned.departAt
      (((Clock.midnight interpretation).replay trips (candidates.take place)).passActivity
        planned.origin.timing).time)
  estimated : ∀ (place : Nat) (trip : Trip), dated[place]? = some trip →
    candidates[place]? =
      some (estimator.estimate agent trip.initialMode trip (candidates.take place))

/-- There is one such tour: each place is settled by the places before it. -/
theorem InitialTour.unique {estimator : Estimator} {interpretation : TimeInterpretation}
    {agent : Agent} {trips dated dated' : List Trip} {candidates candidates' : List Candidate}
    (first : InitialTour estimator interpretation agent trips dated candidates)
    (second : InitialTour estimator interpretation agent trips dated' candidates') :
    dated = dated' ∧ candidates = candidates' := by
  -- The candidates before a place settle the departure there, and with it the estimate.
  have here (place : Nat) (earlier : candidates.take place = candidates'.take place) :
      dated[place]? = dated'[place]? ∧ candidates[place]? = candidates'[place]? := by
    cases there : trips[place]? with
    | none =>
        have beyond := List.getElem?_eq_none_iff.1 there
        constructor
        · rw [List.getElem?_eq_none (first.dates ▸ beyond),
            List.getElem?_eq_none (second.dates ▸ beyond)]
        · rw [List.getElem?_eq_none (first.complete ▸ beyond),
            List.getElem?_eq_none (second.complete ▸ beyond)]
    | some planned =>
        have stamped := first.stamped place planned there
        have stamped' := second.stamped place planned there
        rw [← earlier, ← stamped] at stamped'
        refine ⟨stamped'.symm, ?_⟩
        rw [first.estimated place _ stamped, second.estimated place _ (stamped'.trans stamped),
          earlier]
  have earlier (place : Nat) : candidates.take place = candidates'.take place := by
    induction place with
    | zero => rfl
    | succ place ih => rw [List.take_add_one, List.take_add_one, ih, (here place ih).2]
  constructor
  · exact List.ext_getElem? fun place => (here place (earlier place)).1
  · exact List.ext_getElem? fun place => (here place (earlier place)).2

/-- An oracle that never answers with a mode. -/
def Oracle.Failing {σ : Type} (oracle : Oracle σ) : Prop :=
  ∀ state random context, ∃ error, (oracle.propose state random context).answer = .error error

theorem Encounter.Rounds.proposed?_eq_none_of_failing {σ : Type} {encounter : Encounter}
    {oracle : Oracle σ} {left : OpenModes} {state : σ} {random : Random} {search : Search σ}
    (failing : oracle.Failing)
    (rounds : encounter.Rounds oracle left state random search) :
    ∀ question ∈ questionsOf search.events, question.proposed? = none := by
  have never {left : OpenModes} {state : σ} {random : Random} {mode : Mode}
      (proposed : (encounter.question oracle left state random).proposed? = some mode) :
      False := by
    rcases failing state random (encounter.context (encounter.offer left)) with ⟨error, failed⟩
    have answered := (Question.proposed?_eq_some_iff.1 proposed).1
    cases failed.symm.trans answered
  cases rounds with
  | emptied nothing =>
      intro question asked
      simp at asked
  | unanswered something useless =>
      intro question asked
      have same : question = encounter.question oracle left state random := by
        simpa using asked
      rw [same, useless]
  | accepted proposed passed => exact (never proposed).elim
  | rejected proposed failed tail => exact (never proposed).elim

namespace Model

variable {σ τ : Type} (model : Model σ τ)

/-! ## The tour that was sent back -/

section Baselines

variable (agent : Agent)

/-- Where the clock of the tour stands when a trip departs. -/
theorem trips_baseline_getElem? (trips : List Trip) (clock : Clock) (prior : List Candidate)
    {place : Nat} {planned : Trip} (there : trips[place]? = some planned) :
    (model.baseline agent trips clock prior).trips[place]? = some (planned.departAt
      ((clock.replay trips
          ((model.baseline agent trips clock prior).candidates.take place)).passActivity
        planned.origin.timing).time) := by
  induction trips generalizing clock prior place with
  | nil => cases there
  | cons first rest ih =>
      cases place with
      | zero =>
          cases there
          simp [baseline]
      | succ place => exact ih _ _ there

/-- The departures that trips have already do not matter. -/
theorem baseline_congr {first second : List Trip}
    (same : first.map Trip.undated = second.map Trip.undated) (clock : Clock)
    (prior : List Candidate) :
    model.baseline agent first clock prior = model.baseline agent second clock prior := by
  induction first generalizing second clock prior with
  | nil =>
      cases second with
      | nil => rfl
      | cons planned rest => cases same
  | cons planned rest ih =>
      cases second with
      | nil => cases same
      | cons planned' rest' =>
          simp only [List.map_cons, List.cons.injEq] at same
          rcases same with ⟨here, later⟩
          have timing : planned.origin.timing = planned'.origin.timing :=
            congrArg (fun trip => trip.origin.timing) here
          have stamped (seconds : Float) : planned.departAt seconds = planned'.departAt seconds :=
            congrArg (fun trip => trip.departAt seconds) here
          simp only [baseline, timing, stamped, ih later]

theorem initialTour_baseline {trips stamped : List Trip}
    (same : stamped.map Trip.undated = trips.map Trip.undated) :
    InitialTour model.estimator model.interpretation agent trips
      (model.baseline agent stamped (Clock.midnight model.interpretation) []).trips
      (model.baseline agent stamped (Clock.midnight model.interpretation) []).candidates := by
  rw [model.baseline_congr agent same]
  have complete := model.length_candidates_baseline agent trips
    (Clock.midnight model.interpretation) []
  have dates := congrArg List.length (model.undated_baseline agent trips
    (Clock.midnight model.interpretation) [])
  rw [List.length_map, List.length_map] at dates
  constructor
  · exact dates
  · exact complete
  · intro place planned there
    exact model.trips_baseline_getElem? agent trips _ _ there
  · intro place trip there
    have within := (List.getElem?_eq_some_iff.1 there).1
    rw [dates, ← complete] at within
    have candidate := List.getElem?_eq_getElem within
    rcases model.candidates_baseline_getElem? agent trips _ _ candidate with
      ⟨trip', there', estimated⟩
    cases there.symm.trans there'
    rw [candidate, estimated]
    rfl

end Baselines

/-! ## The ways to it -/

/-- The ways in which every trip of a tour comes to its initial mode. -/
inductive TakesInitialModes (desk : Desk σ τ) (agent : Agent) (trips : List Trip) : Prop where
  /-- Some trip gets no mode and sends the tour back. -/
  | sentBack {modes : TourModes}
      (found : TourModes.ofList (model.availability.modes agent trips) = .ok modes)
      (back : model.SentBack desk agent trips modes)
  /-- The filter leaves every trip out. -/
  | leftOut {modes : TourModes}
      (found : TourModes.ofList (model.availability.modes agent trips) = .ok modes)
      (out : ∀ stage ∈ model.history desk agent trips modes,
        model.selects (model.frameOf agent trips modes) stage = false)
  /-- No question to the oracle gets an answer that is of use, and trips without
  a mode keep their initial ones. -/
  | unanswered {modes : TourModes}
      (found : TourModes.ofList (model.availability.modes agent trips) = .ok modes)
      (policy : model.fallback = .initialChoice)
      (useless : ∀ question ∈ questionsOf (model.select desk agent trips).events,
        question.proposed? = none)

variable {model} {frame : TourFrame}

theorem foundAt_of_unanswered {stage : Stage σ τ}
    (useless : ∀ question ∈ questionsOf (model.loopEvents frame stage),
      question.proposed? = none) :
    model.foundAt frame stage = none := by
  have proposed : (questionsOf (model.loopEvents frame stage)).filterMap Question.proposed? = [] :=
    List.filterMap_eq_nil_iff.2 useless
  have nothing : model.evaluatedAt frame stage = [] := by
    rw [← estimatesOf_loopEvents, (estimates_eq_proposed stage).1, proposed, List.map_nil]
  rcases model.evaluatedAt_split frame stage with ⟨rejected, split, _⟩
  rw [nothing] at split
  simpa using (List.nil_eq_append_iff.1 split).2

theorem keptAt_of_unfound {stage : Stage σ τ} (policy : model.fallback = .initialChoice)
    (unfound : model.foundAt frame stage = none) :
    model.keptAt frame stage = some (model.initialAt frame stage) := by
  cases through : model.selects frame stage with
  | false => exact keptAt_of_out through
  | true =>
      rw [foundAt, if_pos through] at unfound
      exact (keptAt_of_stuck ⟨through, unfound⟩).trans (if_pos policy)

/-- A walk on which every stage keeps the initial mode is the same tour as the one
that was sent back. -/
theorem Journey.baseline_of_initial {trips : List Trip} {progress : Progress σ τ}
    {stages : List (Stage σ τ)} {walk : Walk σ τ}
    (journey : model.Journey frame trips progress stages walk)
    (initial : ∀ stage ∈ stages, model.keptAt frame stage = some (model.initialAt frame stage)) :
    walk.trips = (model.baseline frame.agent trips progress.clock progress.kept).trips ∧
      ∃ after, walk.ending = .finished after ∧ after.kept = progress.kept ++
        (model.baseline frame.agent trips progress.clock progress.kept).candidates := by
  -- The two go on from the same clock and the same candidates in every step.
  induction journey with
  | arrived => exact ⟨rfl, _, rfl, (List.append_nil _).symm⟩
  | @onward planned rest progress next stages walk advanced tail ih =>
      rcases (model.course_turnAt frame ⟨progress, planned⟩).of_advanced advanced with
        ⟨candidate, keeps, more, clock⟩
      have here := initial ⟨progress, planned⟩ (by simp)
      cases here.symm.trans keeps
      rcases ih fun stage among => initial stage (List.mem_cons_of_mem _ among) with
        ⟨dated, after, finished, kept⟩
      rw [more, clock] at dated kept
      refine ⟨congrArg _ dated, after, finished, ?_⟩
      rw [kept, List.append_assoc]
      rfl
  | @halted planned rest progress stop desk stopped =>
      have nothing :=
        (model.course_turnAt frame ⟨progress, planned⟩).keptAt_of_stopped stopped
      have here := initial ⟨progress, planned⟩ (by simp)
      cases here.symm.trans nothing

section Selections

variable {desk : Desk σ τ} {agent : Agent} {trips : List Trip} {modes : TourModes}
  (found : TourModes.ofList (model.availability.modes agent trips) = .ok modes)

include found

theorem initialTour_of_initial
    (initial : ∀ stage ∈ model.history desk agent trips modes,
      model.keptAt (model.frameOf agent trips modes) stage =
        some (model.initialAt (model.frameOf agent trips modes) stage)) :
    ∃ candidates, (model.select desk agent trips).outcome = .ok candidates ∧
      InitialTour model.estimator model.interpretation agent trips
        (model.select desk agent trips).trips candidates := by
  have journey := model.journey_walk (model.frameOf agent trips modes) trips
    (model.begin agent desk)
  rcases journey.baseline_of_initial initial with ⟨dated, after, finished, kept⟩
  refine ⟨after.kept, ?_, ?_⟩
  · rw [model.select_of_finished desk found finished]
  · rw [model.select_of_finished desk found finished, kept, dated]
    exact model.initialTour_baseline agent rfl

theorem initialTour_of_sentBack (back : model.SentBack desk agent trips modes) :
    ∃ candidates, (model.select desk agent trips).outcome = .ok candidates ∧
      InitialTour model.estimator model.interpretation agent trips
        (model.select desk agent trips).trips candidates := by
  have course := model.selectionCourse_select desk agent trips
  generalize model.select desk agent trips = selection at course ⊢
  cases course with
  | barren nothing => exact absurd nothing (modes_ne_nil_of_found found)
  | @completed given walk progress given_found journey finished =>
      cases found.symm.trans given_found
      exact absurd back (not_sentBack_of_finished journey finished)
  | @failed given walk trip last given_found journey stopped =>
      cases found.symm.trans given_found
      exact absurd back (not_sentBack_of_failure journey stopped)
  | reverted given_found journey stopped =>
      exact ⟨_, rfl, model.initialTour_baseline agent journey.undated⟩

end Selections

/-- Whichever way it went, it is the tour of initial modes. -/
theorem TakesInitialModes.initialTour {desk : Desk σ τ} {agent : Agent} {trips : List Trip}
    (takes : model.TakesInitialModes desk agent trips) :
    ∃ candidates, (model.select desk agent trips).outcome = .ok candidates ∧
      InitialTour model.estimator model.interpretation agent trips
        (model.select desk agent trips).trips candidates := by
  cases takes with
  | sentBack found back => exact initialTour_of_sentBack found back
  | leftOut found out =>
      apply initialTour_of_initial found
      intro stage among
      exact keptAt_of_out (out stage among)
  | unanswered found policy useless =>
      apply initialTour_of_initial found
      intro stage among
      apply keptAt_of_unfound policy
      apply foundAt_of_unanswered
      intro question asked
      rcases (model.selectionCourse_select desk agent trips).events_eq found with
        ⟨walk, closing, journey, same, _⟩
      have part := (journey.loopEvents_infix among).trans
        (List.prefix_append walk.events closing).isInfix
      rw [← same] at part
      exact useless question ((part.filterMap _).subset asked)

/-- An oracle that always fails is of no use in any tour. -/
theorem TakesInitialModes.of_failing {desk : Desk σ τ} {agent : Agent} {trips : List Trip}
    {modes : TourModes}
    (found : TourModes.ofList (model.availability.modes agent trips) = .ok modes)
    (policy : model.fallback = .initialChoice) (failing : model.oracle.Failing) :
    model.TakesInitialModes desk agent trips := by
  refine .unanswered found policy ?_
  intro question asked
  rcases exists_stage_of_asked asked with ⟨_, stage, _, _, here⟩
  exact (model.rounds_searchAt _ stage).proposed?_eq_none_of_failing failing question here

/-- All ways to a tour of initial modes lead to the same one: any two models with
one estimator and one reading of the clock succeed with the same candidates and
the same departures, which are those of the tour that starts at midnight and has
never been anything else. -/
theorem select_initial_tours_agree {σ' τ' : Type} (first : Model σ τ) (second : Model σ' τ')
    (estimator : second.estimator = first.estimator)
    (interpretation : second.interpretation = first.interpretation)
    (desk : Desk σ τ) (desk' : Desk σ' τ') (agent : Agent) (trips : List Trip)
    (one : first.TakesInitialModes desk agent trips)
    (other : second.TakesInitialModes desk' agent trips) :
    ∃ candidates, (first.select desk agent trips).outcome = .ok candidates ∧
      (second.select desk' agent trips).outcome = .ok candidates ∧
      (second.select desk' agent trips).trips = (first.select desk agent trips).trips ∧
      InitialTour first.estimator first.interpretation agent trips
        (first.select desk agent trips).trips candidates := by
  rcases one.initialTour with ⟨candidates, succeeded, tour⟩
  rcases other.initialTour with ⟨candidates', succeeded', tour'⟩
  rw [estimator, interpretation] at tour'
  rcases tour'.unique tour with ⟨dated, same⟩
  subst same
  exact ⟨candidates', succeeded, succeeded', dated, tour⟩

/-- A model that refuses the car, and everything on the trip with index five; the
bike takes longer than the rest, all modes take twice as long before half past
eight, and every trip takes longer than the one before. -/
def weary (fallback : Fallback) : Model Unit Unit :=
  let figures (mode : Mode) : Option Estimator.Figures :=
    some (1, if mode == .bike then 900 else 600)
  { strict fallback with
    estimator := ((Estimator.constant figures).peak 28800 30600).tiring }

/-- The tour that the second errand sends back after the first one went on foot
is the tour of an oracle that never answers and the tour of a filter that leaves
everything out. -/
theorem weary_initial_tours_agree :
    let trips := [errand 2 .bike, errand 5 .car]
    let silenced := { weary .initialChoice with oracle := Oracle.ofOrder [] }
    let idle := { weary .exception with filter := ⟨fun _ _ => false⟩, seed := 9 }
    let reverted := (weary .ignoreAgent).select (Desk.fresh () ()) (Agent.bare ⟨7⟩) trips
    (silenced.select (Desk.fresh () ()) (Agent.bare ⟨7⟩) trips).outcome =
        .ok [Candidate.make .bike 1 1800, Candidate.make .car 1 660] ∧
      (idle.select (Desk.fresh () ()) (Agent.bare ⟨7⟩) trips).trips = reverted.trips ∧
      reverted.trips.map Trip.departureTime = [some 28800, some 30600] ∧
      InitialTour (weary .ignoreAgent).estimator .endTimeOnly (Agent.bare ⟨7⟩) trips
        reverted.trips [Candidate.make .bike 1 1800, Candidate.make .car 1 660] := by
  intro trips silenced idle reverted
  let modes : TourModes := ⟨[.car, .walk], by decide, by decide⟩
  have found : TourModes.ofList ((weary .ignoreAgent).availability.modes (Agent.bare ⟨7⟩)
      trips) = .ok modes := by
    decide
  have lost : ((weary .ignoreAgent).history (Desk.fresh () ()) (Agent.bare ⟨7⟩) trips
      modes).any (fun stage =>
        ((weary .ignoreAgent).searchAt ((weary .ignoreAgent).frameOf (Agent.bare ⟨7⟩) trips
          modes) stage).kept == none) = true := by
    decide +kernel
  rcases List.any_eq_true.1 lost with ⟨stage, among, unfound⟩
  have back : (weary .ignoreAgent).TakesInitialModes (Desk.fresh () ()) (Agent.bare ⟨7⟩)
      trips :=
    .sentBack found ⟨rfl, stage, among, rfl, eq_of_beq unfound⟩
  have failing : (Oracle.ofOrder []).Failing := fun _ _ _ => ⟨.noValidModes, rfl⟩
  have never : silenced.TakesInitialModes (Desk.fresh () ()) (Agent.bare ⟨7⟩) trips :=
    .of_failing found rfl failing
  have out : idle.TakesInitialModes (Desk.fresh () ()) (Agent.bare ⟨7⟩) trips :=
    .leftOut found fun _ _ => rfl
  rcases select_initial_tours_agree (weary .ignoreAgent) silenced rfl rfl (Desk.fresh () ())
    (Desk.fresh () ()) (Agent.bare ⟨7⟩) trips back never with
      ⟨candidates, succeeded, silent, _, tour⟩
  rcases select_initial_tours_agree (weary .ignoreAgent) idle rfl rfl (Desk.fresh () ())
    (Desk.fresh () ()) (Agent.bare ⟨7⟩) trips back out with ⟨_, _, _, dated, _⟩
  have same : reverted.outcome =
      .ok [Candidate.make .bike 1 1800, Candidate.make .car 1 660] := by
    decide +kernel
  cases Except.ok.inj (succeeded.symm.trans same)
  exact ⟨silent, dated, by decide +kernel, tour⟩

end Model

end ModeChoice
