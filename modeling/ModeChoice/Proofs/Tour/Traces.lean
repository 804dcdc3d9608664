import ModeChoice.Proofs.Retry.States
import ModeChoice.Proofs.Tour.Decisions
import ModeChoice.Proofs.Tour.Dialogue

/-!
# The states of the trips of a tour

A trip enters states in its own turn and nowhere else: first it is pending, and then, if the
filter lets it through, it goes through those of its retry loop.  So the states of a tour are
the states of its trips, one trip after the other, and how a trip's states end tells how its
loop ended.  What comes after the loop, the fallback and the second tour of one that was sent
back, enters no state.
-/

namespace ModeChoice

/-- The trip and the state that the event enters. -/
def Event.entry? : Event → Option (Nat × TripState)
  | .entered trip state => some (trip, state)
  | _ => none

/-- The states entered with their trips, in order. -/
def entriesOf (events : List Event) : List (Nat × TripState) :=
  events.filterMap Event.entry?

@[simp]
theorem entriesOf_append (first second : List Event) :
    entriesOf (first ++ second) = entriesOf first ++ entriesOf second :=
  List.filterMap_append

theorem entriesOf_of_closing {closing : List Event}
    (closes : ∀ event ∈ closing, event.Closes) : entriesOf closing = [] := by
  apply List.filterMap_eq_nil_iff.2
  intro event told
  cases event with
  | entered trip state => exact (closes _ told).elim
  | _ => rfl

theorem statesOf_eq_map (events : List Event) :
    statesOf events = (entriesOf events).map Prod.snd := by
  rw [statesOf, entriesOf, List.map_filterMap]
  congr 1
  funext event
  cases event <;> rfl

/-- Where all states are those of one trip, nothing is lost without its number. -/
theorem entriesOf_eq_map {index : Nat} {events : List Event}
    (own : ∀ entry ∈ entriesOf events, entry.1 = index) :
    entriesOf events = (statesOf events).map (Prod.mk index) := by
  rw [statesOf_eq_map, List.map_map]
  refine (List.map_id _).symm.trans (List.map_congr_left ?_)
  rintro ⟨trip, state⟩ among
  rw [← own _ among]
  rfl

namespace Model

variable {σ τ : Type} {model : Model σ τ} {frame : TourFrame} {stage : Stage σ τ}

/-! ## One turn -/

/-- The states that the trip of a stage enters. -/
def traceAt (model : Model σ τ) (frame : TourFrame) (stage : Stage σ τ) : List TripState :=
  statesOf (model.turnAt frame stage).events

theorem traceAt_eq : model.traceAt frame stage =
    .pending :: statesOf (model.loopEvents frame stage) := by
  rcases (model.course_turnAt frame stage).exists_closing with ⟨closing, same, closes⟩
  have silent : statesOf closing = [] := by
    rw [statesOf_eq_map, entriesOf_of_closing closes, List.map_nil]
  rw [traceAt, same, statesOf_append, silent, List.append_nil]
  rfl

/-- Every state entered in a turn is a state of its trip. -/
theorem entriesOf_turnAt :
    entriesOf (model.turnAt frame stage).events =
      (model.traceAt frame stage).map (Prod.mk stage.planned.index) := by
  apply entriesOf_eq_map
  rcases (model.course_turnAt frame stage).exists_closing with ⟨closing, same, closes⟩
  rw [same, entriesOf_append, entriesOf_of_closing closes, List.append_nil]
  intro entry among
  rcases List.mem_cons.1 among with rfl | looped
  · rfl
  · rcases List.mem_filterMap.1 looped with ⟨event, told, enters⟩
    unfold loopEvents at told
    split at told
    · have reports := (model.rounds_searchAt frame stage).reports event told
      cases event with
      | entered trip state =>
          cases enters
          exact reports
      | _ => cases enters
    · cases told

/-- The states of a trip tell what has become of it. -/
structure Traced (model : Model σ τ) (frame : TourFrame) (stage : Stage σ τ)
    (states : List TripState) : Prop where
  /-- A trip that the filter leaves out stays pending. -/
  leftOut_iff : states = [.pending] ↔ model.selects frame stage = false
  /-- Any other trip goes through rejections to one of three ends. -/
  looped : model.selects frame stage = true →
    ∃ rejections ending, states = .pending :: loopStates rejections ending
  accepted_iff : states.getLast? = some .accepted ↔
    ∃ candidate, model.foundAt frame stage = some candidate
  /-- From the question to the end at once goes a trip for which the oracle failed, or
  proposed a mode that was not on offer. -/
  unanswered_iff : [.awaitingRecommendation, .exhausted] <:+ states ↔
    ∃ question ∈ questionsOf (model.loopEvents frame stage),
      (∃ failure, question.answer = .error failure) ∨
        ∃ mode, question.answer = .ok mode ∧ mode ∉ question.offered
  /-- The trip is validated once for each estimate of the loop. -/
  validations : states.count .validating =
    (estimatesOf (model.loopEvents frame stage)).length

theorem traced_of_out (out : model.selects frame stage = false) :
    model.Traced frame stage (model.traceAt frame stage) := by
  have pending : model.traceAt frame stage = [.pending] := by
    rw [traceAt_eq, loopEvents_of_out out]
    rfl
  have alone : ¬ [TripState.awaitingRecommendation, .exhausted] <:+ [.pending] := by decide
  rw [pending]
  constructor
  · simp [out]
  · simp [out]
  · simp [foundAt, out]
  · rw [loopEvents_of_out out]
    simp [alone, questionsOf]
  · rw [loopEvents_of_out out]
    rfl

theorem traced_of_through (through : model.selects frame stage = true) :
    model.Traced frame stage (model.traceAt frame stage) := by
  rcases (model.rounds_searchAt frame stage).exists_runs with ⟨rejections, ending, runs⟩
  have states : model.traceAt frame stage = .pending :: loopStates rejections ending := by
    rw [traceAt_eq, loopEvents_of_through through, runs.states_eq]
  rw [states]
  constructor
  · simp [through, loopStates_ne_nil]
  · exact fun _ => ⟨rejections, ending, rfl⟩
  · rw [foundAt, if_pos through, ← Option.isSome_iff_exists, ← runs.accepted_iff,
      List.getLast?_cons, getLast?_loopStates]
    cases ending <;> simp
  · rw [unanswered_suffix_iff, runs.unanswered_iff, loopEvents_of_through through]
    simp only [Question.proposed?_eq_none_iff_failed_or_outside]
  · rw [loopEvents_of_through through, runs.estimates_eq, ← count_validating_loopStates]
    rfl

/-! ## Turn after turn -/

/-- The states of a walk are those of its turns, one turn after the other. -/
theorem Journey.entries_eq {trips : List Trip} {progress : Progress σ τ}
    {stages : List (Stage σ τ)} {walk : Walk σ τ}
    (journey : model.Journey frame trips progress stages walk) :
    entriesOf walk.events = stages.flatMap fun stage =>
      (model.traceAt frame stage).map (Prod.mk stage.planned.index) := by
  rw [journey.events_eq, entriesOf, List.filterMap_flatMap]
  congr 1
  funext stage
  exact entriesOf_turnAt

/-- The stages are those of all trips, or the last of them has kept nothing. -/
theorem Journey.complete_or_stopped {trips : List Trip} {progress : Progress σ τ}
    {stages : List (Stage σ τ)} {walk : Walk σ τ}
    (journey : model.Journey frame trips progress stages walk) :
    stages.length = trips.length ∨
      ∃ last, stages.getLast? = some last ∧ model.keptAt frame last = none := by
  cases ending : walk.ending with
  | finished after => exact .inl (journey.of_finished ending).1
  | stopped stop trip desk =>
      rcases journey.of_stopped ending with ⟨before, last, rfl, _, halted, _⟩
      exact .inr ⟨last, by simp, (model.course_turnAt frame last).keptAt_of_stopped halted⟩

/-- In every selection the trips enter their states in the order of the tour, each trip all
of its own before the next one enters any, and these are the states of a retry loop.  A
tour whose last traced trip has kept something is traced to its end. -/
theorem select_traces (model : Model σ τ) (desk : Desk σ τ) (agent : Agent)
    (trips : List Trip) :
    let selection := model.select desk agent trips
    (model.availability.modes agent trips = [] → entriesOf selection.events = []) ∧
    ∀ modes, TourModes.ofList (model.availability.modes agent trips) = .ok modes →
      let frame := model.frameOf agent trips modes
      let stages := model.history desk agent trips modes
      stages.map Stage.planned = trips.take stages.length ∧
      (stages.length = trips.length ∨
        ∃ last, stages.getLast? = some last ∧ model.keptAt frame last = none) ∧
      (entriesOf selection.events = stages.flatMap fun stage =>
        (model.traceAt frame stage).map (Prod.mk stage.planned.index)) ∧
      ∀ stage ∈ stages, model.Traced frame stage (model.traceAt frame stage) := by
  constructor
  · intro nothing
    rw [model.select_of_barren desk nothing]
    rfl
  · intro modes found frame stages
    rcases (model.selectionCourse_select desk agent trips).exists_closing found with
      ⟨walk, closing, journey, same, closes⟩
    refine ⟨journey.planned_eq, journey.complete_or_stopped, ?_, ?_⟩
    · rw [same, entriesOf_append, entriesOf_of_closing closes, List.append_nil]
      exact journey.entries_eq
    · intro stage among
      cases through : model.selects frame stage with
      | false => exact traced_of_out through
      | true => exact traced_of_through through

/-- The first errand walks after the car is rejected, and the second one is rejected twice
before its loop ends with nothing to offer. -/
theorem strict_traces_both_errands :
    let trips := [errand 2 .bike, errand 5 .car]
    ∃ modes stage,
      TourModes.ofList ((strict .exception).availability.modes (Agent.bare ⟨7⟩) trips) =
        .ok modes ∧
      stage ∈ (strict .exception).history (Desk.fresh () ()) (Agent.bare ⟨7⟩) trips modes ∧
      stage.planned = errand 5 .car ∧
      (strict .exception).Traced ((strict .exception).frameOf (Agent.bare ⟨7⟩) trips modes)
        stage [.pending, .awaitingRecommendation, .validating, .retry,
          .awaitingRecommendation, .validating, .retry, .exhausted] ∧
      entriesOf (strictSelection .exception).events =
        [(2, .pending), (2, .awaitingRecommendation), (2, .validating), (2, .retry),
          (2, .awaitingRecommendation), (2, .validating), (2, .accepted),
          (5, .pending), (5, .awaitingRecommendation), (5, .validating), (5, .retry),
          (5, .awaitingRecommendation), (5, .validating), (5, .retry), (5, .exhausted)] := by
  intro trips
  let modes : TourModes := ⟨[.car, .walk], by decide, by decide⟩
  have found : TourModes.ofList ((strict .exception).availability.modes (Agent.bare ⟨7⟩)
      trips) = .ok modes := by
    decide
  rcases (select_traces (strict .exception) (Desk.fresh () ()) (Agent.bare ⟨7⟩) trips).2 modes
    found with ⟨_, _, _, traced⟩
  have second : ((strict .exception).history (Desk.fresh () ()) (Agent.bare ⟨7⟩) trips
      modes)[1]?.map (fun stage => (stage.planned, (strict .exception).traceAt
        ((strict .exception).frameOf (Agent.bare ⟨7⟩) trips modes) stage)) =
      some (errand 5 .car, [.pending, .awaitingRecommendation, .validating, .retry,
          .awaitingRecommendation, .validating, .retry, .exhausted]) := by
    decide +kernel
  rcases Option.map_eq_some_iff.1 second with ⟨stage, there, looks⟩
  simp only [Prod.mk.injEq] at looks
  rcases looks with ⟨planned, states⟩
  have among := List.mem_of_getElem? there
  refine ⟨modes, stage, found, among, planned, states ▸ traced stage among, ?_⟩
  decide +kernel

end Model

end ModeChoice
