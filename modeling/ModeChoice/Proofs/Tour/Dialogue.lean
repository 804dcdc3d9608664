import ModeChoice.Proofs.Retry.Offers
import ModeChoice.Proofs.Tour.Soundness

/-!
# The dialogue of a tour with the oracle

The oracle is asked by the retry loop and by nothing else, so the questions of a
tour are those of its stages, one stage after the other.  The laws of the
dialogue about one trip therefore hold of every trip of every tour, and what was
rejected for one trip is on offer again for the next.
-/

namespace ModeChoice

/-- The event belongs to what comes after the retry loop, or in its place: nobody asks the
oracle there, and no trip enters a state. -/
def Event.Closes : Event → Prop
  | .leftOut _ | .estimated _ _ _ _ | .fellBack _ _ | .reverted _ | .recorded _ _ => True
  | .entered _ _ | .screened _ _ _ _ | .asked _ _ _ | .illegalUtility _ _ _
  | .judged _ _ _ _ => False

theorem questionsOf_of_closing {closing : List Event}
    (closes : ∀ event ∈ closing, event.Closes) : questionsOf closing = [] := by
  apply List.filterMap_eq_nil_iff.2
  intro event told
  cases event with
  | asked context answer log => exact (closes _ told).elim
  | _ => rfl

namespace Model

variable {σ τ : Type}

/-- What happened in the retry loop of a stage, if the filter let the trip
through. -/
def loopEvents (model : Model σ τ) (frame : TourFrame) (stage : Stage σ τ) : List Event :=
  if model.selects frame stage then (model.searchAt frame stage).events else []

variable {model : Model σ τ} {frame : TourFrame}

theorem loopEvents_of_out {stage : Stage σ τ} (out : model.selects frame stage = false) :
    model.loopEvents frame stage = [] :=
  if_neg (ne_true_of_eq_false out)

theorem loopEvents_of_through {stage : Stage σ τ}
    (through : model.selects frame stage = true) :
    model.loopEvents frame stage = (model.searchAt frame stage).events :=
  if_pos through

/-- A turn is its retry loop with a beginning and an end. -/
theorem Course.exists_closing {stage : Stage σ τ} {turn : Turn σ τ}
    (course : model.Course frame stage turn) :
    ∃ closing, turn.events = pending stage :: model.loopEvents frame stage ++ closing ∧
      ∀ event ∈ closing, event.Closes := by
  cases course with
  | leftOut out =>
      rw [loopEvents_of_out out]
      exact ⟨[_, _, _], rfl, by simp [Event.Closes]⟩
  | chosen through found =>
      rw [loopEvents_of_through through]
      exact ⟨[_], rfl, by simp [keep, Desk.audit, Event.Closes]⟩
  | fellBack stuck policy =>
      rw [loopEvents_of_through stuck.1]
      exact ⟨[_] ++ [_, _], List.append_assoc _ _ _, by simp [Event.Closes]⟩
  | reversed stuck policy =>
      rw [loopEvents_of_through stuck.1]
      exact ⟨[_], rfl, by simp [Event.Closes]⟩
  | failed stuck policy =>
      rw [loopEvents_of_through stuck.1]
      exact ⟨[], (List.append_nil _).symm, by simp⟩

/-- Nobody asks the oracle but the retry loop. -/
theorem Course.events_eq {stage : Stage σ τ} {turn : Turn σ τ}
    (course : model.Course frame stage turn) :
    ∃ closing, turn.events = pending stage :: model.loopEvents frame stage ++ closing ∧
      questionsOf closing = [] := by
  rcases course.exists_closing with ⟨closing, same, closes⟩
  exact ⟨closing, same, questionsOf_of_closing closes⟩

theorem questionsOf_turnAt (stage : Stage σ τ) :
    questionsOf (model.turnAt frame stage).events =
      questionsOf (model.loopEvents frame stage) := by
  rcases (model.course_turnAt frame stage).events_eq with ⟨closing, same, silent⟩
  rw [same, questionsOf_append, silent, List.append_nil]
  rfl

theorem loopEvents_infix (stage : Stage σ τ) :
    model.loopEvents frame stage <:+: (model.turnAt frame stage).events := by
  rcases (model.course_turnAt frame stage).events_eq with ⟨closing, same, _⟩
  exact ⟨[pending stage], closing, same.symm⟩

namespace Journey

variable {trips : List Trip} {progress : Progress σ τ} {stages : List (Stage σ τ)}
  {walk : Walk σ τ}

theorem questions_eq (journey : model.Journey frame trips progress stages walk) :
    questionsOf walk.events =
      stages.flatMap fun stage => questionsOf (model.loopEvents frame stage) := by
  induction journey with
  | arrived => rfl
  | onward advanced tail ih =>
      rw [questionsOf_append, questionsOf_turnAt, ih, List.flatMap_cons]
  | halted stopped =>
      rw [questionsOf_turnAt]
      simp

theorem loopEvents_infix (journey : model.Journey frame trips progress stages walk)
    {stage : Stage σ τ} (among : stage ∈ stages) :
    model.loopEvents frame stage <:+: walk.events := by
  rw [journey.events_eq]
  rcases List.append_of_mem among with ⟨before, after, rfl⟩
  have part : model.loopEvents frame stage <:+: (model.turnAt frame stage).events :=
    Model.loopEvents_infix stage
  rcases part with ⟨opening, closing, same⟩
  refine ⟨(before.flatMap fun stage => (model.turnAt frame stage).events) ++ opening,
    closing ++ after.flatMap fun stage => (model.turnAt frame stage).events, ?_⟩
  simp [← same]

end Journey

theorem closes_baseline (agent : Agent) (trips : List Trip) (clock : Clock)
    (prior : List Candidate) :
    ∀ event ∈ (model.baseline agent trips clock prior).events, event.Closes := by
  induction trips generalizing clock prior with
  | nil => simp [baseline]
  | cons planned rest ih => exact List.forall_mem_cons.2 ⟨trivial, ih _ _⟩

theorem events_revert (agent : Agent) (walk : Walk σ τ) (desk : Desk σ τ) :
    ∃ closing, (model.revert agent walk desk).events = walk.events ++ closing ∧
      ∀ event ∈ closing, event.Closes := by
  refine ⟨(model.baseline agent walk.trips (Clock.midnight model.interpretation) []).events ++
    [_], List.append_assoc _ _ _, ?_⟩
  intro event told
  rcases List.mem_append.1 told with estimated | recorded
  · exact closes_baseline agent walk.trips _ _ event estimated
  · rw [List.mem_singleton.1 recorded]
    trivial

/-- A selection is its walk with an end. -/
theorem SelectionCourse.exists_closing {desk : Desk σ τ} {agent : Agent} {trips : List Trip}
    {selection : Selection σ τ} (course : model.SelectionCourse desk agent trips selection)
    {modes : TourModes}
    (found : TourModes.ofList (model.availability.modes agent trips) = .ok modes) :
    ∃ walk closing,
      model.Journey (model.frameOf agent trips modes) trips (model.begin agent desk)
        (model.history desk agent trips modes) walk ∧
      selection.events = walk.events ++ closing ∧ ∀ event ∈ closing, event.Closes := by
  cases course with
  | barren nothing =>
      rw [nothing] at found
      cases found
  | @completed given walk progress given_found journey finished =>
      cases found.symm.trans given_found
      exact ⟨walk, [], journey, (List.append_nil _).symm, by simp⟩
  | @reverted given walk trip last given_found journey stopped =>
      cases found.symm.trans given_found
      rcases model.events_revert agent walk last with ⟨closing, same, closes⟩
      exact ⟨walk, closing, journey, same, closes⟩
  | @failed given walk trip last given_found journey stopped =>
      cases found.symm.trans given_found
      exact ⟨walk, [], journey, (List.append_nil _).symm, by simp⟩

/-- Everything that is asked in a selection is asked in the walk. -/
theorem SelectionCourse.events_eq {desk : Desk σ τ} {agent : Agent} {trips : List Trip}
    {selection : Selection σ τ} (course : model.SelectionCourse desk agent trips selection)
    {modes : TourModes}
    (found : TourModes.ofList (model.availability.modes agent trips) = .ok modes) :
    ∃ walk closing,
      model.Journey (model.frameOf agent trips modes) trips (model.begin agent desk)
        (model.history desk agent trips modes) walk ∧
      selection.events = walk.events ++ closing ∧ questionsOf closing = [] := by
  rcases course.exists_closing found with ⟨walk, closing, journey, same, closes⟩
  exact ⟨walk, closing, journey, same, questionsOf_of_closing closes⟩

/-- Every question of a selection was asked in the retry loop of some stage. -/
theorem exists_stage_of_asked {desk : Desk σ τ} {agent : Agent} {trips : List Trip}
    {question : Question}
    (asked : question ∈ questionsOf (model.select desk agent trips).events) :
    ∃ modes stage,
      TourModes.ofList (model.availability.modes agent trips) = .ok modes ∧
      stage ∈ model.history desk agent trips modes ∧
      question ∈ questionsOf (model.searchAt (model.frameOf agent trips modes) stage).events := by
  cases found : TourModes.ofList (model.availability.modes agent trips) with
  | error refused =>
      rw [model.select_of_barren desk (TourModes.ofList_eq_error_iff.1 found).1] at asked
      cases asked
  | ok modes =>
      rcases (model.selectionCourse_select desk agent trips).events_eq found with
        ⟨walk, closing, journey, same, silent⟩
      rw [same, questionsOf_append, silent, List.append_nil, journey.questions_eq] at asked
      rcases List.mem_flatMap.1 asked with ⟨stage, among, told⟩
      refine ⟨modes, stage, rfl, among, ?_⟩
      unfold loopEvents at told
      split at told
      · exact told
      · cases told

/-- In every selection the oracle is asked stage by stage, by the retry loop
alone, and the dialogue about each trip keeps to the laws of one that begins
with all modes of the tour.  About a traveller without modes nobody is asked. -/
theorem select_offers (model : Model σ τ) (desk : Desk σ τ) (agent : Agent)
    (trips : List Trip) :
    (model.availability.modes agent trips = [] →
      questionsOf (model.select desk agent trips).events = []) ∧
    ∀ modes, TourModes.ofList (model.availability.modes agent trips) = .ok modes →
      let frame := model.frameOf agent trips modes
      let stages := model.history desk agent trips modes
      (questionsOf (model.select desk agent trips).events =
        stages.flatMap fun stage => questionsOf (model.loopEvents frame stage)) ∧
      ∀ stage ∈ stages,
        model.loopEvents frame stage <:+: (model.select desk agent trips).events ∧
        (model.selects frame stage = false → model.loopEvents frame stage = []) ∧
        (model.selects frame stage = true →
          (model.encounterAt frame stage).OfferDiscipline modes
            (model.loopEvents frame stage)) := by
  constructor
  · intro nothing
    rw [model.select_of_barren desk nothing]
    rfl
  · intro modes found frame stages
    rcases (model.selectionCourse_select desk agent trips).events_eq found with
      ⟨walk, closing, journey, same, silent⟩
    rw [same]
    constructor
    · rw [questionsOf_append, silent, List.append_nil]
      exact journey.questions_eq
    · intro stage among
      refine ⟨?_, loopEvents_of_out, ?_⟩
      · exact (journey.loopEvents_infix among).trans (List.prefix_append _ _).isInfix
      · intro through
        rw [loopEvents_of_through through]
        exact (model.encounterAt frame stage).offerDiscipline_search model.oracle modes
          stage.progress.desk.oracle stage.progress.random

/-- The car that was rejected for the first errand is offered for the second. -/
theorem strict_offers_car_again :
    ∃ modes stage,
      TourModes.ofList ((strict .exception).availability.modes (Agent.bare ⟨7⟩)
        [errand 2 .bike, errand 5 .car]) = .ok modes ∧
      stage ∈ (strict .exception).history (Desk.fresh () ()) (Agent.bare ⟨7⟩)
        [errand 2 .bike, errand 5 .car] modes ∧
      stage.planned = errand 5 .car ∧
      ((strict .exception).encounterAt ((strict .exception).frameOf (Agent.bare ⟨7⟩)
        [errand 2 .bike, errand 5 .car] modes) stage).OfferDiscipline modes
          ((strict .exception).loopEvents ((strict .exception).frameOf (Agent.bare ⟨7⟩)
            [errand 2 .bike, errand 5 .car] modes) stage) ∧
      (questionsOf (strictSelection .exception).events).map Question.offered =
        [[.car, .walk], [.walk], [.car, .walk], [.walk]] := by
  have offers := select_offers (strict .exception) (Desk.fresh () ()) (Agent.bare ⟨7⟩)
    [errand 2 .bike, errand 5 .car]
  let modes : TourModes := ⟨[.car, .walk], by decide, by decide⟩
  have found : TourModes.ofList ((strict .exception).availability.modes (Agent.bare ⟨7⟩)
      [errand 2 .bike, errand 5 .car]) = .ok modes := by
    decide
  rcases offers.2 modes found with ⟨_, each⟩
  have second : ((strict .exception).history (Desk.fresh () ()) (Agent.bare ⟨7⟩)
      [errand 2 .bike, errand 5 .car] modes)[1]?.map Stage.planned = some (errand 5 .car) := by
    decide +kernel
  rcases Option.map_eq_some_iff.1 second with ⟨stage, there, planned⟩
  have among := List.mem_of_getElem? there
  refine ⟨modes, stage, found, among, planned, (each stage among).2.2 rfl, ?_⟩
  decide +kernel

end Model

end ModeChoice
