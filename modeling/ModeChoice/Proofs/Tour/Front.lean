import ModeChoice.Proofs.Tour.Outcome

/-!
# The front of a tour

The walk along a tour begins with the walk along its first trips, and is over
if that one stops.  So what happened in the first turns can be told without the
trips after them, and `Model.turnEvents` tells it turn by turn.
-/

namespace ModeChoice

namespace Model

variable {σ τ : Type} (model : Model σ τ)

section Walks

variable (frame : TourFrame)

/-- Where the walk along the first trips arrives, the walk along the others sets
out. -/
theorem walk_append {front : List Trip} {progress after : Progress σ τ}
    (arrived : (model.walk frame front progress).ending = .finished after)
    (rest : List Trip) :
    model.walk frame (front ++ rest) progress =
      { trips := (model.walk frame front progress).trips ++ (model.walk frame rest after).trips
        ending := (model.walk frame rest after).ending
        events := (model.walk frame front progress).events ++
          (model.walk frame rest after).events } := by
  induction front generalizing progress with
  | nil =>
      cases arrived
      rfl
  | cons planned front ih =>
      rw [walk_cons] at arrived
      rw [List.cons_append, walk_cons, walk_cons]
      cases ending : (model.turnAt frame ⟨progress, planned⟩).ending with
      | stopped stop desk =>
          -- A front that stops has not arrived anywhere.
          rw [ending] at arrived
          cases arrived
      | advanced next =>
          rw [ending] at arrived
          simp only [ih arrived, List.cons_append, List.append_assoc]

theorem stages_append {front : List Trip} {progress after : Progress σ τ}
    (arrived : (model.walk frame front progress).ending = .finished after)
    (rest : List Trip) :
    model.stages frame (front ++ rest) progress =
      model.stages frame front progress ++ model.stages frame rest after := by
  induction front generalizing progress with
  | nil =>
      cases arrived
      rfl
  | cons planned front ih =>
      rw [walk_cons] at arrived
      simp only [List.cons_append, stages]
      cases ending : (model.turnAt frame ⟨progress, planned⟩).ending with
      | stopped stop desk =>
          rw [ending] at arrived
          cases arrived
      | advanced next =>
          rw [ending] at arrived
          simp only [ih arrived]

/-- A walk that stops has come as far as the trip at which it stops. -/
theorem exists_front_of_stopped {trips : List Trip} {progress : Progress σ τ} {stop : Stop}
    {trip : Trip} {desk : Desk σ τ}
    (stopped : (model.walk frame trips progress).ending = .stopped stop trip desk) :
    ∃ front planned rest after, trips = front ++ planned :: rest ∧
      (model.walk frame front progress).ending = .finished after ∧
      (model.turnAt frame ⟨after, planned⟩).ending = .stopped stop desk ∧
      trip = (Stage.mk after planned).trip := by
  induction trips generalizing progress with
  | nil => cases stopped
  | cons planned rest ih =>
      rw [walk_cons] at stopped
      cases ending : (model.turnAt frame ⟨progress, planned⟩).ending with
      | stopped stop' desk' =>
          rw [ending] at stopped
          cases stopped
          have same := (model.course_turnAt frame ⟨progress, planned⟩).trip_eq
          exact ⟨[], planned, rest, progress, rfl, rfl, ending, same⟩
      | advanced next =>
          rw [ending] at stopped
          rcases ih stopped with ⟨front, last, others, after, rfl, arrived, halted, same⟩
          refine ⟨planned :: front, last, others, after, rfl, ?_, halted, same⟩
          rw [walk_cons, ending]
          exact arrived

/-- A walk to the end has arrived after its first trips, too. -/
theorem exists_arrived_of_finished {front rest : List Trip} {progress final : Progress σ τ}
    (finished : (model.walk frame (front ++ rest) progress).ending = .finished final) :
    ∃ after, (model.walk frame front progress).ending = .finished after := by
  induction front generalizing progress with
  | nil => exact ⟨progress, rfl⟩
  | cons planned front ih =>
      rw [List.cons_append, walk_cons] at finished
      rw [walk_cons]
      cases ending : (model.turnAt frame ⟨progress, planned⟩).ending with
      | stopped stop desk =>
          rw [ending] at finished
          cases finished
      | advanced next =>
          rw [ending] at finished
          exact ih finished

/-- What a walk to the end has kept begins with what it had kept after its first
trips. -/
theorem kept_take_of_arrived {front rest : List Trip} {progress after final : Progress σ τ}
    (fresh : progress.kept = [])
    (arrived : (model.walk frame front progress).ending = .finished after)
    (finished : (model.walk frame (front ++ rest) progress).ending = .finished final) :
    final.kept.take front.length = after.kept := by
  have length := (model.journey_walk frame front progress).length_kept fresh arrived
  rw [model.walk_append frame arrived] at finished
  rcases (model.journey_walk frame rest after).of_finished finished with ⟨_, kept, more, _⟩
  rw [more, ← length, List.take_left' rfl]

/-- A walk begins with the stamped trip of its first turn, whatever becomes of
it. -/
theorem exists_trips_walk_cons (planned : Trip) (rest : List Trip) (progress : Progress σ τ) :
    ∃ others, (model.walk frame (planned :: rest) progress).trips =
      (Stage.mk progress planned).trip :: others := by
  have same := (model.course_turnAt frame ⟨progress, planned⟩).trip_eq
  rw [walk_cons]
  cases ending : (model.turnAt frame ⟨progress, planned⟩).ending with
  | stopped stop desk => exact ⟨rest, by simp only [same]⟩
  | advanced next => exact ⟨(model.walk frame rest next).trips, by simp only [same]⟩

theorem turnAt_events_prefix_walk (planned : Trip) (rest : List Trip)
    (progress : Progress σ τ) :
    (model.turnAt frame ⟨progress, planned⟩).events <+:
      (model.walk frame (planned :: rest) progress).events := by
  rw [walk_cons]
  cases ending : (model.turnAt frame ⟨progress, planned⟩).ending with
  | stopped stop desk => exact List.prefix_rfl
  | advanced next => exact List.prefix_append _ _

theorem length_trips_walk (trips : List Trip) (progress : Progress σ τ) :
    (model.walk frame trips progress).trips.length = trips.length := by
  have lengths := congrArg List.length (model.journey_walk frame trips progress).undated
  simpa using lengths

theorem length_stages {trips : List Trip} {progress after : Progress σ τ}
    (arrived : (model.walk frame trips progress).ending = .finished after) :
    (model.stages frame trips progress).length = trips.length :=
  ((model.journey_walk frame trips progress).of_finished arrived).1

/-- A walk comes to the end where trips without a mode keep their initial ones,
and where there is no such trip. -/
theorem exists_finished_of_unstuck {trips : List Trip} {progress : Progress σ τ}
    (goesOn : model.fallback = .initialChoice ∨
      ∀ stage ∈ model.stages frame trips progress, ¬ model.Stuck frame stage) :
    ∃ after, (model.walk frame trips progress).ending = .finished after := by
  have journey := model.journey_walk frame trips progress
  cases ending : (model.walk frame trips progress).ending with
  | finished after => exact ⟨after, rfl⟩
  | stopped stop trip desk =>
      rcases journey.of_stopped ending with ⟨before, last, same, _, halted, _⟩
      have nothing := (model.course_turnAt frame last).keptAt_of_stopped halted
      rcases keptAt_eq_none_iff.1 nothing with ⟨stuck, policy⟩
      rcases goesOn with keeps | free
      · exact absurd keeps policy
      · exact absurd stuck (free last (by simp [same]))

end Walks

/-- What happened in the turn of each trip that had one. -/
def turnEvents (desk : Desk σ τ) (agent : Agent) (trips : List Trip) : List (List Event) :=
  match TourModes.ofList (model.availability.modes agent trips) with
  | .error _ => []
  | .ok modes =>
      (model.history desk agent trips modes).map fun stage =>
        (model.turnAt (model.frameOf agent trips modes) stage).events

variable {model}

theorem turnEvents_of_found {desk : Desk σ τ} {agent : Agent} {trips : List Trip}
    {modes : TourModes}
    (found : TourModes.ofList (model.availability.modes agent trips) = .ok modes) :
    model.turnEvents desk agent trips =
      (model.history desk agent trips modes).map fun stage =>
        (model.turnAt (model.frameOf agent trips modes) stage).events := by
  simp only [turnEvents, found]

theorem turnEvents_of_barren {desk : Desk σ τ} {agent : Agent} {trips : List Trip}
    (nothing : model.availability.modes agent trips = []) :
    model.turnEvents desk agent trips = [] := by
  have refused : TourModes.ofList (model.availability.modes agent trips) = .error .emptySet :=
    TourModes.ofList_eq_error_iff.2 ⟨nothing, rfl⟩
  simp only [turnEvents, refused]

/-- The events of a walk are those of its turns. -/
theorem flatten_turnEvents {desk : Desk σ τ} {agent : Agent} {trips : List Trip}
    {modes : TourModes}
    (found : TourModes.ofList (model.availability.modes agent trips) = .ok modes) :
    (model.turnEvents desk agent trips).flatten =
      (model.walk (model.frameOf agent trips modes) trips (model.begin agent desk)).events := by
  rw [turnEvents_of_found found,
    (model.journey_walk (model.frameOf agent trips modes) trips
      (model.begin agent desk)).events_eq, List.flatMap_def]
  rfl

/-- A selection begins with its walk. -/
theorem walk_events_prefix_select {desk : Desk σ τ} {agent : Agent} {trips : List Trip}
    {modes : TourModes}
    (found : TourModes.ofList (model.availability.modes agent trips) = .ok modes) :
    (model.walk (model.frameOf agent trips modes) trips (model.begin agent desk)).events <+:
      (model.select desk agent trips).events := by
  rw [model.select_of_found desk found]
  split
  · exact List.prefix_rfl
  · exact (List.prefix_append _ _).trans (List.prefix_append _ _)
  · exact List.prefix_rfl

end Model

end ModeChoice
