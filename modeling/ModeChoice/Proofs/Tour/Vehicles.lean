import ModeChoice.Proofs.Tour.Foresight
import ModeChoice.Proofs.Tour.Parts

/-!
# Where the vehicles are

Vehicle continuity asks at every trip where a vehicle is, and finds the answer in the
modes kept so far: it is at the end of the last trip that used it.  Driven along from
trip to trip, the vehicle gets to the same place.  So under this rule, alone or among
others, no car and no bike is ever taken from where it is not, whatever became of the
trips before: those that were left out or fell back move their vehicles too.
-/

namespace ModeChoice

/-- Where the vehicle of a mode is parked when the trips have been made by the modes:
it starts somewhere, and every trip that uses it takes it along. -/
def parkedAfter (mode : Mode) : Location → List Trip → List Mode → Location
  | start, trip :: trips, used :: previous =>
      parkedAfter mode (if used = mode then trip.destination.place else start) trips previous
  | start, _, _ => start

theorem vehicleLocation_cons (start place : Location) (destinations : List Location)
    (mode used : Mode) (previous : List Mode) :
    vehicleLocation start (place :: destinations) mode (used :: previous) =
      vehicleLocation (if used = mode then place else start) destinations mode previous := by
  by_cases same : used = mode
  · subst same
    -- The last of the legs that used the vehicle is this one, unless there is a later one.
    simp only [vehicleLocation, List.zip_cons_cons, List.filter_cons, BEq.rfl, ↓reduceIte,
      List.getLast?_cons, Option.map_some, Option.getD_some]
    cases ((previous.zip destinations).filter fun leg => leg.1 == used).getLast? with
    | none => rfl
    | some leg => rfl
  · simp [vehicleLocation, same]

theorem vehicleLocation_eq_parkedAfter (mode : Mode) (start : Location) (trips : List Trip)
    (previous : List Mode) :
    vehicleLocation start (trips.map fun trip => trip.destination.place) mode previous =
      parkedAfter mode start trips previous := by
  induction trips generalizing start previous with
  | nil => simp [vehicleLocation, parkedAfter]
  | cons trip trips ih =>
      cases previous with
      | nil => rfl
      | cons used previous => rw [List.map_cons, vehicleLocation_cons, ih, parkedAfter]

/-- Vehicle continuity lets a vehicle be taken from where it is parked, and from
nowhere else. -/
theorem acceptsMode_vehicleContinuity {agent : Agent} {first : Trip} {rest : List Trip}
    {modes : TourModes} {trip : Trip} {mode : Mode} {previous : List Mode}
    (vehicle : mode.isPrivateVehicle = true) :
    (ConstraintFactory.vehicleContinuity.create agent (first :: rest) modes).acceptsMode trip
        mode previous = true ↔
      (parkedAfter mode first.origin.place (first :: rest) previous).metresTo
        trip.origin.place ≤ samePlaceMetres := by
  rw [← vehicleLocation_eq_parkedAfter]
  simp [ConstraintFactory.vehicleContinuity, Constraint.vehicleContinuity, vehicle]

namespace Model

variable {σ τ : Type}

/-- Vehicles do not jump.  Where the rules of a model include vehicle continuity, be it
inside conjunctions of conjunctions, and its estimator keeps the modes, every car and
every bike that the retry loop has found for a trip stands at the origin of this trip
after the trips before it, each made by the mode that it has in the end. -/
theorem select_takes_parked_vehicles (model : Model σ τ) (desk : Desk σ τ) (agent : Agent)
    (trips : List Trip) {kept : List Candidate}
    (continuous : ConstraintFactory.vehicleContinuity.Within model.constraints)
    (honest : model.estimator.KeepsMode)
    (succeeded : (model.select desk agent trips).outcome = .ok kept)
    (unreverted : ¬ (model.select desk agent trips).Reverted) :
    (∀ (mode : Mode) (start : Location) (tour : List Trip) (previous : List Mode),
      vehicleLocation start (tour.map fun trip => trip.destination.place) mode previous =
        parkedAfter mode start tour previous) ∧
    ∃ modes, TourModes.ofList (model.availability.modes agent trips) = .ok modes ∧
      (model.history desk agent trips modes).length = trips.length ∧
      kept.length = trips.length ∧
      ∀ place stage candidate,
        (model.history desk agent trips modes)[place]? = some stage →
        model.foundAt (model.frameOf agent trips modes) stage = some candidate →
        trips[place]? = some stage.planned ∧ kept[place]? = some candidate ∧
          (candidate.mode = .car ∨ candidate.mode = .bike →
            ∃ first, trips.head? = some first ∧
              (parkedAfter candidate.mode first.origin.place trips
                ((kept.take place).map Candidate.mode)).metresTo
                  stage.planned.origin.place ≤ 1) := by
  refine ⟨vehicleLocation_eq_parkedAfter, ?_⟩
  rcases exists_journey_of_unreverted succeeded unreverted with
    ⟨modes, walk, progress, available, journey, finished, rfl, _⟩
  refine ⟨modes, available, (journey.of_finished finished).1,
    journey.length_kept rfl finished, ?_⟩
  intro place stage candidate there found
  have planned := journey.planned_getElem? there
  rcases journey.kept_of_stage rfl finished there with ⟨same, keeps, keeps', prior⟩
  cases (keptAt_of_foundAt found).symm.trans keeps'
  refine ⟨planned, keeps, ?_⟩
  intro vehicle
  rcases accepted_of_foundAt found (continuous agent trips modes) with
    ⟨mode, estimated, admitted, _⟩
  have asked : candidate.mode = mode := by
    rw [estimated]
    exact honest _ _ _ _
  have driven : candidate.mode.isPrivateVehicle = true := by
    rcases vehicle with car | bike
    · rw [car]
      rfl
    · rw [bike]
      rfl
  cases trips with
  | nil => cases planned
  | cons first rest =>
      refine ⟨first, rfl, ?_⟩
      rw [← asked, prior] at admitted
      have parked := (acceptsMode_vehicleContinuity driven).1 admitted
      exact parked

/-- On the way home the bike is taken without being asked for, so that it is there for
the next errand, and the car is not. -/
theorem commuter_takes_parked_bike :
    let trips := [errand 0 .bike, homeward 1 .bike, errand 2 .walk]
    let model := { commuter .exception with filter := ⟨fun _ trip => trip.index != 1⟩ }
    let selection := model.select (Desk.fresh () ()) (Agent.bare ⟨7⟩) trips
    selection.outcome = .ok [Candidate.make .car 1 600, Candidate.make .bike 1 600,
        Candidate.make .bike 1 600] ∧
      (parkedAfter .bike ⟨0, 0⟩ trips [.car, .bike]).metresTo ⟨0, 0⟩ ≤ 1 ∧
      ¬ (parkedAfter .car ⟨0, 0⟩ trips [.car, .bike]).metresTo ⟨0, 0⟩ ≤ 1 := by
  intro trips model selection
  let modes : TourModes := ⟨[.car, .walk, .bike], by decide, by decide⟩
  have available : TourModes.ofList (model.availability.modes (Agent.bare ⟨7⟩) trips) =
      .ok modes := by
    decide
  have rules : ConstraintFactory.vehicleContinuity.Within model.constraints :=
    .inPart (by simp) .itself
  have honest : model.estimator.KeepsMode :=
    Estimator.keepsMode_constant fun _ => some (1, 600)
  have succeeded : selection.outcome = .ok [Candidate.make .car 1 600,
      Candidate.make .bike 1 600, Candidate.make .bike 1 600] := by
    decide +kernel
  have unreverted : ¬ selection.Reverted := by
    decide +kernel
  have third : (model.history (Desk.fresh () ()) (Agent.bare ⟨7⟩) trips modes)[2]?.bind
      (model.foundAt (model.frameOf (Agent.bare ⟨7⟩) trips modes)) =
        some (Candidate.make .bike 1 600) := by
    decide +kernel
  rcases Option.bind_eq_some_iff.1 third with ⟨stage, there, found⟩
  rcases select_takes_parked_vehicles model (Desk.fresh () ()) (Agent.bare ⟨7⟩) trips rules
    honest succeeded unreverted with ⟨_, modes', available', _, _, each⟩
  cases available.symm.trans available'
  rcases each 2 stage _ there found with ⟨planned, _, parked⟩
  rcases parked (.inr rfl) with ⟨first, head, near⟩
  cases head
  have last : stage.planned = errand 2 .walk := (Option.some.inj planned).symm
  rw [last] at near
  exact ⟨succeeded, near, by decide +kernel⟩

end Model

end ModeChoice
