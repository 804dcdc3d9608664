import ModeChoice.Proofs.Tour.Stages

/-!
# A tour with its initial modes

Sending a tour back takes its trips from midnight once more, with the initial
mode for each.  Like the walk it sets departures and nothing else, and it gives
one candidate for every trip; unlike the walk it cannot stop.
-/

namespace ModeChoice

/-- The trip without what a selection sets. -/
def Trip.undated (trip : Trip) : Trip :=
  { trip with departureTime := none }

@[simp]
theorem Trip.undated_departAt (trip : Trip) (seconds : Float) :
    (trip.departAt seconds).undated = trip.undated := rfl

/-- Trips that differ in their departures alone have the same indices. -/
theorem map_index_of_undated {first second : List Trip}
    (same : first.map Trip.undated = second.map Trip.undated) :
    first.map Trip.index = second.map Trip.index := by
  have indices := congrArg (List.map Trip.index) same
  rw [List.map_map, List.map_map] at indices
  exact indices

namespace Model

variable {σ τ : Type} (model : Model σ τ) (agent : Agent)

theorem undated_baseline (trips : List Trip) (clock : Clock) (prior : List Candidate) :
    (model.baseline agent trips clock prior).trips.map Trip.undated =
      trips.map Trip.undated := by
  induction trips generalizing clock prior with
  | nil => rfl
  | cons planned rest ih => simp [baseline, ih]

theorem isSome_departureTime_baseline (trips : List Trip) (clock : Clock)
    (prior : List Candidate) :
    ∀ trip ∈ (model.baseline agent trips clock prior).trips,
      trip.departureTime.isSome = true := by
  induction trips generalizing clock prior with
  | nil => simp [baseline]
  | cons planned rest ih =>
      intro trip among
      rcases List.mem_cons.1 among with rfl | later
      · rfl
      · exact ih _ _ trip later

theorem length_candidates_baseline (trips : List Trip) (clock : Clock)
    (prior : List Candidate) :
    (model.baseline agent trips clock prior).candidates.length = trips.length := by
  induction trips generalizing clock prior with
  | nil => rfl
  | cons planned rest ih => simp [baseline, ih]

/-- Every candidate is the estimate of its trip by the initial mode, after the
candidates before it. -/
theorem candidates_baseline_getElem? (trips : List Trip) (clock : Clock)
    (prior : List Candidate) {place : Nat} {candidate : Candidate}
    (there : (model.baseline agent trips clock prior).candidates[place]? = some candidate) :
    ∃ trip, (model.baseline agent trips clock prior).trips[place]? = some trip ∧
      candidate = model.estimateInitial agent trip
        (prior ++ (model.baseline agent trips clock prior).candidates.take place) := by
  induction trips generalizing clock prior place with
  | nil => cases there
  | cons planned rest ih =>
      cases place with
      | zero =>
          refine ⟨_, rfl, ?_⟩
          have same := Option.some.inj there
          rw [← same, List.take_zero, List.append_nil]
      | succ place =>
          rcases ih _ _ there with ⟨trip, here, estimated⟩
          refine ⟨trip, here, ?_⟩
          rw [estimated, List.append_assoc]
          rfl

end Model

end ModeChoice
