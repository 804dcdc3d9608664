import ModeChoice.Agent.Population
import ModeChoice.Selection.Model

/-!
# Many tours

The tours of a population, one after the other on one model.  A tour without a
traveller fails by itself and leaves the others alone.
-/

namespace ModeChoice

/-- What became of one tour. -/
structure TourResult where
  outcome : Except ChoiceError (List Candidate)
  /-- The tour with the departures that were set. -/
  tour : Tour
  events : List Event

/-- What became of many tours, in their order. -/
structure Batch (σ τ : Type) where
  results : List TourResult
  desk : Desk σ τ

namespace Model

variable {σ τ : Type}

/-- The selection of a tour of a known traveller. -/
def selectTour (model : Model σ τ) (desk : Desk σ τ) (agent : Agent) (tour : Tour) :
    TourResult × Desk σ τ :=
  let selection := model.select desk agent tour.trips
  ( { outcome := selection.outcome
      tour := { tour with trips := selection.trips }
      events := selection.events },
    selection.desk )

/-- The selection of a tour whose traveller is looked up. -/
def selectFrom (model : Model σ τ) (population : Population) (desk : Desk σ τ) (tour : Tour) :
    TourResult × Desk σ τ :=
  match population.get? tour.agent with
  | some agent => model.selectTour desk agent tour
  | none => ({ outcome := .error (.unknownAgent tour.agent), tour, events := [] }, desk)

/-- The selections of many tours, in order. -/
def selectPopulation (model : Model σ τ) (population : Population) (desk : Desk σ τ) :
    List Tour → Batch σ τ
  | [] => { results := [], desk }
  | tour :: rest =>
      let (result, desk) := model.selectFrom population desk tour
      let batch := model.selectPopulation population desk rest
      { batch with results := result :: batch.results }

end Model

end ModeChoice
