import ModeChoice.Proofs.Audit.Marks
import ModeChoice.Proofs.Tour.Batch

/-!
# Auditors of a population

The tours of a population come to the same with any auditor, and every auditor is told of
the same records under the same numbers.  What one of them does with a record, or that it
does not take it, is its own affair.
-/

namespace ModeChoice

variable {σ τ υ : Type}

/-- The same came out of the tours, and the auditors were told of the same. -/
structure Batch.SameSelections (first : Batch σ τ) (second : Batch σ υ) : Prop where
  selections : first.results.map (fun result => (result.outcome, result.tour)) =
    second.results.map fun result => (result.outcome, result.tour)
  oracle : first.desk.oracle = second.desk.oracle
  records : recordsOf (first.results.flatMap TourResult.events) =
    recordsOf (second.results.flatMap TourResult.events)

/-- Records are told by what they are without their numbers, and by these. -/
theorem SelectionRecord.eq_of_unnumbered {first second : List SelectionRecord}
    (same : first.map SelectionRecord.unnumbered = second.map SelectionRecord.unnumbered)
    (numbers : first.map SelectionRecord.selection = second.map SelectionRecord.selection) :
    first = second := by
  have injective : Function.Injective fun record : SelectionRecord =>
      (record.unnumbered, record.selection) := by
    rintro ⟨agent, tripIndices, selection, candidates, selected⟩ other same
    cases other
    simpa [SelectionRecord.unnumbered, and_assoc, and_comm, and_left_comm] using same
  apply List.map_injective_iff.2 injective
  rw [← List.zip_map', ← List.zip_map', same, numbers]

namespace Model

variable (model : Model σ τ) (auditor : Auditor υ) (population : Population)
  {desk : Desk σ τ} {other : Desk σ υ}

theorem selectFrom_audited (same : other.oracle = desk.oracle) (tour : Tour) :
    ((model.audited auditor).selectFrom population other tour).1.unnumbered =
        (model.selectFrom population desk tour).1.unnumbered ∧
      ((model.audited auditor).selectFrom population other tour).2.oracle =
        (model.selectFrom population desk tour).2.oracle := by
  cases found : population.get? tour.agent with
  | none =>
      rw [model.selectFrom_of_unknown population desk found,
        (model.audited auditor).selectFrom_of_unknown population other found]
      exact ⟨rfl, same⟩
  | some agent =>
      rw [model.selectFrom_of_known population desk found,
        (model.audited auditor).selectFrom_of_known population other found]
      have events := model.events_select_audited auditor desk other same agent tour.trips
      rcases model.select_audited auditor desk other same agent tour.trips with
        ⟨outcome, trips, oracle⟩
      refine ⟨?_, oracle⟩
      rw [TourResult.unnumbered, TourResult.unnumbered, TourResult.mk.injEq]
      exact ⟨outcome, congrArg (Tour.mk tour.agent) trips, events.symm⟩

theorem unnumbered_selectPopulation_audited (same : other.oracle = desk.oracle)
    (tours : List Tour) :
    ((model.audited auditor).selectPopulation population other tours).results.map
          TourResult.unnumbered =
        (model.selectPopulation population desk tours).results.map TourResult.unnumbered ∧
      ((model.audited auditor).selectPopulation population other tours).desk.oracle =
        (model.selectPopulation population desk tours).desk.oracle := by
  induction tours generalizing desk other with
  | nil => exact ⟨rfl, same⟩
  | cons tour rest ih =>
      rcases model.selectFrom_audited auditor population same tour with ⟨result, oracle⟩
      rcases ih oracle with ⟨results, oracle⟩
      exact ⟨by simp only [selectPopulation, List.map_cons, result, results], oracle⟩

/-- With another auditor the tours of a population come to the same, and it is told of the
same records. -/
theorem selectPopulation_audited (same : other.oracle = desk.oracle)
    (numbers : other.nextSelection = desk.nextSelection) (tours : List Tour) :
    ((model.audited auditor).selectPopulation population other tours).SameSelections
      (model.selectPopulation population desk tours) := by
  have first := (model.audited auditor).tells_selectPopulation population other tours
  have second := model.tells_selectPopulation population desk tours
  rcases model.unnumbered_selectPopulation_audited auditor population same tours with
    ⟨results, oracle⟩
  generalize (model.audited auditor).selectPopulation population other tours = batch
    at first results oracle ⊢
  generalize model.selectPopulation population desk tours = batch' at second results oracle ⊢
  have unnumbered : (recordsOf (batch.results.flatMap TourResult.events)).map
        SelectionRecord.unnumbered =
      (recordsOf (batch'.results.flatMap TourResult.events)).map
        SelectionRecord.unnumbered := by
    have events := congrArg (fun results => recordsOf (results.flatMap TourResult.events)) results
    simpa only [List.flatMap_map, TourResult.unnumbered, ← List.map_flatMap,
      recordsOf_map_unnumbered] using events
  exact {
    selections := by
      have parts := congrArg
        (List.map fun result : TourResult => (result.outcome, result.tour)) results
      rwa [List.map_map, List.map_map] at parts
    oracle := oracle
    records := by
      apply SelectionRecord.eq_of_unnumbered unnumbered
      have length := congrArg List.length unnumbered
      rw [List.length_map, List.length_map] at length
      rw [first.numbered, second.numbered, numbers, length] }

end Model

end ModeChoice
