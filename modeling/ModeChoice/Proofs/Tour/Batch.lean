import ModeChoice.Proofs.Agent.Register
import ModeChoice.Proofs.Audit.Numbers
import ModeChoice.Proofs.Audit.Retelling
import ModeChoice.Proofs.Tour.Soundness
import ModeChoice.Selection.Batch

/-!
# Tours of a population

The tours of a list share one model.  What one of them leaves behind is the state of
the oracle, the state of the auditor and the number of the next record; an oracle
without a state has nothing to leave, and the other two have no part in a selection.  So
every tour comes to what it comes to alone.  A tour without a traveller is not even
counted.
-/

namespace ModeChoice

/-- The result without the numbers of its records and the auditor's answers. -/
def TourResult.unnumbered (result : TourResult) : TourResult :=
  { result with events := result.events.map Event.unnumbered }

/-- The result of a tour whose traveller is not in the population. -/
def TourResult.unknown (tour : Tour) : TourResult where
  outcome := .error (.unknownAgent tour.agent)
  tour
  events := []

/-- Nothing is hidden in a result where nothing has happened. -/
theorem TourResult.eq_of_unnumbered {result other : TourResult}
    (same : result.unnumbered = other) (silent : other.events = []) : result = other := by
  subst same
  have events : result.events = [] := List.map_eq_nil_iff.1 silent
  rw [unnumbered, events, List.map_nil, ← events]

/-- The results of the tours do not depend on each other. -/
structure Batch.Independent {τ : Type} (model : Model Unit τ) (population : Population)
    (desk : Desk Unit τ) (tours : List Tour) (batch : Batch Unit τ) : Prop where
  /-- Every tour has a result. -/
  length_eq : batch.results.length = tours.length
  /-- Alone on a fresh model the tour has the same outcome, departures and events. -/
  alone : ∀ (fresh : Desk Unit τ) (place : Nat) (tour : Tour) (agent : Agent),
    tours[place]? = some tour → population.get? tour.agent = some agent →
      batch.results[place]?.map TourResult.unnumbered =
        some (model.selectTour fresh agent tour).1.unnumbered
  unknown : ∀ (place : Nat) (tour : Tour), tours[place]? = some tour →
    population.get? tour.agent = none →
      batch.results[place]? = some (TourResult.unknown tour)
  /-- It is the same in any other list, wherever it stands and whatever becomes of the
  tours around it. -/
  elsewhere : ∀ (desk' : Desk Unit τ) (other : List Tour) (place place' : Nat),
    other[place']? = tours[place]? →
      (model.selectPopulation population desk' other).results[place']?.map
          TourResult.unnumbered =
        batch.results[place]?.map TourResult.unnumbered
  /-- Tours in another order take their results with them. -/
  permuted : ∀ (desk' : Desk Unit τ) (other : List Tour), tours.Perm other →
    (tours.zip (batch.results.map TourResult.unnumbered)).Perm
      (other.zip ((model.selectPopulation population desk' other).results.map
        TourResult.unnumbered))
  /-- Without a tour that has no traveller, all others keep even their numbers. -/
  uncounted : ∀ before tour after, tours = before ++ tour :: after →
    population.get? tour.agent = none →
      let others := model.selectPopulation population desk (before ++ after)
      batch.desk = others.desk ∧
        batch.results = others.results.take before.length ++
          TourResult.unknown tour :: others.results.drop before.length
  /-- The numbers go on from tour to tour. -/
  numbered : model.auditor.Tells desk (batch.results.flatMap TourResult.events) batch.desk

namespace Population

theorem agents_ofList_singleton (agent : Agent) : (ofList [agent]).agents = #[agent] := by
  simp only [ofList, List.foldl_cons, List.foldl_nil, insert]
  split
  · rename_i place found
    simp [empty] at found
  · rfl

end Population

namespace Model

variable {σ τ : Type} (model : Model σ τ) (population : Population)

/-! ## One tour -/

theorem selectFrom_of_known (desk : Desk σ τ) {tour : Tour} {agent : Agent}
    (known : population.get? tour.agent = some agent) :
    model.selectFrom population desk tour = model.selectTour desk agent tour := by
  rw [selectFrom, known]

theorem selectFrom_of_unknown (desk : Desk σ τ) {tour : Tour}
    (unknown : population.get? tour.agent = none) :
    model.selectFrom population desk tour = (TourResult.unknown tour, desk) := by
  rw [selectFrom, unknown]
  rfl

theorem tells_selectFrom (desk : Desk σ τ) (tour : Tour) :
    model.auditor.Tells desk (model.selectFrom population desk tour).1.events
      (model.selectFrom population desk tour).2 := by
  cases found : population.get? tour.agent with
  | none =>
      rw [model.selectFrom_of_unknown population desk found]
      exact .of_silent rfl rfl rfl
  | some agent =>
      rw [model.selectFrom_of_known population desk found]
      exact model.tells_select desk agent tour.trips

/-- With an oracle without a state, the desk has no part in the selection of a tour. -/
theorem unnumbered_selectTour (model : Model Unit τ) (desk desk' : Desk Unit τ)
    (agent : Agent) (tour : Tour) :
    (model.selectTour desk' agent tour).1.unnumbered =
      (model.selectTour desk agent tour).1.unnumbered := by
  have events := model.events_select_audited model.auditor desk desk' rfl agent tour.trips
  rcases model.select_audited model.auditor desk desk' rfl agent tour.trips with
    ⟨outcome, trips, _⟩
  rw [TourResult.unnumbered, TourResult.unnumbered, TourResult.mk.injEq]
  exact ⟨outcome, congrArg (Tour.mk tour.agent) trips, events.symm⟩

theorem unnumbered_selectFrom (model : Model Unit τ) (desk desk' : Desk Unit τ)
    (tour : Tour) :
    (model.selectFrom population desk' tour).1.unnumbered =
      (model.selectFrom population desk tour).1.unnumbered := by
  cases found : population.get? tour.agent with
  | none =>
      rw [model.selectFrom_of_unknown population desk found,
        model.selectFrom_of_unknown population desk' found]
  | some agent =>
      rw [model.selectFrom_of_known population desk found,
        model.selectFrom_of_known population desk' found]
      exact model.unnumbered_selectTour desk desk' agent tour

/-! ## The tours of a list -/

theorem length_results_selectPopulation (desk : Desk σ τ) (tours : List Tour) :
    (model.selectPopulation population desk tours).results.length = tours.length := by
  induction tours generalizing desk with
  | nil => rfl
  | cons tour rest ih => exact congrArg (· + 1) (ih _)

theorem selectPopulation_append (desk : Desk σ τ) (before after : List Tour) :
    model.selectPopulation population desk (before ++ after) =
      let first := model.selectPopulation population desk before
      let second := model.selectPopulation population first.desk after
      { second with results := first.results ++ second.results } := by
  induction before generalizing desk with
  | nil => rfl
  | cons tour rest ih =>
      simp only [List.cons_append, selectPopulation, ih]

theorem tells_selectPopulation (desk : Desk σ τ) (tours : List Tour) :
    model.auditor.Tells desk
      ((model.selectPopulation population desk tours).results.flatMap TourResult.events)
      (model.selectPopulation population desk tours).desk := by
  induction tours generalizing desk with
  | nil => exact .of_silent rfl rfl rfl
  | cons tour rest ih =>
      rw [selectPopulation, List.flatMap_cons]
      exact (model.tells_selectFrom population desk tour).append (ih _)

/-- A tour without a traveller puts its result among those of the others, and that is
all that it does. -/
theorem selectPopulation_of_unknown (desk : Desk σ τ) (before : List Tour) {tour : Tour}
    (after : List Tour) (unknown : population.get? tour.agent = none) :
    let others := model.selectPopulation population desk (before ++ after)
    model.selectPopulation population desk (before ++ tour :: after) =
      { others with
        results := others.results.take before.length ++
          TourResult.unknown tour :: others.results.drop before.length } := by
  have length := model.length_results_selectPopulation population desk before
  simp only [selectPopulation_append, selectPopulation,
    model.selectFrom_of_unknown population _ unknown, ← length, List.take_left,
    List.drop_left]

/-- With an oracle without a state, the results are those of the tours one by one. -/
theorem unnumbered_selectPopulation (model : Model Unit τ) (fresh desk : Desk Unit τ)
    (tours : List Tour) :
    (model.selectPopulation population desk tours).results.map TourResult.unnumbered =
      tours.map fun tour => (model.selectFrom population fresh tour).1.unnumbered := by
  induction tours generalizing desk with
  | nil => rfl
  | cons tour rest ih =>
      rw [selectPopulation, List.map_cons, List.map_cons, ih,
        model.unnumbered_selectFrom population fresh desk]

theorem unnumbered_result (model : Model Unit τ) (fresh desk : Desk Unit τ)
    (tours : List Tour) (place : Nat) :
    (model.selectPopulation population desk tours).results[place]?.map
        TourResult.unnumbered =
      tours[place]?.map fun tour =>
        (model.selectFrom population fresh tour).1.unnumbered := by
  rw [← List.getElem?_map, model.unnumbered_selectPopulation population fresh,
    List.getElem?_map]

/-- The tours of a population do not depend on each other where the oracle has no state:
each comes to what it comes to alone, in whatever list it stands, and only the numbers
of the records tell which tours were before it. -/
theorem selectPopulation_independent (model : Model Unit τ) (population : Population)
    (desk : Desk Unit τ) (tours : List Tour) :
    (model.selectPopulation population desk tours).Independent model population desk
      tours where
  length_eq := model.length_results_selectPopulation population desk tours
  alone fresh place tour agent there known := by
    rw [model.unnumbered_result population fresh, there, Option.map_some,
      model.selectFrom_of_known population fresh known]
  unknown place tour there unknown := by
    have alone := model.unnumbered_result population desk desk tours place
    rw [there, Option.map_some, model.selectFrom_of_unknown population desk unknown] at alone
    rcases Option.map_eq_some_iff.1 alone with ⟨result, here, same⟩
    rw [here, TourResult.eq_of_unnumbered same rfl]
    rfl
  elsewhere desk' other place place' same := by
    rw [model.unnumbered_result population desk, model.unnumbered_result population desk, same]
  permuted desk' other reordered := by
    rw [model.unnumbered_selectPopulation population desk,
      model.unnumbered_selectPopulation population desk, ← List.map_prod_left_eq_zip,
      ← List.map_prod_left_eq_zip]
    exact reordered.map _
  uncounted before tour after same unknown := by
    subst same
    rw [model.selectPopulation_of_unknown population desk before after unknown]
    exact ⟨rfl, rfl⟩
  numbered := model.tells_selectPopulation population desk tours

/-- Of three tours the first one fails and the second one has no traveller, and the third
one is selected nonetheless. -/
theorem strict_tours_independent :
    let population := Population.ofList [Agent.bare ⟨7⟩]
    let failing : Tour := ⟨⟨7⟩, [errand 2 .bike, errand 5 .car]⟩
    let stray : Tour := ⟨⟨8⟩, [errand 2 .bike]⟩
    let last : Tour := ⟨⟨7⟩, [errand 2 .bike]⟩
    let run := (strict .exception).selectPopulation population (Desk.fresh () ())
    (run [failing, stray, last]).results[0]?.map TourResult.outcome =
        some (.error (.noFeasibleChoice ⟨7⟩ 5)) ∧
      (run [failing, stray, last]).results[1]? = some (TourResult.unknown stray) ∧
      (run [failing, stray, last]).results[2]?.map TourResult.outcome =
        some (.ok [Candidate.make .walk 1 600]) ∧
      (run [failing, stray, last]).desk = (run [failing, last]).desk := by
  intro population failing stray last run
  have independent := selectPopulation_independent (strict .exception) population
    (Desk.fresh () ()) [failing, stray, last]
  have known : population.get? ⟨7⟩ = some (Agent.bare ⟨7⟩) := by
    rw [Population.get?_eq_some_iff, Population.agents_ofList_singleton]
    exact ⟨Array.mem_singleton_self _, rfl⟩
  have unknown : population.get? ⟨8⟩ = none := by
    rw [Option.eq_none_iff_forall_ne_some]
    intro agent found
    rw [Population.get?_eq_some_iff, Population.agents_ofList_singleton,
      Array.mem_singleton] at found
    rcases found with ⟨rfl, same⟩
    cases same
  have outcome {place : Nat} {result : TourResult}
      (alone : (run [failing, stray, last]).results[place]?.map TourResult.unnumbered =
        some result) :
      (run [failing, stray, last]).results[place]?.map TourResult.outcome =
        some result.outcome := by
    rcases Option.map_eq_some_iff.1 alone with ⟨numbered, here, rfl⟩
    rw [here]
    rfl
  have refused : ((strict .exception).selectTour (Desk.fresh () ()) (Agent.bare ⟨7⟩)
      failing).1.outcome = .error (.noFeasibleChoice ⟨7⟩ 5) := by
    decide +kernel
  have walked : ((strict .exception).selectTour (Desk.fresh () ()) (Agent.bare ⟨7⟩)
      last).1.outcome = .ok [Candidate.make .walk 1 600] := by
    decide +kernel
  refine ⟨?_, independent.unknown 1 stray rfl unknown, ?_,
    (independent.uncounted [failing] stray [last] rfl unknown).1⟩
  · rw [outcome (independent.alone (Desk.fresh () ()) 0 failing _ rfl known), ← refused]
    rfl
  · rw [outcome (independent.alone (Desk.fresh () ()) 2 last _ rfl known), ← walked]
    rfl
end Model

end ModeChoice
