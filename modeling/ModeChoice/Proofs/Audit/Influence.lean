import ModeChoice.Proofs.Tour.Decisions

/-!
# The auditor has no influence

Two runs that differ in their auditors alone go the same way.  They agree, turn
by turn, in everything that a turn reads: the clock, the random stream, the
state of the oracle and the candidates kept so far.
-/

namespace ModeChoice

/-- The model with another auditor. -/
def Model.audited {σ τ υ : Type} (model : Model σ τ) (auditor : Auditor υ) : Model σ υ where
  oracle := model.oracle
  estimator := model.estimator
  availability := model.availability
  constraints := model.constraints
  filter := model.filter
  fallback := model.fallback
  interpretation := model.interpretation
  auditor := auditor
  seed := model.seed

section Alike

variable {σ τ υ : Type}

/-- The tours have come equally far, and differ at most in what was audited. -/
structure Progress.Alike (first : Progress σ τ) (second : Progress σ υ) : Prop where
  clock : first.clock = second.clock
  random : first.random = second.random
  oracle : first.desk.oracle = second.desk.oracle
  kept : first.kept = second.kept

/-- The turns end in the same way. -/
inductive TurnEnd.Alike : TurnEnd σ τ → TurnEnd σ υ → Prop where
  | advanced {first : Progress σ τ} {second : Progress σ υ} (alike : first.Alike second) :
      Alike (.advanced first) (.advanced second)
  | stopped {stop : Stop} {first : Desk σ τ} {second : Desk σ υ}
      (oracle : first.oracle = second.oracle) :
      Alike (.stopped stop first) (.stopped stop second)

/-- The walks end in the same way. -/
inductive WalkEnd.Alike : WalkEnd σ τ → WalkEnd σ υ → Prop where
  | finished {first : Progress σ τ} {second : Progress σ υ} (alike : first.Alike second) :
      Alike (.finished first) (.finished second)
  | stopped {stop : Stop} {trip : Trip} {first : Desk σ τ} {second : Desk σ υ}
      (oracle : first.oracle = second.oracle) :
      Alike (.stopped stop trip first) (.stopped stop trip second)

end Alike

namespace Model

variable {σ τ υ : Type} (model : Model σ τ) (auditor : Auditor υ) (frame : TourFrame)
  {first : Progress σ τ} {second : Progress σ υ}

theorem keep_alike (alike : first.Alike second) (agent : Agent) (clock : Clock) (trip : Trip)
    (evaluated evaluated' : List Candidate) (candidate : Candidate) :
    (model.keep agent first clock trip evaluated candidate).1.Alike
      ((model.audited auditor).keep agent second clock trip evaluated' candidate).1 where
  clock := rfl
  random := alike.random
  oracle := alike.oracle
  kept := congrArg (· ++ [candidate]) alike.kept

/-! ## One turn -/

theorem trip_alike (alike : first.Alike second) (planned : Trip) :
    (Stage.mk second planned).trip = (Stage.mk first planned).trip := by
  simp only [Stage.trip, Stage.clock, alike.clock]

theorem selects_audited (alike : first.Alike second) (planned : Trip) :
    (model.audited auditor).selects frame ⟨second, planned⟩ =
      model.selects frame ⟨first, planned⟩ := by
  rw [selects, trip_alike alike]
  rfl

theorem searchAt_audited (alike : first.Alike second) (planned : Trip) :
    (model.audited auditor).searchAt frame ⟨second, planned⟩ =
      model.searchAt frame ⟨first, planned⟩ := by
  simp only [searchAt, encounterAt, trip_alike alike, ← alike.kept, ← alike.oracle,
    ← alike.random]
  rfl

theorem keptAt_audited (alike : first.Alike second) (planned : Trip) :
    (model.audited auditor).keptAt frame ⟨second, planned⟩ =
      model.keptAt frame ⟨first, planned⟩ := by
  have initial : (model.audited auditor).initialAt frame ⟨second, planned⟩ =
      model.initialAt frame ⟨first, planned⟩ := by
    rw [initialAt, trip_alike alike, ← alike.kept]
    rfl
  simp only [keptAt, selects_audited model auditor frame alike,
    searchAt_audited model auditor frame alike, initial]
  rfl

theorem triedAt_alike (alike : first.Alike second) (planned : Trip) :
    (model.triedAt frame ⟨first, planned⟩).Alike
      ((model.audited auditor).triedAt frame ⟨second, planned⟩) := by
  have selects := model.selects_audited auditor frame alike planned
  have search := model.searchAt_audited auditor frame alike planned
  cases through : model.selects frame ⟨first, planned⟩ with
  | false =>
      rw [through] at selects
      rw [triedAt_of_out through, triedAt_of_out selects]
      exact alike
  | true =>
      rw [through] at selects
      rw [triedAt_of_through through, triedAt_of_through selects]
      exact {
        clock := alike.clock
        random := by rw [searched, searched, search]
        oracle := by rw [searched, searched, search]
        kept := alike.kept }

/-- Where the tours have come equally far, the next turn ends in the same way. -/
theorem turnAt_alike (alike : first.Alike second) (planned : Trip) :
    (model.turnAt frame ⟨first, planned⟩).ending.Alike
      ((model.audited auditor).turnAt frame ⟨second, planned⟩).ending := by
  -- What is kept settles how a turn ends, and the auditor has no part in that.
  have tried := model.triedAt_alike auditor frame alike planned
  have same := model.keptAt_audited auditor frame alike planned
  cases keeps : model.keptAt frame ⟨first, planned⟩ with
  | none =>
      rw [keeps] at same
      rw [(turnAt_of_unkept keeps).1, (turnAt_of_unkept same).1]
      refine .stopped ?_
      rw [searched, searched, searchAt_audited model auditor frame alike]
  | some candidate =>
      rw [keeps] at same
      rw [(turnAt_of_kept keeps).1, (turnAt_of_kept same).1]
      have clock : (Stage.mk second planned).clock = (Stage.mk first planned).clock := by
        rw [Stage.clock, Stage.clock, alike.clock]
      rw [clock, trip_alike alike]
      exact .advanced (model.keep_alike auditor tried _ _ _ _ _ _)

/-! ## The whole run -/

theorem walk_alike (alike : first.Alike second) (trips : List Trip) :
    (model.walk frame trips first).trips =
        ((model.audited auditor).walk frame trips second).trips ∧
      (model.walk frame trips first).ending.Alike
        ((model.audited auditor).walk frame trips second).ending := by
  induction trips generalizing first second with
  | nil => exact ⟨rfl, .finished alike⟩
  | cons planned rest ih =>
      have trip : ((model.audited auditor).turnAt frame ⟨second, planned⟩).trip =
          (model.turnAt frame ⟨first, planned⟩).trip := by
        rw [(course_turnAt _ _ _).trip_eq, (course_turnAt _ _ _).trip_eq, trip_alike alike]
      have turn := model.turnAt_alike auditor frame alike planned
      rw [walk_cons, walk_cons, trip]
      generalize (model.turnAt frame ⟨first, planned⟩).ending = ending at turn ⊢
      generalize ((model.audited auditor).turnAt frame ⟨second, planned⟩).ending = ending'
        at turn ⊢
      cases turn with
      | advanced alike =>
          rcases ih alike with ⟨trips, walked⟩
          exact ⟨congrArg _ trips, walked⟩
      | stopped oracle => exact ⟨rfl, .stopped oracle⟩

theorem baseline_audited (agent : Agent) (trips : List Trip) (clock : Clock)
    (prior : List Candidate) :
    (model.audited auditor).baseline agent trips clock prior =
      model.baseline agent trips clock prior := by
  induction trips generalizing clock prior with
  | nil => rfl
  | cons planned rest ih =>
      simp only [baseline, ih]
      rfl

/-- Another auditor, and another number to begin with, change neither the
outcome of a selection nor the departures that it sets nor the oracle. -/
theorem select_audited (desk : Desk σ τ) (other : Desk σ υ)
    (same : other.oracle = desk.oracle) (agent : Agent) (trips : List Trip) :
    ((model.audited auditor).select other agent trips).outcome =
        (model.select desk agent trips).outcome ∧
      ((model.audited auditor).select other agent trips).trips =
        (model.select desk agent trips).trips ∧
      ((model.audited auditor).select other agent trips).desk.oracle =
        (model.select desk agent trips).desk.oracle := by
  have begun : (model.begin agent desk).Alike ((model.audited auditor).begin agent other) :=
    ⟨rfl, rfl, same.symm, rfl⟩
  cases found : TourModes.ofList (model.availability.modes agent trips) with
  | error error =>
      have nothing := (TourModes.ofList_eq_error_iff.1 found).1
      rw [model.select_of_barren desk nothing,
        (model.audited auditor).select_of_barren other nothing]
      exact ⟨rfl, rfl, same⟩
  | ok modes =>
      rcases model.walk_alike auditor (model.frameOf agent trips modes) begun trips with
        ⟨walked, ending⟩
      have frame : (model.audited auditor).frameOf agent trips modes =
          model.frameOf agent trips modes := rfl
      rw [model.select_of_found desk found,
        (model.audited auditor).select_of_found other found, frame]
      generalize model.walk (model.frameOf agent trips modes) trips
        (model.begin agent desk) = walk at walked ending ⊢
      generalize (model.audited auditor).walk (model.frameOf agent trips modes) trips
        ((model.audited auditor).begin agent other) = walk' at walked ending ⊢
      rcases walk with ⟨trips, ending, events⟩
      rcases walk' with ⟨trips', ending', events'⟩
      cases ending with
      | finished alike => exact ⟨congrArg Except.ok alike.kept.symm, walked.symm, alike.oracle.symm⟩
      | @stopped stop trip first second oracle =>
          cases stop with
          | failure => exact ⟨rfl, walked.symm, oracle.symm⟩
          | reversal =>
              cases walked
              have again := model.baseline_audited auditor agent trips
                (Clock.midnight model.interpretation) []
              exact ⟨congrArg (Except.ok ∘ Baseline.candidates) again,
                congrArg Baseline.trips again, oracle.symm⟩

end Model

end ModeChoice
