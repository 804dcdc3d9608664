import ModeChoice.Proofs.Retry.Estimates

/-!
# The states of a trip in the retry loop

A round that rejects its mode enters three states, and the loop goes round until it ends in
one of three ways: with an accepted mode, with an answer of no use, or with nothing left to
offer.  So the states entered are those of the rejections, one after the other, and those of
the ending.  Each ending leaves states behind that the others do not, and a mode is estimated
once for each time that the trip is validated.
-/

namespace ModeChoice

/-- The ways in which the retry loop ends. -/
inductive LoopEnd where
  | accepted
  | unanswered
  | emptied
  deriving DecidableEq, Repr

/-- The states entered in the last round. -/
def LoopEnd.states : LoopEnd → List TripState
  | .accepted => [.awaitingRecommendation, .validating, .accepted]
  | .unanswered => [.awaitingRecommendation, .exhausted]
  | .emptied => [.exhausted]

/-- The states entered in a round that rejects its mode. -/
def rejectionStates : List TripState :=
  [.awaitingRecommendation, .validating, .retry]

/-- The states entered by a loop that ends in this way after so many rejections. -/
def loopStates (rejections : Nat) (ending : LoopEnd) : List TripState :=
  (List.replicate rejections rejectionStates).flatten ++ ending.states

/-! ## Reading the states -/

variable {rejections : Nat} {ending : LoopEnd}

theorem loopStates_succ :
    loopStates (rejections + 1) ending = rejectionStates ++ loopStates rejections ending := by
  rw [loopStates, List.replicate_succ, List.flatten_cons, List.append_assoc]
  rfl

theorem loopStates_ne_nil : loopStates rejections ending ≠ [] := by
  cases ending <;> simp [loopStates, LoopEnd.states]

theorem count_validating_loopStates :
    (loopStates rejections ending).count .validating =
      rejections + ending.states.count .validating := by
  induction rejections with
  | zero => simp [loopStates]
  | succ rejections ih =>
      have once : rejectionStates.count .validating = 1 := by decide
      rw [loopStates_succ, List.count_append, once, ih]
      omega

/-- A trip ends in the state that its last round ends in. -/
theorem getLast?_loopStates :
    (loopStates rejections ending).getLast? =
      some (if ending = .accepted then .accepted else .exhausted) := by
  rw [loopStates, List.getLast?_append]
  cases ending <;> rfl

/-- After a rejection, and before all rounds, no answer is awaited. -/
theorem getLast?_rejections_ne (rejections : Nat) :
    (.pending :: (List.replicate rejections rejectionStates).flatten).getLast? ≠
      some .awaitingRecommendation := by
  cases rejections with
  | zero => decide
  | succ rejections =>
      rw [List.replicate_succ', List.flatten_append, ← List.cons_append, List.getLast?_append]
      exact nofun

/-- Only an answer of no use leads from the question to the end at once. -/
theorem unanswered_suffix_iff :
    [.awaitingRecommendation, .exhausted] <:+ .pending :: loopStates rejections ending ↔
      ending = .unanswered := by
  rw [loopStates, ← List.cons_append]
  cases ending with
  | accepted =>
      constructor
      · rintro ⟨front, same⟩
        have lasts := congrArg List.getLast? same
        rw [List.getLast?_append, List.getLast?_append] at lasts
        cases lasts
      · exact nofun
  | unanswered => exact ⟨fun _ => rfl, fun _ => List.suffix_append _ _⟩
  | emptied =>
      constructor
      · intro ends
        have parts : [TripState.awaitingRecommendation] ++ [.exhausted] <:+
            (.pending :: (List.replicate rejections rejectionStates).flatten) ++ [.exhausted] :=
          ends
        rcases ((List.suffix_append_inj_of_length_eq rfl).1 parts).1 with ⟨front, same⟩
        have last := getLast?_rejections_ne rejections
        rw [← same, List.getLast?_append] at last
        exact absurd rfl last
      · exact nofun

/-! ## The states of a loop -/

theorem Question.proposed?_eq_none_iff_failed_or_outside {question : Question} :
    question.proposed? = none ↔
      (∃ failure, question.answer = .error failure) ∨
        ∃ mode, question.answer = .ok mode ∧ mode ∉ question.offered := by
  rw [Question.proposed?_eq_none_iff]
  cases question.answer with
  | error failure => simp
  | ok named => simp

@[simp]
theorem statesOf_append (first second : List Event) :
    statesOf (first ++ second) = statesOf first ++ statesOf second :=
  List.filterMap_append

namespace Encounter

variable {σ : Type} {encounter : Encounter} {oracle : Oracle σ}

@[simp]
theorem statesOf_screening (left : OpenModes) : statesOf (encounter.screening left) = [] := by
  simp [statesOf, screening, Event.state?]

@[simp]
theorem statesOf_asking (left : OpenModes) (state : σ) (random : Random) :
    statesOf (encounter.asking oracle left state random) = [.awaitingRecommendation] := by
  rw [asking, statesOf_append, statesOf_screening]
  rfl

@[simp]
theorem statesOf_tryMode (mode : Mode) :
    statesOf (encounter.tryMode mode).events =
      [.validating, if (encounter.tryMode mode).accepted then .accepted else .retry] := by
  cases feasible : (encounter.estimate mode).isFeasible with
  | true => rw [tryMode_of_feasible encounter feasible]; rfl
  | false => rw [tryMode_of_infeasible encounter feasible]; rfl

@[simp]
theorem statesOf_enter (state : TripState) : statesOf [encounter.enter state] = [state] := rfl

/-- The search is one that ends in this way after so many rejections. -/
structure Runs (search : Search σ) (rejections : Nat) (ending : LoopEnd) : Prop where
  states_eq : statesOf search.events = loopStates rejections ending
  accepted_iff : ending = .accepted ↔ search.kept.isSome = true
  unanswered_iff : ending = .unanswered ↔
    ∃ question ∈ questionsOf search.events, question.proposed? = none
  estimates_eq : (estimatesOf search.events).length =
    rejections + ending.states.count .validating

/-- Every search ends in one of the three ways, after the rejections it has made. -/
theorem Rounds.exists_runs {left : OpenModes} {state : σ} {random : Random}
    {search : Search σ} (rounds : encounter.Rounds oracle left state random search) :
    ∃ rejections ending, Runs search rejections ending := by
  induction rounds with
  | emptied nothing =>
      refine ⟨0, .emptied, ?_, ?_, ?_, ?_⟩
      · simp [loopStates, LoopEnd.states]
      · simp [Search.exhausted]
      · simp
      · simp [LoopEnd.states]
  | unanswered something useless =>
      refine ⟨0, .unanswered, ?_, ?_, ?_, ?_⟩
      · simp [loopStates, LoopEnd.states]
      · simp [Search.exhausted]
      · simp [useless]
      · simp [LoopEnd.states]
  | accepted proposed passed =>
      refine ⟨0, .accepted, ?_, ?_, ?_, ?_⟩
      · simp [passed, loopStates, LoopEnd.states]
      · simp
      · simp [proposed]
      · simp [LoopEnd.states]
  | rejected proposed failed tail ih =>
      rcases ih with ⟨rejections, ending, runs⟩
      refine ⟨rejections + 1, ending, ?_, runs.accepted_iff, ?_, ?_⟩
      · rw [loopStates_succ, ← runs.states_eq]
        simp [failed, rejectionStates]
      · rw [runs.unanswered_iff, questionsOf_round]
        simp [proposed]
      · simp only [Search.events_after, estimatesOf_append, estimatesOf_asking,
          estimatesOf_tryMode, List.nil_append, List.singleton_append, List.length_cons,
          runs.estimates_eq]
        omega

end Encounter

end ModeChoice
