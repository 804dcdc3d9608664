import ModeChoice.Proofs.Retry.Feasibility
import ModeChoice.Proofs.Retry.Offers

/-!
# What the retry loop estimates

Every round that gets a usable answer estimates the proposed mode, and nothing
else is estimated.  The candidates that the loop hands on are therefore its
estimates in order: all were rejected but the last one, which is the candidate
kept, if the loop keeps one.  No mode is estimated twice.
-/

namespace ModeChoice

/-- The candidate that an estimate gave. -/
def Event.estimate? : Event → Option Candidate
  | .estimated _ _ _ candidate => some candidate
  | _ => none

/-- The candidates that were estimated, in order. -/
def estimatesOf (events : List Event) : List Candidate :=
  events.filterMap Event.estimate?

@[simp]
theorem estimatesOf_append (first second : List Event) :
    estimatesOf (first ++ second) = estimatesOf first ++ estimatesOf second :=
  List.filterMap_append

@[simp]
theorem recordsOf_append (first second : List Event) :
    recordsOf (first ++ second) = recordsOf first ++ recordsOf second :=
  List.filterMap_append

namespace Encounter

variable {σ : Type} {encounter : Encounter} {oracle : Oracle σ}

/-- The candidate is of no use for the trip: its utility is not finite, or the
constraint does not approve. -/
def Rejects (encounter : Encounter) (candidate : Candidate) : Prop :=
  candidate.isFeasible = false ∨ encounter.approves candidate = false

theorem rejects_of_failed {mode : Mode} (failed : (encounter.tryMode mode).accepted = false) :
    encounter.Rejects (encounter.estimate mode) := by
  cases feasible : (encounter.estimate mode).isFeasible with
  | false => exact .inl feasible
  | true =>
      rw [tryMode_of_feasible encounter feasible] at failed
      exact .inr failed

@[simp]
theorem estimatesOf_screening (left : OpenModes) :
    estimatesOf (encounter.screening left) = [] := by
  simp [estimatesOf, screening, Event.estimate?]

@[simp]
theorem estimatesOf_asking (left : OpenModes) (state : σ) (random : Random) :
    estimatesOf (encounter.asking oracle left state random) = [] := by
  simp only [asking, estimatesOf_append, estimatesOf_screening, List.nil_append]
  rfl

@[simp]
theorem estimatesOf_tryMode (mode : Mode) :
    estimatesOf (encounter.tryMode mode).events = [encounter.estimate mode] := by
  cases feasible : (encounter.estimate mode).isFeasible with
  | true => rw [tryMode_of_feasible encounter feasible]; rfl
  | false => rw [tryMode_of_infeasible encounter feasible]; rfl

@[simp]
theorem estimatesOf_enter (state : TripState) :
    estimatesOf [encounter.enter state] = [] := rfl

namespace Rounds

variable {left : OpenModes} {state : σ} {random : Random} {search : Search σ}

theorem evaluated_eq (rounds : encounter.Rounds oracle left state random search) :
    search.evaluated = estimatesOf search.events := by
  induction rounds with
  | emptied nothing => simp [Search.exhausted]
  | unanswered something useless => simp [Search.exhausted]
  | accepted proposed passed => simp
  | rejected proposed failed tail ih => simp [Search.after, ih]

theorem evaluated_eq_map (rounds : encounter.Rounds oracle left state random search) :
    search.evaluated = (estimatedModesOf search.events).map encounter.estimate := by
  induction rounds with
  | emptied nothing => simp [Search.exhausted]
  | unanswered something useless => simp [Search.exhausted]
  | accepted proposed passed => simp
  | rejected proposed failed tail ih => simp [Search.after, ih]

theorem nodup_estimatedModes (rounds : encounter.Rounds oracle left state random search) :
    (estimatedModesOf search.events).Nodup := by
  refine List.Pairwise.filterMap _ ?_ rounds.settled
  intro earlier later settles mode estimated other again same
  subst same
  exact (settles mode estimated).1 again

/-- All candidates were rejected but the one that is kept, and that one is the
last. -/
theorem evaluated_split (rounds : encounter.Rounds oracle left state random search) :
    ∃ rejected, search.evaluated = rejected ++ search.kept.toList ∧
      ∀ candidate ∈ rejected, encounter.Rejects candidate := by
  induction rounds with
  | emptied nothing => exact ⟨[], rfl, by simp⟩
  | unanswered something useless => exact ⟨[], rfl, by simp⟩
  | accepted proposed passed => exact ⟨[], rfl, by simp⟩
  | @rejected left state random mode rest proposed failed tail ih =>
      rcases ih with ⟨rejected, split, all⟩
      refine ⟨encounter.estimate mode :: rejected, by simp [Search.after, split], ?_⟩
      intro candidate among
      rcases List.mem_cons.1 among with rfl | later
      · exact rejects_of_failed failed
      · exact all candidate later

/-- The loop tells the auditor nothing. -/
theorem recordsOf_eq_nil (rounds : encounter.Rounds oracle left state random search) :
    recordsOf search.events = [] := by
  apply List.filterMap_eq_nil_iff.2
  intro event told
  cases event with
  | recorded record answer => exact absurd (rounds.reports _ told) id
  | _ => rfl

end Rounds

end Encounter

end ModeChoice
