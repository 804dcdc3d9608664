import ModeChoice.Proofs.Retry.Feasibility
import ModeChoice.Proofs.Tour.Decisions
import ModeChoice.Proofs.Tour.Soundness

/-!
# Rules inside rules

The rule of a tour is often a conjunction of rules, of which some are conjunctions
again.  What the whole accepts, every rule inside it accepts; so whatever a rule
inside says of a trip holds of every trip for which the retry loop has found a mode.
-/

namespace ModeChoice

/-- A rule is the whole itself, or it stands inside a part of a conjunction. -/
inductive Constraint.Within (part : Constraint) : Constraint → Prop where
  | itself : Within part part
  | inPart {conjunction : Conjunction} {rule : Constraint} (among : rule ∈ conjunction.parts)
      (inside : Within part rule) : Within part conjunction.toConstraint

namespace Constraint.Within

variable {part whole : Constraint} {trip : Trip}

theorem acceptsMode (inside : part.Within whole) {mode : Mode} {previous : List Mode}
    (accepted : whole.acceptsMode trip mode previous = true) :
    part.acceptsMode trip mode previous = true := by
  induction inside with
  | itself => exact accepted
  | inPart among inside ih => exact ih (List.all_eq_true.1 accepted _ among)

theorem acceptsCandidate (inside : part.Within whole) {candidate : Candidate}
    {previous : List Candidate}
    (accepted : whole.acceptsCandidate trip candidate previous = true) :
    part.acceptsCandidate trip candidate previous = true := by
  induction inside with
  | itself => exact accepted
  | inPart among inside ih => exact ih (List.all_eq_true.1 accepted _ among)

end Constraint.Within

namespace ConstraintFactory

/-- For every tour the rule of one maker stands inside the rule of the other. -/
def Within (part whole : ConstraintFactory) : Prop :=
  ∀ agent trips modes, (part.create agent trips modes).Within (whole.create agent trips modes)

namespace Within

variable {part : ConstraintFactory}

theorem itself : part.Within part :=
  fun _ _ _ => .itself

theorem inPart {parts : List ConstraintFactory} {factory : ConstraintFactory}
    (among : factory ∈ parts) (inside : part.Within factory) :
    part.Within (ConjunctionFactory.mk parts).toFactory := by
  intro agent trips modes
  exact .inPart (List.mem_map_of_mem among) (inside agent trips modes)

end Within

end ConstraintFactory

namespace Model

variable {σ τ : Type} {model : Model σ τ}

/-- What the retry loop finds is the estimate of a mode, and every rule inside the
rule of the tour has accepted the mode and the estimate. -/
theorem accepted_of_foundAt {frame : TourFrame} {stage : Stage σ τ} {candidate : Candidate}
    (found : model.foundAt frame stage = some candidate) {part : Constraint}
    (inside : part.Within frame.constraint) :
    ∃ mode,
      candidate = model.estimator.estimate frame.agent mode stage.trip stage.progress.kept ∧
      part.acceptsMode stage.trip mode (stage.progress.kept.map Candidate.mode) = true ∧
      part.acceptsCandidate stage.trip candidate stage.progress.kept = true := by
  cases through : model.selects frame stage with
  | false => simp [foundAt, through] at found
  | true =>
      rw [foundAt, if_pos through] at found
      rcases (model.rounds_searchAt frame stage).acceptable_of_kept found with
        ⟨mode, _, ⟨admitted, _, approved⟩, rfl⟩
      exact ⟨mode, rfl, inside.acceptsMode admitted, inside.acceptsCandidate approved⟩

/-- A selection that succeeds without being sent back is a walk to the end. -/
theorem exists_journey_of_unreverted {desk : Desk σ τ} {agent : Agent} {trips : List Trip}
    {kept : List Candidate} (succeeded : (model.select desk agent trips).outcome = .ok kept)
    (unreverted : ¬ (model.select desk agent trips).Reverted) :
    ∃ modes walk progress,
      TourModes.ofList (model.availability.modes agent trips) = .ok modes ∧
      model.Journey (model.frameOf agent trips modes) trips (model.begin agent desk)
        (model.history desk agent trips modes) walk ∧
      walk.ending = .finished progress ∧ progress.kept = kept ∧
      (model.select desk agent trips).trips = walk.trips := by
  have course := model.selectionCourse_select desk agent trips
  revert succeeded unreverted
  generalize model.select desk agent trips = selection at course
  intro succeeded unreverted
  cases course with
  | barren nothing => cases succeeded
  | failed found journey stopped => cases succeeded
  | @reverted modes walk trip last found journey stopped =>
      rcases journey.reverted_mem_of_reversal stopped with ⟨index, told⟩
      have among : Event.reverted index ∈ (model.revert agent walk last).events := by
        simp [revert, told]
      exact absurd ⟨.reverted index, among, rfl⟩ unreverted
  | @completed modes walk progress found journey finished =>
      exact ⟨modes, walk, progress, found, journey, finished, Except.ok.inj succeeded, rfl⟩

end Model

end ModeChoice
