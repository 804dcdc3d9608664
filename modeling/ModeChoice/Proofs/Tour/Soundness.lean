import Mathlib.Control.Monad.Basic
import ModeChoice.Proofs.Retry.Feasibility
import ModeChoice.Proofs.Tour.Stages

/-!
# Why a candidate is kept

Every candidate of a tour that was not sent back is there for one of three
reasons: the retry loop found it, or the filter left its trip out, or the retry
loop found nothing and the policy is to keep the initial mode then.  Each reason
is about the trip with its departure set and the candidates that the tour has in
the end for the earlier trips.
-/

namespace ModeChoice

/-- The event that a trip without a mode sends the tour back. -/
def Event.isReversal : Event → Bool
  | .reverted _ => true
  | _ => false

/-- A trip without a mode has sent the tour back to its initial modes. -/
def Selection.Reverted {σ τ : Type} (selection : Selection σ τ) : Prop :=
  ∃ event ∈ selection.events, event.isReversal = true

instance {σ τ : Type} (selection : Selection σ τ) : Decidable selection.Reverted :=
  inferInstanceAs (Decidable (∃ event ∈ selection.events, event.isReversal = true))

namespace Model

variable {σ τ : Type} (model : Model σ τ) (frame : TourFrame)

/-- The reasons for a candidate at a stage. -/
inductive Justifies (stage : Stage σ τ) (candidate : Candidate) : Prop where
  /-- The trip was selected, and a mode of the tour passed both halves of the
  constraint with a finite utility. -/
  | chosen {mode : Mode}
      (through : model.filter.applies frame.agent stage.trip = true)
      (among : mode ∈ frame.modes.modes)
      (admitted : frame.constraint.acceptsMode stage.trip mode
        (stage.progress.kept.map Candidate.mode) = true)
      (estimated : candidate =
        model.estimator.estimate frame.agent mode stage.trip stage.progress.kept)
      (finite : candidate.utility.isFinite = true)
      (approved : frame.constraint.acceptsCandidate stage.trip candidate
        stage.progress.kept = true)
  /-- The filter left the trip out. -/
  | leftOut
      (out : model.filter.applies frame.agent stage.trip = false)
      (estimated : candidate = model.estimator.estimate frame.agent
        stage.planned.initialMode stage.trip stage.progress.kept)
  /-- The retry loop found nothing, and the policy is to keep the initial mode. -/
  | fellBack
      (policy : model.fallback = .initialChoice)
      (unfound : (model.searchAt frame stage).kept = none)
      (estimated : candidate = model.estimator.estimate frame.agent
        stage.planned.initialMode stage.trip stage.progress.kept)

variable {model frame}

theorem justifies_of_keptAt {stage : Stage σ τ} {candidate : Candidate}
    (kept : model.keptAt frame stage = some candidate) :
    model.Justifies frame stage candidate := by
  cases through : model.selects frame stage with
  | false =>
      rw [keptAt_of_out through] at kept
      exact .leftOut through (Option.some.inj kept).symm
  | true =>
      cases found : (model.searchAt frame stage).kept with
      | some chosen =>
          rw [keptAt_of_found through found] at kept
          have rounds := (model.encounterAt frame stage).rounds_search model.oracle
            frame.modes.candidates stage.progress.desk.oracle stage.progress.random
          rcases rounds.acceptable_of_kept (found.trans kept) with
            ⟨mode, among, ⟨admitted, feasible, approved⟩, same⟩
          subst same
          exact .chosen through among admitted rfl feasible approved
      | none =>
          rw [keptAt_of_stuck ⟨through, found⟩] at kept
          split at kept
          · rename_i policy
            exact .fellBack policy found (Option.some.inj kept).symm
          · cases kept

/-- Whatever the collaborators are, a tour that succeeds without being sent back
has one candidate for every trip, and each is there for one of the three
reasons.  The reasons hold of the trips as they are in the end, and of the
candidates that the earlier trips have in the end. -/
theorem select_keeps_justified (model : Model σ τ) (desk : Desk σ τ) (agent : Agent)
    (trips : List Trip) {kept : List Candidate}
    (succeeded : (model.select desk agent trips).outcome = .ok kept)
    (unreverted : ¬ (model.select desk agent trips).Reverted) :
    ∃ modes, TourModes.ofList (model.availability.modes agent trips) = .ok modes ∧
      kept.length = trips.length ∧
      ∀ place candidate, kept[place]? = some candidate →
        ∃ stage, (model.history desk agent trips modes)[place]? = some stage ∧
          trips[place]? = some stage.planned ∧
          (model.select desk agent trips).trips[place]? = some stage.trip ∧
          stage.progress.kept = kept.take place ∧
          model.Justifies (model.frameOf agent trips modes) stage candidate := by
  have course := model.selectionCourse_select desk agent trips
  -- The course can be taken apart once the selection is a variable.
  revert succeeded unreverted
  generalize model.select desk agent trips = selection at course
  intro succeeded unreverted
  cases course with
  | barren nothing => cases succeeded
  | failed found journey stopped => cases succeeded
  | @reverted modes walk trip last found journey stopped =>
      rcases journey.reverted_mem_of_reversal stopped with ⟨index, told⟩
      have among : Event.reverted index ∈ (model.revert agent walk last).events := by
        simp [revert, told]
      exact absurd ⟨.reverted index, among, rfl⟩ unreverted
  | @completed modes walk progress found journey finished =>
      have same : progress.kept = kept := Except.ok.inj succeeded
      subst same
      refine ⟨modes, found, journey.length_kept rfl finished, ?_⟩
      intro place candidate there
      rcases journey.stage_of_kept rfl finished there with ⟨stage, here, keeps, prior⟩
      exact ⟨stage, here, journey.planned_getElem? here, journey.trip_getElem? here, prior,
        justifies_of_keptAt keeps⟩

/-- A model that refuses the car always, and everything on the trip with index
five. -/
def strict (fallback : Fallback) : Model Unit Unit where
  oracle := Oracle.ofOrder Mode.all
  estimator := Estimator.constant fun _ => some (1, 600)
  availability := Availability.fixed [.car, .walk, .car]
  constraints := (Constraint.refusingCandidates fun trip mode =>
    trip.index == 5 || mode == .car).forEveryTour
  filter := TripFilter.everyTrip
  fallback
  interpretation := .endTimeOnly
  auditor := Auditor.silent
  seed := 0

/-- The selection of two errands, of which the second one gets no mode. -/
def strictSelection (fallback : Fallback) : Selection Unit Unit :=
  (strict fallback).select (Desk.fresh () ()) (Agent.bare ⟨7⟩) [errand 2 .bike, errand 5 .car]

/-- The first errand keeps what the retry loop finds in its second round, and
the second one falls back. -/
theorem strict_justifies_fallback :
    (strictSelection .initialChoice).outcome =
        .ok [Candidate.make .walk 1 600, Candidate.make .car 1 600] ∧
      ¬ (strictSelection .initialChoice).Reverted ∧
      ∃ modes stage,
        ((strict .initialChoice).history (Desk.fresh () ()) (Agent.bare ⟨7⟩)
          [errand 2 .bike, errand 5 .car] modes)[1]? = some stage ∧
        stage.progress.kept = [Candidate.make .walk 1 600] ∧
        (strict .initialChoice).Justifies
          ((strict .initialChoice).frameOf (Agent.bare ⟨7⟩)
            [errand 2 .bike, errand 5 .car] modes)
          stage (Candidate.make .car 1 600) := by
  have succeeded : (strictSelection .initialChoice).outcome =
      .ok [Candidate.make .walk 1 600, Candidate.make .car 1 600] := by
    decide +kernel
  have unreverted : ¬ (strictSelection .initialChoice).Reverted := by
    decide +kernel
  refine ⟨succeeded, unreverted, ?_⟩
  rcases select_keeps_justified (strict .initialChoice) (Desk.fresh () ()) (Agent.bare ⟨7⟩)
    [errand 2 .bike, errand 5 .car] succeeded unreverted with ⟨modes, _, _, each⟩
  rcases each 1 (Candidate.make .car 1 600) rfl with ⟨stage, there, _, _, prior, reason⟩
  exact ⟨modes, stage, there, prior, reason⟩

end Model

end ModeChoice
