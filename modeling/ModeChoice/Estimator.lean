import ModeChoice.Agent.Basic
import ModeChoice.Candidate
import ModeChoice.ModeTable
import ModeChoice.Plan.Trip

/-!
# Estimators

An estimator says what a trip would be like by some mode: its utility and its
duration, given the candidates already kept for the earlier trips of the tour.
It is a function of what it is told; a mode that cannot be used gets a utility
that is not finite.
-/

namespace ModeChoice

/-- The evaluation of one trip by one mode. -/
structure Estimator where
  estimate : Agent → Mode → Trip → List Candidate → Candidate

namespace Estimator

/-- Every estimate carries the mode that was asked for. -/
def KeepsMode (estimator : Estimator) : Prop :=
  ∀ agent mode trip prior, (estimator.estimate agent mode trip prior).mode = mode

/-- Utility and duration in seconds. -/
abbrev Figures := Float × Float

/-- The same figures for every trip; a mode without figures is infeasible. -/
def constant (figures : ModeTable Figures) : Estimator where
  estimate _ mode _ _ :=
    match figures mode with
    | some (utility, duration) => Candidate.make mode utility duration
    | none => Candidate.infeasible mode

/-- How fast a mode is. -/
structure Speed where
  /-- Average speed on the network, kilometres per hour. -/
  kilometresPerHour : Float
  /-- Time on top of every trip for access, egress and waiting, seconds. -/
  accessSeconds : Float
  /-- What the mode is worth apart from time. -/
  constant : Float

/-- Figures from straight-line distances: the network is longer by a detour
factor, the duration follows from the speed of the mode, and the utility is
the constant of the mode less the value of the time spent.  A mode without a
speed, or with one that is not above zero, is infeasible. -/
def bySpeed (speeds : ModeTable Speed) (detourFactor valuePerHour : Float) : Estimator where
  estimate _ mode trip _ :=
    match speeds mode with
    | none => Candidate.infeasible mode
    | some speed =>
        if speed.kilometresPerHour ≤ 0 then Candidate.infeasible mode
        else
          let kilometres := trip.kilometres * detourFactor
          let duration := kilometres / speed.kilometresPerHour * 3600 + speed.accessSeconds
          let utility := speed.constant - valuePerHour * duration / 3600
          Candidate.make mode utility duration

/-- Speeds that are typical of a town. -/
def urbanSpeeds : ModeTable Speed
  | .car => some ⟨35, 300, 0⟩
  | .carPassenger => some ⟨35, 300, -0.6⟩
  | .publicTransport => some ⟨22, 420, -0.3⟩
  | .bike => some ⟨15, 60, -0.2⟩
  | .walk => some ⟨4.8, 0, 0.1⟩

/-- Figures from distances at speeds that are typical of a town. -/
def urban : Estimator :=
  bySpeed urbanSpeeds 1.3 2

theorem keepsMode_constant (figures : ModeTable Figures) : (constant figures).KeepsMode := by
  intro agent mode trip prior
  simp only [constant]
  split <;> simp

theorem keepsMode_bySpeed (speeds : ModeTable Speed) (detourFactor valuePerHour : Float) :
    (bySpeed speeds detourFactor valuePerHour).KeepsMode := by
  intro agent mode trip prior
  simp only [bySpeed]
  split
  · simp
  · split <;> simp

end Estimator

end ModeChoice
