import ModeChoice.Selection.Availability
import ModeChoice.Selection.Retry

/-!
# Rules that agree for a while

A rule is made once for a tour, and its maker sees all of the trips.  Of two tours
that begin in the same way the makers at hand make rules that cannot be told
apart on the common trips: the one maker that looks at the trips keeps where they
lead to, and its rule reads no further than the tour has come.

Where the verdicts are the same, the retry loop is the same.
-/

namespace ModeChoice

/-- Two rules give the same verdicts as long as fewer candidates than the bound
were kept before. -/
structure Constraint.AgreesBelow (bound : Nat) (first second : Constraint) : Prop where
  modes : ∀ (trip : Trip) (mode : Mode) (previous : List Mode), previous.length < bound →
    first.acceptsMode trip mode previous = second.acceptsMode trip mode previous
  candidates : ∀ (trip : Trip) (candidate : Candidate) (previous : List Candidate),
    previous.length < bound →
      first.acceptsCandidate trip candidate previous =
        second.acceptsCandidate trip candidate previous

/-- Tests that agree on every member agree on the list. -/
theorem all_eq_all_of_mem {α : Type} {members : List α} {first second : α → Bool}
    (same : ∀ member ∈ members, first member = second member) :
    members.all first = members.all second := by
  have verdicts := congrArg (List.all · id) (List.map_congr_left same)
  simpa [List.all_map] using verdicts

namespace Constraint.AgreesBelow

variable {bound : Nat}

theorem refl (constraint : Constraint) : constraint.AgreesBelow bound constraint :=
  ⟨fun _ _ _ _ => rfl, fun _ _ _ _ => rfl⟩

/-- Conjunctions agree when their parts do, one by one. -/
theorem conjunction {α : Type} {parts : List α} {first second : α → Constraint}
    (all : ∀ part ∈ parts, (first part).AgreesBelow bound (second part)) :
    (Conjunction.mk (parts.map first)).toConstraint.AgreesBelow bound
      (Conjunction.mk (parts.map second)).toConstraint := by
  constructor
  · intro trip mode previous early
    have same : ∀ part ∈ parts, (first part).acceptsMode trip mode previous =
        (second part).acceptsMode trip mode previous :=
      fun part among => (all part among).modes trip mode previous early
    simp only [Conjunction.toConstraint, List.all_map]
    exact all_eq_all_of_mem same
  · intro trip candidate previous early
    have same : ∀ part ∈ parts, (first part).acceptsCandidate trip candidate previous =
        (second part).acceptsCandidate trip candidate previous :=
      fun part among => (all part among).candidates trip candidate previous early
    simp only [Conjunction.toConstraint, List.all_map]
    exact all_eq_all_of_mem same

end Constraint.AgreesBelow

/-- Destinations that the vehicle has not come to yet do not matter. -/
theorem vehicleLocation_append (start : Location) {destinations : List Location}
    (more : List Location) (mode : Mode) {previous : List Mode}
    (enough : previous.length ≤ destinations.length) :
    vehicleLocation start (destinations ++ more) mode previous =
      vehicleLocation start destinations mode previous := by
  have legs : previous.zip (destinations ++ more) = previous.zip destinations := by
    induction previous generalizing destinations with
    | nil => rfl
    | cons used previous ih =>
        cases destinations with
        | nil => simp at enough
        | cons place destinations =>
            simp only [List.cons_append, List.zip_cons_cons, ih (Nat.le_of_succ_le_succ enough)]
  rw [vehicleLocation, legs, vehicleLocation]

theorem Constraint.agreesBelow_vehicleContinuity (start : Location)
    {destinations : List Location} (first second : List Location) {bound : Nat}
    (enough : bound ≤ destinations.length) :
    (Constraint.vehicleContinuity start (destinations ++ first)).AgreesBelow bound
      (Constraint.vehicleContinuity start (destinations ++ second)) := by
  constructor
  · intro trip mode previous early
    have reached : previous.length ≤ destinations.length := by omega
    simp only [vehicleContinuity, vehicleLocation_append start _ mode reached]
  · intro trip candidate previous early
    rfl

namespace ConstraintFactory

/-- The rules made for tours that begin in the same way agree on the common
trips. -/
def Unforeseeing (factory : ConstraintFactory) : Prop :=
  ∀ (agent : Agent) (modes : TourModes) (front first second : List Trip), front ≠ [] →
    (factory.create agent (front ++ first) modes).AgreesBelow front.length
      (factory.create agent (front ++ second) modes)

/-- The makers at hand: of one rule for every tour, such as the limits on
distance, duration and arrival, of vehicle continuity, and of conjunctions. -/
inductive Bundled : ConstraintFactory → Prop where
  | everyTour (constraint : Constraint) : Bundled constraint.forEveryTour
  | vehicleContinuity : Bundled .vehicleContinuity
  | conjunction {parts : List ConstraintFactory} (all : ∀ part ∈ parts, Bundled part) :
      Bundled (ConjunctionFactory.mk parts).toFactory

theorem create_vehicleContinuity (agent : Agent) (modes : TourModes) (planned : Trip)
    (front rest : List Trip) :
    ConstraintFactory.vehicleContinuity.create agent (planned :: front ++ rest) modes =
      Constraint.vehicleContinuity planned.origin.place
        ((planned :: front).map (fun trip => trip.destination.place) ++
          rest.map fun trip => trip.destination.place) := by
  rw [← List.map_append]
  rfl

theorem Bundled.unforeseeing {factory : ConstraintFactory} (bundled : factory.Bundled) :
    factory.Unforeseeing := by
  intro agent modes front first second some
  induction bundled with
  | everyTour constraint => exact .refl constraint
  | vehicleContinuity =>
      cases front with
      | nil => exact absurd rfl some
      | cons planned front =>
          rw [create_vehicleContinuity, create_vehicleContinuity]
          exact Constraint.agreesBelow_vehicleContinuity _ _ _ (by simp)
  | conjunction all ih => exact .conjunction ih

end ConstraintFactory

/-- The availabilities at hand: of one list for everybody, and of one without the
car for those who may not drive. -/
inductive Availability.Bundled : Availability → Prop where
  | fixed (modes : List Mode) : Bundled (.fixed modes)
  | byDriving (modes : List Mode) : Bundled (.byDriving modes)

/-- They look at the traveller alone. -/
theorem Availability.Bundled.modes_eq {availability : Availability}
    (bundled : availability.Bundled) (agent : Agent) (first second : List Trip) :
    availability.modes agent first = availability.modes agent second := by
  cases bundled with
  | fixed modes => rfl
  | byDriving modes => rfl

namespace Encounter

/-- The encounter under another rule. -/
def ruledBy (encounter : Encounter) (constraint : Constraint) : Encounter :=
  { encounter with constraint }

/-- The retry loop depends on the verdicts alone. -/
theorem search_ruledBy {σ : Type} (oracle : Oracle σ) (encounter : Encounter)
    (constraint : Constraint)
    (admits : ∀ mode, (encounter.ruledBy constraint).admits mode = encounter.admits mode)
    (approves : ∀ candidate,
      (encounter.ruledBy constraint).approves candidate = encounter.approves candidate)
    (left : OpenModes) (state : σ) (random : Random) :
    (encounter.ruledBy constraint).search oracle left state random =
      encounter.search oracle left state random := by
  have screened (left : OpenModes) :
      (encounter.ruledBy constraint).screening left = encounter.screening left := by
    simp only [screening, admits]
    rfl
  have tried (mode : Mode) :
      (encounter.ruledBy constraint).tryMode mode = encounter.tryMode mode := by
    simp only [tryMode, approves]
    rfl
  have retained (left : OpenModes) :
      left.retain (encounter.ruledBy constraint).admits = left.retain encounter.admits :=
    congrArg left.retain (funext admits)
  -- Both loops offer the same modes, so they take the same branch in every round.
  fun_induction encounter.search oracle left state random with
  | case1 left state random screening valid nothing =>
      rw [search, screened, retained, if_pos nothing]
      rfl
  | case2 left state random screening valid something context proposal asked failure answered =>
      have same : (oracle.propose state random ((encounter.ruledBy constraint).context
        (left.retain encounter.admits))).answer = .error failure := answered
      rw [search, screened, retained, if_neg something]
      simp only [same]
      rw [← answered]
      rfl
  | case3 left state random screening valid something context proposal asked mode answered
      offered trial passed =>
      have same : (oracle.propose state random ((encounter.ruledBy constraint).context
        (left.retain encounter.admits))).answer = .ok mode := answered
      rw [search, screened, retained, if_neg something]
      simp only [same, tried]
      rw [dif_pos offered, if_pos passed, ← answered]
      rfl
  | case4 left state random screening valid something context proposal asked mode answered
      offered trial failed ih =>
      have same : (oracle.propose state random ((encounter.ruledBy constraint).context
        (left.retain encounter.admits))).answer = .ok mode := answered
      rw [search, screened, retained, if_neg something]
      simp only [same, tried]
      rw [dif_pos offered, if_neg failed, ← ih, ← answered]
      rfl
  | case5 left state random screening valid something context proposal asked mode answered
      outside =>
      have same : (oracle.propose state random ((encounter.ruledBy constraint).context
        (left.retain encounter.admits))).answer = .ok mode := answered
      rw [search, screened, retained, if_neg something]
      simp only [same]
      rw [dif_neg outside, ← answered]
      rfl

end Encounter

end ModeChoice
