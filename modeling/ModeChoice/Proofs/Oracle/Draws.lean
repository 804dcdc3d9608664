import ModeChoice.Proofs.Oracle.Contract

/-!
# What a logit oracle draws

The feasible mode with the largest utility weighs one: its utility differs from the largest
by zero, a finite scale leaves the zero a zero, and the exponential of that is one.  So
where a mode is feasible the draw has somewhere to end.  Differences of utilities, weights
and their sum may leave the range of doubles on the way, and the number that runs down may
cease to be one; then the draw passes over modes that it should have stopped at, but it
stops nowhere without weight, and an infeasible mode has none.

Of the exponential no more is used than that it is one at both zeros.  Nothing is said
about how often a mode is drawn.
-/

namespace ModeChoice

/-! ## Zeros -/

namespace Number

open Float.Model

/-- A finite double less itself is zero, and not a zero below zero. -/
theorem sub_self {x : Float} (finite : x.isFinite = true) : x - x = 0 := by
  have difference : UnpackedFloat.sub Format.binary64 x.toModel.unpack x.toModel.unpack =
      .zero .positive := by
    change x.toModel.unpack.isFinite = true at finite
    cases unpacked : x.toModel.unpack with
    | notANumber | infinity => rw [unpacked] at finite; cases finite
    | zero sign => cases sign <;> rfl
    | finite sign significand exponent positive =>
        simp only [UnpackedFloat.sub, Int.sub_self]
        rfl
  change Float.ofModel (.pack (UnpackedFloat.sub _ x.toModel.unpack x.toModel.unpack)) = 0
  rw [difference]
  rfl

/-- A finite double times zero is a zero. -/
theorem mul_zero {x : Float} (finite : x.isFinite = true) : (x * 0 == 0) = true := by
  have product : ∃ sign, UnpackedFloat.mul Format.binary64 x.toModel.unpack
      (0 : Float).toModel.unpack = .zero sign := by
    change x.toModel.unpack.isFinite = true at finite
    cases unpacked : x.toModel.unpack with
    | notANumber | infinity => rw [unpacked] at finite; cases finite
    | zero | finite => exact ⟨_, rfl⟩
  rcases product with ⟨sign, product⟩
  change (Float.ofModel (.pack (UnpackedFloat.mul _ _ (0 : Float).toModel.unpack)) == 0) = true
  rw [product]
  cases sign <;> rfl

theorem negativeInfinity_lt {x : Float} (finite : x.isFinite = true) : negativeInfinity < x := by
  change x.toModel.unpack.isFinite = true at finite
  have lowest : negativeInfinity.toModel.unpack = .infinity .negative := rfl
  rw [lt_iff, lowest]
  cases unpacked : x.toModel.unpack with
  | notANumber | infinity => rw [unpacked] at finite; cases finite
  | zero | finite => rfl

/-! ## The largest of several -/

theorem larger_eq_or (first second : Float) :
    larger first second = first ∨ larger first second = second := by
  unfold larger
  split
  · exact .inr rfl
  · split
    · exact .inr rfl
    · exact .inl rfl

theorem foldl_larger_mem (values : List Float) (start : Float) :
    values.foldl larger start ∈ start :: values := by
  induction values generalizing start with
  | nil => exact List.mem_singleton_self start
  | cons first rest ih =>
      rw [List.foldl_cons]
      rcases List.mem_cons.1 (ih (larger start first)) with here | later
      · rw [here]
        rcases larger_eq_or start first with same | same <;> simp [same]
      · exact List.mem_cons_of_mem _ (List.mem_cons_of_mem _ later)

theorem le_foldl_larger {values : List Float} {start : Float}
    (numbers : ∀ x ∈ start :: values, x.isNaN = false) :
    ∀ x ∈ start :: values, x ≤ values.foldl larger start := by
  induction values generalizing start with
  | nil =>
      intro x among
      cases List.mem_singleton.1 among
      exact le_refl (numbers start among)
  | cons first rest ih =>
      rcases List.forall_mem_cons.1 numbers with ⟨number, others⟩
      rcases List.forall_mem_cons.1 others with ⟨number', rest_numbers⟩
      have above := le_larger first number
      have above' := le_larger_right number number'
      have next : ∀ x ∈ larger start first :: rest, x ≤ rest.foldl larger (larger start first) :=
        ih (List.forall_mem_cons.2 ⟨isNaN_eq_false_of_le above, rest_numbers⟩)
      rcases List.forall_mem_cons.1 next with ⟨reached, further⟩
      exact List.forall_mem_cons.2 ⟨le_trans above reached,
        List.forall_mem_cons.2 ⟨le_trans above' reached, further⟩⟩

end Number

namespace LogitRules

variable {rules : LogitRules} {candidates : List Candidate}

/-- The largest utility is that of a feasible candidate, if there is one. -/
theorem exists_best (usable : ∃ candidate ∈ candidates, candidate.isFeasible = true) :
    ∃ best ∈ candidates, best.isFeasible = true ∧ best.utility = bestUtility candidates ∧
      ∀ candidate ∈ candidates, candidate.isFeasible = true →
        candidate.utility ≤ best.utility := by
  let utilities := (candidates.filter Candidate.isFeasible).map Candidate.utility
  have listed {candidate : Candidate} (among : candidate ∈ candidates)
      (feasible : candidate.isFeasible = true) : candidate.utility ∈ utilities :=
    List.mem_map_of_mem (List.mem_filter.2 ⟨among, feasible⟩)
  have numbers : ∀ x ∈ Number.negativeInfinity :: utilities, x.isNaN = false := by
    refine List.forall_mem_cons.2 ⟨rfl, fun x among => ?_⟩
    rcases List.mem_map.1 among with ⟨candidate, kept, rfl⟩
    exact Number.isNaN_eq_false_of_isFinite (List.mem_filter.1 kept).2
  have largest := Number.le_foldl_larger numbers
  rcases List.mem_cons.1 (Number.foldl_larger_mem utilities Number.negativeInfinity) with
    lowest | reached
  · -- A feasible utility is above the start.
    rcases usable with ⟨candidate, among, feasible⟩
    have below := largest _ (List.mem_cons_of_mem _ (listed among feasible))
    rw [lowest] at below
    exact absurd below (Number.not_le_of_lt (Number.negativeInfinity_lt feasible))
  · rcases List.mem_map.1 reached with ⟨best, kept, same⟩
    rcases List.mem_filter.1 kept with ⟨among, feasible⟩
    refine ⟨best, among, feasible, same, ?_⟩
    intro candidate among feasible
    rw [same]
    exact largest _ (List.mem_cons_of_mem _ (listed among feasible))

theorem isFinite_bestUtility_iff :
    (bestUtility candidates).isFinite = true ↔
      ∃ candidate ∈ candidates, candidate.isFeasible = true := by
  constructor
  · intro finite
    by_contra useless
    have nothing : candidates.filter Candidate.isFeasible = [] := by
      rw [List.filter_eq_nil_iff]
      intro candidate among feasible
      exact useless ⟨candidate, among, feasible⟩
    rw [bestUtility, nothing] at finite
    cases finite
  · intro usable
    rcases exists_best usable with ⟨best, _, feasible, same, _⟩
    rw [← same]
    exact feasible

theorem isFeasible_of_weight {best : Float} {candidate : Candidate}
    (heavy : 0 < rules.weight best candidate) : candidate.isFeasible = true := by
  by_contra infeasible
  rw [weight, if_neg infeasible] at heavy
  exact absurd heavy (by decide)

/-- The exponential is one at both zeros. -/
def OneAtZero (rules : LogitRules) : Prop :=
  ∀ x : Float, (x == 0) = true → rules.exponential x = 1

/-- With the largest utility a candidate weighs one. -/
theorem weight_of_best (one : rules.OneAtZero) (finite : rules.scale.isFinite = true)
    {candidate : Candidate} (feasible : candidate.isFeasible = true) :
    rules.weight candidate.utility candidate = 1 := by
  rw [weight, if_pos feasible, Number.sub_self feasible]
  exact one _ (Number.mul_zero finite)

theorem exists_sample {unit : Float}
    (heavy : ∃ candidate ∈ candidates, 0 < rules.weight (bestUtility candidates) candidate) :
    ∃ mode, rules.sample candidates unit = some mode := by
  rcases heavy with ⟨candidate, among, positive⟩
  have last : lastWeighty (candidates.map fun candidate =>
      (candidate, rules.weight (bestUtility candidates) candidate)) ≠ none := by
    rw [lastWeighty, Ne, Option.map_eq_none_iff, List.find?_eq_none]
    intro weightless
    apply weightless _ (List.mem_reverse.2 (List.mem_map_of_mem among))
    exact decide_eq_true positive
  rw [← Option.ne_none_iff_exists']
  intro nothing
  exact last (Option.or_eq_none_iff.1 nothing).2

end LogitRules

/-- The estimate of the trip by one mode. -/
def TripContext.estimate (context : TripContext) (mode : Mode) : Candidate :=
  context.estimator.estimate context.agent mode context.trip context.prior

theorem TripContext.mem_estimates {context : TripContext} {candidate : Candidate} :
    candidate ∈ context.estimates ↔
      ∃ mode ∈ context.validModes.modes, context.estimate mode = candidate :=
  List.mem_map

namespace LogitRules

variable {rules : LogitRules} {random : Random} {context : TripContext}

/-- What a logit oracle makes of a trip for which some mode is open. -/
structure DrawsUsable (rules : LogitRules) (random : Random) (context : TripContext)
    (proposal : Proposal Unit) : Prop where
  /-- Where some open mode is feasible, the one that is proposed is, and has a weight; one
  number has been drawn for it. -/
  usable : (∃ mode ∈ context.validModes.modes, (context.estimate mode).isFeasible = true) →
    ∃ mode ∈ context.validModes.modes, proposal.answer = .ok mode ∧
      (context.estimate mode).isFeasible = true ∧
      0 < rules.weight (bestUtility context.estimates) (context.estimate mode) ∧
      proposal.random = random.unit.2
  /-- Among the weights there is the one of the best mode, and it is one. -/
  weighty : (∃ mode ∈ context.validModes.modes, (context.estimate mode).isFeasible = true) →
    ∃ best ∈ context.validModes.modes,
      rules.weight (bestUtility context.estimates) (context.estimate best) = 1 ∧
      ∀ mode ∈ context.validModes.modes, (context.estimate mode).isFeasible = true →
        (context.estimate mode).utility ≤ (context.estimate best).utility
  /-- Where no open mode is feasible, the first one is proposed, and no number is drawn. -/
  useless : (∀ mode ∈ context.validModes.modes, (context.estimate mode).isFeasible = false) →
    ∃ first, context.validModes.modes.head? = some first ∧ proposal.answer = .ok first ∧
      proposal.random = random

theorem exists_feasible_iff :
    (∃ candidate ∈ context.estimates, candidate.isFeasible = true) ↔
      ∃ mode ∈ context.validModes.modes, (context.estimate mode).isFeasible = true := by
  simp [TripContext.mem_estimates]

theorem propose_of_usable {first : Mode} (foremost : context.validModes.modes.head? = some first)
    (usable : ∃ mode ∈ context.validModes.modes, (context.estimate mode).isFeasible = true)
    (state : Unit) (random : Random) :
    rules.oracle.propose state random context =
      { answer := .ok ((rules.sample context.estimates random.unit.1).getD first), state
        random := random.unit.2, log := [] } := by
  have finite := isFinite_bestUtility_iff.2 (exists_feasible_iff.2 usable)
  simp only [oracle, OpenModes.first?, foremost, finite, if_true]

theorem propose_of_useless {first : Mode}
    (foremost : context.validModes.modes.head? = some first)
    (useless : ∀ mode ∈ context.validModes.modes, (context.estimate mode).isFeasible = false)
    (state : Unit) (random : Random) :
    rules.oracle.propose state random context =
      { answer := .ok first, state, random, log := [] } := by
  have endless : ¬ (bestUtility context.estimates).isFinite = true := by
    rw [isFinite_bestUtility_iff, exists_feasible_iff]
    rintro ⟨mode, offered, feasible⟩
    rw [useless mode offered] at feasible
    cases feasible
  simp only [oracle, OpenModes.first?, foremost]
  rw [if_neg endless]

theorem exists_weighty (one : rules.OneAtZero) (finite : rules.scale.isFinite = true)
    (usable : ∃ mode ∈ context.validModes.modes, (context.estimate mode).isFeasible = true) :
    ∃ best ∈ context.validModes.modes,
      rules.weight (bestUtility context.estimates) (context.estimate best) = 1 ∧
      ∀ mode ∈ context.validModes.modes, (context.estimate mode).isFeasible = true →
        (context.estimate mode).utility ≤ (context.estimate best).utility := by
  rcases exists_best (exists_feasible_iff.2 usable) with ⟨_, among, feasible, same, largest⟩
  rcases TripContext.mem_estimates.1 among with ⟨best, offered, rfl⟩
  refine ⟨best, offered, ?_, ?_⟩
  · rw [← same]
    exact weight_of_best one finite feasible
  · intro mode offered
    exact largest _ (TripContext.mem_estimates.2 ⟨mode, offered, rfl⟩)

/-- A logit oracle with a finite scale never proposes an infeasible mode while a feasible one
is open, whatever number is drawn. -/
theorem propose_draws_usable (rules : LogitRules) (finite : rules.scale.isFinite = true)
    (one : rules.OneAtZero) (state : Unit) (random : Random) (context : TripContext)
    (keeps : context.estimator.KeepsMode) (something : context.validModes.modes ≠ []) :
    rules.DrawsUsable random context (rules.oracle.propose state random context) := by
  rcases Option.ne_none_iff_exists'.1 (mt List.head?_eq_none_iff.1 something) with
    ⟨first, foremost⟩
  constructor
  · intro usable
    rcases exists_weighty one finite usable with ⟨best, offered, weight, _⟩
    have heavy : 0 < rules.weight (bestUtility context.estimates) (context.estimate best) := by
      rw [weight]
      decide
    have sampled : ∃ mode, rules.sample context.estimates random.unit.1 = some mode :=
      exists_sample ⟨_, TripContext.mem_estimates.2 ⟨best, offered, rfl⟩, heavy⟩
    rcases sampled with ⟨mode, sampled⟩
    rcases mem_of_sample sampled with ⟨_, among, same, positive⟩
    rcases TripContext.mem_estimates.1 among with ⟨proposed, offered, rfl⟩
    -- The candidate with the weight is the estimate of the mode that is proposed.
    have kept : (context.estimate proposed).mode = proposed := keeps ..
    rw [kept] at same
    subst same
    rw [propose_of_usable foremost usable, sampled]
    exact ⟨proposed, offered, rfl, isFeasible_of_weight positive, positive, rfl⟩
  · exact exists_weighty one finite
  · intro useless
    rw [propose_of_useless foremost useless]
    exact ⟨first, foremost, rfl, rfl⟩

/-- A rough exponential, which is right at zero, at both infinities and at what is no
number. -/
def coarseExponential (x : Float) : Float :=
  if x == 0 then 1 else if x < 0 then 0 else if 0 < x then Number.infinity else x

/-- An errand by car, bike or walk, where the car is infeasible and the utilities of the
others are so far apart that their difference is infinite. -/
def unevenChoice : TripContext where
  agent := Agent.bare ⟨7⟩
  trip := errand 2 .bike
  validModes := ⟨[.car, .bike, .walk], by decide⟩
  prior := []
  estimator := Estimator.constant fun
    | .bike => some (-1.7e308, 900)
    | .walk => some (1.7e308, 1800)
    | _ => none

/-- With a scale below zero the worse mode has an infinite weight, and the number that runs
down is lost on it; the draw comes to the better mode all the same. -/
theorem contrary_proposes_walk :
    let rules : LogitRules := ⟨-1, coarseExponential⟩
    let draws := Random.forAgent 0 ⟨7⟩
    rules.weight (bestUtility unevenChoice.estimates) (unevenChoice.estimate .bike) =
        Number.infinity ∧
      (rules.oracle.propose () draws unevenChoice).answer = .ok .walk ∧
      rules.DrawsUsable draws unevenChoice (rules.oracle.propose () draws unevenChoice) := by
  intro rules draws
  have one : rules.OneAtZero := by
    intro x zero
    exact if_pos zero
  have keeps : unevenChoice.estimator.KeepsMode := Estimator.keepsMode_constant _
  refine ⟨by decide +kernel, by decide +kernel, ?_⟩
  exact propose_draws_usable rules (by decide) one () draws unevenChoice keeps (by decide)

end LogitRules

end ModeChoice
