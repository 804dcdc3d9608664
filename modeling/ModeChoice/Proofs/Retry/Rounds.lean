import ModeChoice.Selection.Retry

/-!
# The rounds of the retry loop

The retry loop calls itself with fewer and fewer modes.  `Encounter.Rounds`
tells the same story without the recursion: a round finds nothing to offer, or
gets no answer that it can use, or ends with an accepted mode, or rejects a mode
and leaves the rest to the next round.  `rounds_search` says that the loop is an
instance, so that what holds of the loop is proved by induction on rounds.

The second half states what the events of a trip say: they repeat what the
oracle, the estimator and the constraint were shown and what they answered.
-/

namespace ModeChoice

/-! ## Questions to the oracle -/

/-- A question to the oracle with its answer. -/
structure Question where
  context : TripContext
  answer : Except OracleError Mode

namespace Question

/-- The modes that the oracle was offered. -/
def offered (question : Question) : List Mode :=
  question.context.validModes.modes

/-- The mode that the answer proposes, if it is one of those on offer. -/
def proposed? (question : Question) : Option Mode :=
  match question.answer with
  | .ok mode => if mode ∈ question.offered then some mode else none
  | .error _ => none

theorem proposed?_eq_some_iff {question : Question} {mode : Mode} :
    question.proposed? = some mode ↔
      question.answer = .ok mode ∧ mode ∈ question.offered := by
  unfold proposed?
  split
  · rename_i named answered
    simp only [answered, Except.ok.injEq]
    split
    · rename_i offered
      simp only [Option.some.injEq]
      constructor
      · rintro rfl
        exact ⟨rfl, offered⟩
      · exact fun both => both.1
    · rename_i outside
      simp only [reduceCtorEq, false_iff, not_and]
      rintro rfl
      exact outside
  · rename_i failure answered
    simp [answered]

/-- An answer is of no use when it is an error or names a mode that was not on
offer. -/
theorem proposed?_eq_none_iff {question : Question} :
    question.proposed? = none ↔
      ∀ mode, question.answer = .ok mode → mode ∉ question.offered := by
  constructor
  · intro useless mode answered offered
    have useful := proposed?_eq_some_iff.2 ⟨answered, offered⟩
    simp [useless] at useful
  · intro outside
    cases proposes : question.proposed? with
    | none => rfl
    | some mode =>
        rcases proposed?_eq_some_iff.1 proposes with ⟨answered, offered⟩
        exact absurd offered (outside mode answered)

end Question

namespace Event

/-- The question that was put to the oracle. -/
def question? : Event → Option Question
  | .asked context answer _ => some ⟨context, answer⟩
  | _ => none

/-- The mode that was estimated. -/
def estimatedMode? : Event → Option Mode
  | .estimated _ mode _ _ => some mode
  | _ => none

end Event

/-- The questions to the oracle, in order. -/
def questionsOf (events : List Event) : List Question :=
  events.filterMap Event.question?

/-- The modes that were estimated, in order. -/
def estimatedModesOf (events : List Event) : List Mode :=
  events.filterMap Event.estimatedMode?

@[simp]
theorem questionsOf_append (first second : List Event) :
    questionsOf (first ++ second) = questionsOf first ++ questionsOf second :=
  List.filterMap_append

@[simp]
theorem estimatedModesOf_append (first second : List Event) :
    estimatedModesOf (first ++ second) = estimatedModesOf first ++ estimatedModesOf second :=
  List.filterMap_append

@[simp]
theorem Search.events_exhausted {σ : Type} (state : σ) (random : Random)
    (events : List Event) :
    (Search.exhausted state random events).events = events := rfl

@[simp]
theorem Search.events_after {σ : Type} (search : Search σ) (candidate : Candidate)
    (events : List Event) :
    (search.after candidate events).events = events ++ search.events := rfl

namespace Encounter

variable {σ : Type} (encounter : Encounter) (oracle : Oracle σ)

/-! ## One round -/

/-- A mode will do for the trip: the constraint admits it, its utility is
finite, and the constraint approves of its estimate. -/
def Acceptable (mode : Mode) : Prop :=
  encounter.admits mode = true ∧ (encounter.estimate mode).isFeasible = true ∧
    encounter.approves (encounter.estimate mode) = true

instance (mode : Mode) : Decidable (encounter.Acceptable mode) :=
  inferInstanceAs (Decidable (_ ∧ _ ∧ _))

/-- The modes on offer in a round that begins with the modes `left`. -/
def offer (left : OpenModes) : OpenModes :=
  left.retain encounter.admits

/-- What the oracle proposes in a round. -/
def proposal (left : OpenModes) (state : σ) (random : Random) : Proposal σ :=
  oracle.propose state random (encounter.context (encounter.offer left))

/-- The question of a round. -/
def question (left : OpenModes) (state : σ) (random : Random) : Question :=
  ⟨encounter.context (encounter.offer left), (encounter.proposal oracle left state random).answer⟩

/-- The events of a round up to the oracle's answer. -/
def asking (left : OpenModes) (state : σ) (random : Random) : List Event :=
  encounter.screening left ++
    [encounter.enter .awaitingRecommendation,
      .asked (encounter.context (encounter.offer left))
        (encounter.proposal oracle left state random).answer
        (encounter.proposal oracle left state random).log]

@[simp]
theorem modes_offer (left : OpenModes) :
    (encounter.offer left).modes = left.modes.filter encounter.admits := rfl

@[simp]
theorem offered_question (left : OpenModes) (state : σ) (random : Random) :
    (encounter.question oracle left state random).offered = (encounter.offer left).modes := rfl

theorem tryMode_of_feasible {mode : Mode}
    (feasible : (encounter.estimate mode).isFeasible = true) :
    encounter.tryMode mode =
      { candidate := encounter.estimate mode
        accepted := encounter.approves (encounter.estimate mode)
        events :=
          [encounter.enter .validating,
            .estimated encounter.trip mode encounter.prior (encounter.estimate mode),
            .judged encounter.trip (encounter.estimate mode) encounter.prior
              (encounter.approves (encounter.estimate mode)),
            encounter.enter
              (if encounter.approves (encounter.estimate mode) then .accepted else .retry)] } := by
  simp [tryMode, feasible]

theorem tryMode_of_infeasible {mode : Mode}
    (infeasible : (encounter.estimate mode).isFeasible = false) :
    encounter.tryMode mode =
      { candidate := encounter.estimate mode
        accepted := false
        events :=
          [encounter.enter .validating,
            .estimated encounter.trip mode encounter.prior (encounter.estimate mode),
            .illegalUtility encounter.trip.index mode (encounter.estimate mode).utility,
            encounter.enter .retry] } := by
  simp [tryMode, infeasible]

@[simp]
theorem candidate_tryMode (mode : Mode) :
    (encounter.tryMode mode).candidate = encounter.estimate mode := by
  cases feasible : (encounter.estimate mode).isFeasible with
  | true => rw [tryMode_of_feasible encounter feasible]
  | false => rw [tryMode_of_infeasible encounter feasible]

theorem accepted_tryMode_iff (mode : Mode) :
    (encounter.tryMode mode).accepted = true ↔
      (encounter.estimate mode).isFeasible = true ∧
        encounter.approves (encounter.estimate mode) = true := by
  cases feasible : (encounter.estimate mode).isFeasible with
  | true => simp [tryMode_of_feasible encounter feasible]
  | false => simp [tryMode_of_infeasible encounter feasible]

variable {encounter oracle} in
theorem mem_offer_of_proposed {left : OpenModes} {state : σ} {random : Random} {mode : Mode}
    (proposed : (encounter.question oracle left state random).proposed? = some mode) :
    mode ∈ (encounter.offer left).modes :=
  (Question.proposed?_eq_some_iff.1 proposed).2

/-- Once a mode is on offer, the trial decides whether it will do. -/
theorem acceptable_iff_accepted {left : OpenModes} {mode : Mode}
    (offered : mode ∈ (encounter.offer left).modes) :
    encounter.Acceptable mode ↔ (encounter.tryMode mode).accepted = true := by
  have admitted : encounter.admits mode = true := (List.mem_filter.1 offered).2
  simp [Acceptable, accepted_tryMode_iff, admitted]

variable {encounter oracle} in
/-- A mode that is rejected in its round will not do. -/
theorem not_acceptable_of_failed {left : OpenModes} {state : σ} {random : Random} {mode : Mode}
    (proposed : (encounter.question oracle left state random).proposed? = some mode)
    (failed : (encounter.tryMode mode).accepted = false) :
    ¬ encounter.Acceptable mode := by
  rw [encounter.acceptable_iff_accepted (mem_offer_of_proposed proposed), failed]
  exact Bool.false_ne_true

@[simp]
theorem questionsOf_screening (left : OpenModes) :
    questionsOf (encounter.screening left) = [] := by
  simp [questionsOf, screening, Event.question?]

@[simp]
theorem estimatedModesOf_screening (left : OpenModes) :
    estimatedModesOf (encounter.screening left) = [] := by
  simp [estimatedModesOf, screening, Event.estimatedMode?]

@[simp]
theorem questionsOf_asking (left : OpenModes) (state : σ) (random : Random) :
    questionsOf (encounter.asking oracle left state random) =
      [encounter.question oracle left state random] := by
  simp only [asking, questionsOf_append, questionsOf_screening, List.nil_append]
  rfl

@[simp]
theorem estimatedModesOf_asking (left : OpenModes) (state : σ) (random : Random) :
    estimatedModesOf (encounter.asking oracle left state random) = [] := by
  simp only [asking, estimatedModesOf_append, estimatedModesOf_screening, List.nil_append]
  rfl

@[simp]
theorem questionsOf_tryMode (mode : Mode) :
    questionsOf (encounter.tryMode mode).events = [] := by
  cases feasible : (encounter.estimate mode).isFeasible with
  | true => rw [tryMode_of_feasible encounter feasible]; rfl
  | false => rw [tryMode_of_infeasible encounter feasible]; rfl

@[simp]
theorem estimatedModesOf_tryMode (mode : Mode) :
    estimatedModesOf (encounter.tryMode mode).events = [mode] := by
  cases feasible : (encounter.estimate mode).isFeasible with
  | true => rw [tryMode_of_feasible encounter feasible]; rfl
  | false => rw [tryMode_of_infeasible encounter feasible]; rfl

theorem estimated_mem_tryMode (mode : Mode) :
    .estimated encounter.trip mode encounter.prior (encounter.estimate mode) ∈
      (encounter.tryMode mode).events := by
  cases feasible : (encounter.estimate mode).isFeasible with
  | true => simp [tryMode_of_feasible encounter feasible]
  | false => simp [tryMode_of_infeasible encounter feasible]

/-- A round that goes on has asked one question before those of the rest. -/
theorem questionsOf_round (left : OpenModes) (state : σ) (random : Random) (mode : Mode)
    (rest : Search σ) :
    questionsOf (rest.after (encounter.estimate mode)
      (encounter.asking oracle left state random ++ (encounter.tryMode mode).events)).events =
        encounter.question oracle left state random :: questionsOf rest.events := by
  simp

@[simp]
theorem questionsOf_enter (state : TripState) :
    questionsOf [encounter.enter state] = [] := rfl

@[simp]
theorem estimatedModesOf_enter (state : TripState) :
    estimatedModesOf [encounter.enter state] = [] := rfl

/-! ## All rounds -/

/-- What the rounds that begin with the modes `left` come to. -/
inductive Rounds : OpenModes → σ → Random → Search σ → Prop where
  /-- The constraint admits none of the modes that are left. -/
  | emptied {left : OpenModes} {state : σ} {random : Random}
      (nothing : (encounter.offer left).modes = []) :
      Rounds left state random
        (.exhausted state random
          (encounter.screening left ++ [encounter.enter .exhausted]))
  /-- The oracle fails, or proposes a mode that it was not offered. -/
  | unanswered {left : OpenModes} {state : σ} {random : Random}
      (something : (encounter.offer left).modes ≠ [])
      (useless : (encounter.question oracle left state random).proposed? = none) :
      Rounds left state random
        (.exhausted (encounter.proposal oracle left state random).state
          (encounter.proposal oracle left state random).random
          (encounter.asking oracle left state random ++ [encounter.enter .exhausted]))
  /-- The proposed mode is accepted. -/
  | accepted {left : OpenModes} {state : σ} {random : Random} {mode : Mode}
      (proposed : (encounter.question oracle left state random).proposed? = some mode)
      (passed : (encounter.tryMode mode).accepted = true) :
      Rounds left state random
        { kept := some (encounter.estimate mode)
          evaluated := [encounter.estimate mode]
          state := (encounter.proposal oracle left state random).state
          random := (encounter.proposal oracle left state random).random
          events := encounter.asking oracle left state random ++
            (encounter.tryMode mode).events }
  /-- The proposed mode is rejected, and the next round begins without it. -/
  | rejected {left : OpenModes} {state : σ} {random : Random} {mode : Mode} {rest : Search σ}
      (proposed : (encounter.question oracle left state random).proposed? = some mode)
      (failed : (encounter.tryMode mode).accepted = false)
      (tail : Rounds ((encounter.offer left).without mode)
        (encounter.proposal oracle left state random).state
        (encounter.proposal oracle left state random).random rest) :
      Rounds left state random
        (rest.after (encounter.estimate mode)
          (encounter.asking oracle left state random ++ (encounter.tryMode mode).events))

/-- The retry loop goes round by round. -/
theorem rounds_search (left : OpenModes) (state : σ) (random : Random) :
    encounter.Rounds oracle left state random (encounter.search oracle left state random) := by
  fun_induction encounter.search oracle left state random with
  | case1 left state random screening valid nothing =>
      exact .emptied (OpenModes.isEmpty_iff.1 nothing)
  | case2 left state random screening valid something context proposal asked failure answered =>
      refine .unanswered (mt OpenModes.isEmpty_iff.2 something) ?_
      apply Question.proposed?_eq_none_iff.2
      intro mode named
      exact absurd (answered.symm.trans named) (by simp)
  | case3 left state random screening valid something context proposal asked mode answered
      offered trial passed =>
      have round := Rounds.accepted
        (Question.proposed?_eq_some_iff.2 ⟨answered, offered⟩) passed
      rw [← candidate_tryMode] at round
      exact round
  | case4 left state random screening valid something context proposal asked mode answered
      offered trial failed ih =>
      have round := Rounds.rejected
        (Question.proposed?_eq_some_iff.2 ⟨answered, offered⟩)
        (eq_false_of_ne_true failed) ih
      rw [← candidate_tryMode] at round
      exact round
  | case5 left state random screening valid something context proposal asked mode answered
      outside =>
      refine .unanswered (mt OpenModes.isEmpty_iff.2 something) ?_
      apply Question.proposed?_eq_none_iff.2
      intro named proposes offered
      have same : named = mode := Except.ok.inj (proposes.symm.trans answered)
      exact outside (same ▸ offered)

/-! ## What the events say -/

/-- The event repeats what the collaborators were shown for this trip and what
they answered.  The loop tells of nothing but its own trip: neither the filter
nor the fallback policy nor the auditor has a part in it. -/
def Reports : Event → Prop
  | .entered trip _ => trip = encounter.trip.index
  | .screened trip mode previous verdict =>
      trip = encounter.trip ∧ previous = encounter.previousModes ∧
        verdict = encounter.admits mode
  | .asked context _ _ => ∃ left, context = encounter.context left
  | .estimated trip mode prior candidate =>
      trip = encounter.trip ∧ prior = encounter.prior ∧ candidate = encounter.estimate mode
  | .illegalUtility trip mode utility =>
      trip = encounter.trip.index ∧ utility = (encounter.estimate mode).utility ∧
        (encounter.estimate mode).isFeasible = false
  | .judged trip candidate prior verdict =>
      trip = encounter.trip ∧ prior = encounter.prior ∧ verdict = encounter.approves candidate
  | .leftOut _ | .fellBack _ _ | .reverted _ | .recorded _ _ => False

theorem reports_screening (left : OpenModes) :
    ∀ event ∈ encounter.screening left, encounter.Reports event := by
  intro event told
  rcases List.mem_map.1 told with ⟨mode, _, rfl⟩
  exact ⟨rfl, rfl, rfl⟩

theorem reports_asking (left : OpenModes) (state : σ) (random : Random) :
    ∀ event ∈ encounter.asking oracle left state random, encounter.Reports event := by
  intro event told
  simp only [asking, List.mem_append, List.mem_cons, List.not_mem_nil, or_false] at told
  rcases told with screened | rfl | rfl
  · exact encounter.reports_screening left event screened
  · exact rfl
  · exact ⟨encounter.offer left, rfl⟩

theorem reports_tryMode (mode : Mode) :
    ∀ event ∈ (encounter.tryMode mode).events, encounter.Reports event := by
  intro event told
  cases feasible : (encounter.estimate mode).isFeasible with
  | true =>
      simp only [tryMode_of_feasible encounter feasible, List.mem_cons, List.not_mem_nil,
        or_false] at told
      rcases told with rfl | rfl | rfl | rfl
      · exact rfl
      · exact ⟨rfl, rfl, rfl⟩
      · exact ⟨rfl, rfl, rfl⟩
      · exact rfl
  | false =>
      simp only [tryMode_of_infeasible encounter feasible, List.mem_cons, List.not_mem_nil,
        or_false] at told
      rcases told with rfl | rfl | rfl | rfl
      · exact rfl
      · exact ⟨rfl, rfl, rfl⟩
      · exact ⟨rfl, rfl, feasible⟩
      · exact rfl

variable {encounter oracle}

theorem reports_round {left : OpenModes} {state : σ} {random : Random} {mode : Mode} :
    ∀ event ∈ encounter.asking oracle left state random ++ (encounter.tryMode mode).events,
      encounter.Reports event := by
  intro event told
  rcases List.mem_append.1 told with asked | tried
  · exact encounter.reports_asking oracle left state random event asked
  · exact encounter.reports_tryMode mode event tried

theorem Rounds.reports {left : OpenModes} {state : σ} {random : Random} {search : Search σ}
    (rounds : encounter.Rounds oracle left state random search) :
    ∀ event ∈ search.events, encounter.Reports event := by
  induction rounds with
  | @emptied left state random nothing =>
      intro event told
      rcases List.mem_append.1 told with screened | entered
      · exact encounter.reports_screening left event screened
      · rw [List.mem_singleton.1 entered]
        exact rfl
  | @unanswered left state random something useless =>
      intro event told
      rcases List.mem_append.1 told with asked | entered
      · exact encounter.reports_asking oracle left state random event asked
      · rw [List.mem_singleton.1 entered]
        exact rfl
  | accepted proposed passed => exact reports_round
  | rejected proposed failed tail ih =>
      intro event told
      rcases List.mem_append.1 told with now | later
      · exact reports_round event now
      · exact ih event later

end Encounter

end ModeChoice
