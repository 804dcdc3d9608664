import ModeChoice.Proofs.Retry.Rounds
import ModeChoice.Rehearsal

/-!
# What the retry loop finds

A mode will do for a trip or it will not, whatever the oracle thinks of it.  The
loop keeps a mode that will do; it ends without one only after an answer of no
use, or after it has rejected every mode that it began with.  So an oracle that
always proposes something on offer decides which of the acceptable modes is
kept, and never whether one is.
-/

namespace ModeChoice

/-- A trip from home to work. -/
def errand (index : Nat) (initial : Mode) : Trip where
  index
  origin := ⟨"home", ⟨0, 0⟩, some 28800, none⟩
  destination := ⟨"work", ⟨3000, 4000⟩, none, none⟩
  initialMode := initial
  departureTime := none

/-- The oracle proposes a mode that it is offered whenever it is offered any. -/
def Oracle.Obedient {σ : Type} (oracle : Oracle σ) : Prop :=
  ∀ state random context, context.validModes.modes ≠ [] →
    ∃ mode ∈ context.validModes.modes,
      (oracle.propose state random context).answer = .ok mode

/-- The events tell that a mode was rejected. -/
inductive RejectedIn (events : List Event) (mode : Mode) : Prop where
  /-- The constraint did not admit it. -/
  | unadmitted {trip : Trip} {previous : List Mode}
      (told : .screened trip mode previous false ∈ events)
  /-- It was estimated, and its utility was not finite. -/
  | infeasible {trip : Trip} {prior : List Candidate} {candidate : Candidate}
      (estimated : .estimated trip mode prior candidate ∈ events)
      (illegal : candidate.isFeasible = false)
  /-- It was estimated, and the constraint did not approve. -/
  | disapproved {trip : Trip} {prior : List Candidate} {candidate : Candidate}
      (estimated : .estimated trip mode prior candidate ∈ events)
      (told : .judged trip candidate prior false ∈ events)

theorem RejectedIn.mono {first second : List Event} {mode : Mode}
    (kept : ∀ event ∈ first, event ∈ second) (rejected : RejectedIn first mode) :
    RejectedIn second mode := by
  cases rejected with
  | unadmitted told => exact .unadmitted (kept _ told)
  | infeasible estimated illegal => exact .infeasible (kept _ estimated) illegal
  | disapproved estimated told => exact .disapproved (kept _ estimated) (kept _ told)

namespace Encounter

variable {σ : Type} {encounter : Encounter} {oracle : Oracle σ}

theorem rejectedIn_screening {left : OpenModes} {mode : Mode} (among : mode ∈ left.modes)
    (refused : encounter.admits mode = false) :
    RejectedIn (encounter.screening left) mode := by
  have told : Event.screened encounter.trip mode encounter.previousModes false ∈
      encounter.screening left :=
    List.mem_map.2 ⟨mode, among, by rw [refused]⟩
  exact .unadmitted told

theorem rejectedIn_tryMode {mode : Mode}
    (failed : (encounter.tryMode mode).accepted = false) :
    RejectedIn (encounter.tryMode mode).events mode := by
  have estimated := encounter.estimated_mem_tryMode mode
  cases feasible : (encounter.estimate mode).isFeasible with
  | true =>
      rw [tryMode_of_feasible encounter feasible] at failed
      have disapproved : encounter.approves (encounter.estimate mode) = false := failed
      have told : Event.judged encounter.trip (encounter.estimate mode) encounter.prior
          false ∈ (encounter.tryMode mode).events := by
        simp [tryMode_of_feasible encounter feasible, disapproved]
      exact .disapproved estimated told
  | false => exact .infeasible estimated feasible

namespace Rounds

variable {left : OpenModes} {state : σ} {random : Random} {search : Search σ}

/-- What the loop keeps is the estimate of a mode that will do. -/
theorem acceptable_of_kept (rounds : encounter.Rounds oracle left state random search)
    {candidate : Candidate} (kept : search.kept = some candidate) :
    ∃ mode ∈ left.modes, encounter.Acceptable mode ∧ candidate = encounter.estimate mode := by
  induction rounds with
  | emptied nothing => cases kept
  | unanswered something useless => cases kept
  | @accepted left state random mode proposed passed =>
      have offered := mem_offer_of_proposed proposed
      have same : encounter.estimate mode = candidate := Option.some.inj kept
      exact ⟨mode, (List.mem_filter.1 offered).1,
        (encounter.acceptable_iff_accepted offered).2 passed, same.symm⟩
  | @rejected left state random mode rest proposed failed tail ih =>
      rcases ih kept with ⟨found, among, acceptable, same⟩
      have offered : found ∈ (encounter.offer left).modes := (List.mem_filter.1 among).1
      exact ⟨found, (List.mem_filter.1 offered).1, acceptable, same⟩

/-- Where no mode will do, none is kept. -/
theorem kept_eq_none_of_unacceptable
    (rounds : encounter.Rounds oracle left state random search)
    (unacceptable : ∀ mode ∈ left.modes, ¬ encounter.Acceptable mode) :
    search.kept = none := by
  cases kept : search.kept with
  | none => rfl
  | some candidate =>
      rcases rounds.acceptable_of_kept kept with ⟨mode, among, acceptable, _⟩
      exact absurd acceptable (unacceptable mode among)

/-- An answer of no use ends the loop without a mode. -/
theorem kept_eq_none_of_useless (rounds : encounter.Rounds oracle left state random search)
    {question : Question} (asked : question ∈ questionsOf search.events)
    (useless : question.proposed? = none) :
    search.kept = none := by
  induction rounds with
  | emptied nothing => rfl
  | unanswered something useless => rfl
  | @accepted left state random mode proposed passed =>
      have same : question = encounter.question oracle left state random := by
        simpa using asked
      rw [← same, useless] at proposed
      cases proposed
  | @rejected left state random mode rest proposed failed tail ih =>
      rw [questionsOf_round] at asked
      rcases List.mem_cons.1 asked with same | later
      · rw [← same, useless] at proposed
        cases proposed
      · exact ih later

/-- Where every answer was of use, a loop without a result has rejected every
mode that it began with. -/
theorem rejected_of_kept_eq_none (rounds : encounter.Rounds oracle left state random search)
    (unkept : search.kept = none)
    (useful : ∀ question ∈ questionsOf search.events, question.proposed? ≠ none) :
    ∀ mode ∈ left.modes, RejectedIn search.events mode := by
  induction rounds with
  | @emptied left state random nothing =>
      intro mode among
      have refused : encounter.admits mode = false := by
        have none := List.filter_eq_nil_iff.1 nothing mode among
        simpa using none
      exact (rejectedIn_screening among refused).mono fun _ => List.mem_append_left _
  | @unanswered left state random something useless =>
      have asked : encounter.question oracle left state random ∈
          questionsOf (encounter.asking oracle left state random ++
            [encounter.enter .exhausted]) := by
        simp
      exact absurd useless (useful _ asked)
  | accepted proposed passed => cases unkept
  | @rejected left state random mode rest proposed failed tail ih =>
      -- A mode is rejected now, by the screening or by the trial, or the next
      -- round begins with it.
      intro other among
      cases refused : encounter.admits other with
      | false =>
          refine (rejectedIn_screening among refused).mono fun event told => ?_
          simp [asking, told]
      | true =>
          by_cases same : other = mode
          · subst other
            refine (rejectedIn_tryMode failed).mono fun event told => ?_
            simp [told]
          · have still : other ∈ ((encounter.offer left).without mode).modes := by
              simp [among, refused, same]
            have earlier := ih unkept
              (fun question asked => useful question (by simp [asked]))
              other still
            refine earlier.mono fun event told => ?_
            simp [told]

theorem not_acceptable_of_rejectedIn
    (rounds : encounter.Rounds oracle left state random search) {mode : Mode}
    (rejected : RejectedIn search.events mode) :
    ¬ encounter.Acceptable mode := by
  rintro ⟨admitted, feasible, approved⟩
  cases rejected with
  | unadmitted told =>
      have verdict := (rounds.reports _ told).2.2
      simp [admitted] at verdict
  | infeasible estimated illegal =>
      have same := (rounds.reports _ estimated).2.2
      rw [same, feasible] at illegal
      cases illegal
  | disapproved estimated told =>
      have same := (rounds.reports _ estimated).2.2
      have verdict := (rounds.reports _ told).2.2
      rw [same, approved] at verdict
      cases verdict

theorem proposed?_ne_none_of_obedient (obedient : oracle.Obedient)
    (rounds : encounter.Rounds oracle left state random search) :
    ∀ question ∈ questionsOf search.events, question.proposed? ≠ none := by
  induction rounds with
  | emptied nothing =>
      intro question asked
      simp at asked
  | @unanswered left state random something useless =>
      rcases obedient state random (encounter.context (encounter.offer left)) something with
        ⟨mode, offered, answered⟩
      exact absurd offered (Question.proposed?_eq_none_iff.1 useless mode answered)
  | @accepted left state random mode proposed passed =>
      intro question asked
      have same : question = encounter.question oracle left state random := by
        simpa using asked
      simp [same, proposed]
  | @rejected left state random mode rest proposed failed tail ih =>
      intro question asked
      rw [questionsOf_round] at asked
      rcases List.mem_cons.1 asked with same | later
      · simp [same, proposed]
      · exact ih question later

/-- The loop ends without a mode exactly when an answer was of no use or every
mode was rejected on the way. -/
theorem kept_eq_none_iff_rejected
    (rounds : encounter.Rounds oracle left state random search) :
    search.kept = none ↔
      (∃ question ∈ questionsOf search.events, question.proposed? = none) ∨
        ∀ mode ∈ left.modes, RejectedIn search.events mode := by
  constructor
  · intro unkept
    by_cases useful : ∃ question ∈ questionsOf search.events, question.proposed? = none
    · exact .inl useful
    · refine .inr (rounds.rejected_of_kept_eq_none unkept ?_)
      intro question asked useless
      exact useful ⟨question, asked, useless⟩
  · rintro (⟨question, asked, useless⟩ | rejected)
    · exact rounds.kept_eq_none_of_useless asked useless
    · apply rounds.kept_eq_none_of_unacceptable
      intro mode among
      exact rounds.not_acceptable_of_rejectedIn (rejected mode among)

/-- The modes alone decide, not what was seen of them on the way. -/
theorem kept_eq_none_iff (rounds : encounter.Rounds oracle left state random search) :
    search.kept = none ↔
      (∃ question ∈ questionsOf search.events, question.proposed? = none) ∨
        ∀ mode ∈ left.modes, ¬ encounter.Acceptable mode := by
  constructor
  · intro unkept
    rcases rounds.kept_eq_none_iff_rejected.1 unkept with useless | rejected
    · exact .inl useless
    · exact .inr fun mode among => rounds.not_acceptable_of_rejectedIn (rejected mode among)
  · rintro (⟨question, asked, useless⟩ | unacceptable)
    · exact rounds.kept_eq_none_of_useless asked useless
    · exact rounds.kept_eq_none_of_unacceptable unacceptable

end Rounds

/-- The retry loop keeps a mode for a trip whenever one will do, as long as the
oracle proposes what it is offered, and what it keeps will always do.  Whatever
the oracle, the loop ends without a mode exactly when some answer was of no use
or no mode of the tour will do, and in the latter case its events tell of every
mode why it was rejected. -/
theorem search_keeps_iff_acceptable (encounter : Encounter) (oracle : Oracle σ)
    (tour : TourModes) (state : σ) (random : Random) :
    let search := encounter.search oracle tour.candidates state random
    (oracle.Obedient →
      (search.kept.isSome ↔ ∃ mode ∈ tour.modes, encounter.Acceptable mode)) ∧
    (∀ candidate, search.kept = some candidate →
      ∃ mode ∈ tour.modes, encounter.Acceptable mode ∧ candidate = encounter.estimate mode) ∧
    (search.kept = none ↔
      (∃ question ∈ questionsOf search.events, question.proposed? = none) ∨
        ∀ mode ∈ tour.modes, ¬ encounter.Acceptable mode) ∧
    (search.kept = none ↔
      (∃ question ∈ questionsOf search.events, question.proposed? = none) ∨
        ∀ mode ∈ tour.modes, RejectedIn search.events mode) := by
  intro search
  have rounds := encounter.rounds_search oracle tour.candidates state random
  refine ⟨?_, ?_, rounds.kept_eq_none_iff, rounds.kept_eq_none_iff_rejected⟩
  · intro obedient
    constructor
    · intro found
      rcases Option.isSome_iff_exists.1 found with ⟨candidate, kept⟩
      rcases rounds.acceptable_of_kept kept with ⟨mode, among, acceptable, _⟩
      exact ⟨mode, among, acceptable⟩
    · rintro ⟨mode, among, acceptable⟩
      apply Option.isSome_iff_ne_none.2
      intro unkept
      rcases rounds.kept_eq_none_iff.1 unkept with ⟨question, asked, useless⟩ | unacceptable
      · exact rounds.proposed?_ne_none_of_obedient obedient question asked useless
      · exact unacceptable mode among acceptable
  · intro candidate kept
    exact rounds.acceptable_of_kept kept

/-- A trip to work for which the car is refused once it has been estimated. -/
def withoutCar : Encounter where
  agent := Agent.bare ⟨7⟩
  trip := (errand 3 .car).departAt 28800
  constraint := Constraint.refusingCandidates fun _ mode => mode == .car
  estimator := Estimator.constant fun _ => some (1, 600)
  prior := []

theorem obedient_ofOrder_all : (Oracle.ofOrder Mode.all).Obedient := by
  intro state random context something
  rcases List.exists_mem_of_ne_nil _ something with ⟨mode, among⟩
  have found : (Mode.all.find? context.validModes.contains).isSome := by
    rw [List.find?_isSome]
    exact ⟨mode, Mode.mem_all mode, OpenModes.contains_iff.2 among⟩
  rcases Option.isSome_iff_exists.1 found with ⟨first, named⟩
  refine ⟨first, OpenModes.contains_iff.1 (List.find?_some named), ?_⟩
  simp [Oracle.ofOrder, named]

/-- The car is proposed first and refused, and yet a mode is kept. -/
theorem search_keeps_walk :
    (Oracle.ofOrder Mode.all).Obedient ∧ withoutCar.Acceptable .walk ∧
      (withoutCar.search (Oracle.ofOrder Mode.all)
        (TourModes.mk [.car, .walk] (by decide) (by decide)).candidates () (Random.ofSeed 0)
        ).kept.isSome := by
  have acceptable : withoutCar.Acceptable .walk := by decide
  refine ⟨obedient_ofOrder_all, acceptable, ?_⟩
  apply ((search_keeps_iff_acceptable withoutCar (Oracle.ofOrder Mode.all)
    (TourModes.mk [.car, .walk] (by decide) (by decide)) () (Random.ofSeed 0)).1
      obedient_ofOrder_all).2
  exact ⟨.walk, by simp, acceptable⟩

end Encounter

end ModeChoice
