import Mathlib.Data.List.Chain
import ModeChoice.Proofs.Retry.Rounds

/-!
# What the retry loop offers

Every trip begins with all modes of the tour that the constraint admits, and
what is offered shrinks by one rejected mode from question to question.  From
this follow the other laws of the dialogue with the oracle: no mode comes back,
there are no more questions than modes, and nothing is asked after an answer of
no use or an accepted mode.
-/

namespace ModeChoice

/-- One offer has fewer modes than another, and those in the same order. -/
def Question.Shrinks (earlier later : Question) : Prop :=
  later.offered.Sublist earlier.offered ∧ later.offered.length < earlier.offered.length

instance : Trans Question.Shrinks Question.Shrinks Question.Shrinks where
  trans first second := ⟨second.1.trans first.1, second.2.trans first.2⟩

/-- A mode that has been estimated is neither offered nor estimated later. -/
def Event.Settles (earlier later : Event) : Prop :=
  ∀ mode, earlier.estimatedMode? = some mode →
    later.estimatedMode? ≠ some mode ∧
      ∀ question, later.question? = some question → mode ∉ question.offered

theorem Event.settles_of_unestimated {earlier later : Event}
    (unestimated : earlier.estimatedMode? = none) :
    earlier.Settles later := by
  intro mode estimated
  rw [unestimated] at estimated
  cases estimated

theorem pairwise_settles_of_unestimated {events : List Event}
    (unestimated : estimatedModesOf events = []) :
    events.Pairwise Event.Settles := by
  apply List.pairwise_of_forall_mem_list
  intro earlier told later _
  exact Event.settles_of_unestimated (List.filterMap_eq_nil_iff.1 unestimated earlier told)

namespace Encounter

variable {σ : Type} (encounter : Encounter)

/-- The step from one question about a trip to the next: the proposed mode will
not do, and it alone is missing from what is offered next. -/
def Narrows (earlier later : Question) : Prop :=
  ∃ mode, earlier.proposed? = some mode ∧ ¬ encounter.Acceptable mode ∧
    later.offered = earlier.offered.filter (· != mode)

/-- The laws of the dialogue with the oracle about one trip of a tour. -/
structure OfferDiscipline (tour : TourModes) (events : List Event) : Prop where
  /-- All questions are about this trip. -/
  about : ∀ question ∈ questionsOf events, ∃ left, question.context = encounter.context left
  /-- The first offer is what the constraint admits of the tour's modes, and
  there is no question only if that is nothing. -/
  first : (questionsOf events).head?.map Question.offered =
    if tour.modes.filter encounter.admits = [] then none
    else some (tour.modes.filter encounter.admits)
  filled : ∀ question ∈ questionsOf events, question.offered ≠ []
  within : ∀ question ∈ questionsOf events,
    question.offered.Sublist (tour.modes.filter encounter.admits)
  narrowing : (questionsOf events).IsChain encounter.Narrows
  shrinking : (questionsOf events).Pairwise Question.Shrinks
  /-- A question that another one follows was answered with a mode on offer,
  and that mode was rejected. -/
  followed : (questionsOf events).Pairwise fun earlier _ =>
    ∃ mode, earlier.proposed? = some mode ∧ ¬ encounter.Acceptable mode
  /-- What is estimated is what was proposed, in the same order. -/
  estimates : estimatedModesOf events = (questionsOf events).filterMap Question.proposed?
  settled : events.Pairwise Event.Settles
  calls : (questionsOf events).length ≤ tour.modes.length

variable {encounter} {oracle : Oracle σ}

theorem shrinks_of_narrows {earlier later : Question}
    (narrows : encounter.Narrows earlier later) :
    earlier.Shrinks later := by
  rcases narrows with ⟨mode, proposed, _, same⟩
  have offered := (Question.proposed?_eq_some_iff.1 proposed).2
  constructor
  · rw [same]
    exact List.filter_sublist
  · rw [same]
    exact List.length_filter_lt_length_iff_exists.2 ⟨mode, offered, by simp⟩

/-- The constraint has nothing to add when it is asked again. -/
theorem offer_offer_without (left : OpenModes) (mode : Mode) :
    (encounter.offer ((encounter.offer left).without mode)).modes =
      (encounter.offer left).modes.filter (· != mode) := by
  simp only [modes_offer, OpenModes.modes_without]
  apply List.filter_eq_self.2
  intro other among
  exact (List.mem_filter.1 (List.mem_filter.1 among).1).2

theorem pairwise_settles_round {left : OpenModes} {state : σ} {random : Random}
    {mode : Mode} :
    (encounter.asking oracle left state random ++
      (encounter.tryMode mode).events).Pairwise Event.Settles := by
  refine List.pairwise_append.2 ⟨?_, ?_, ?_⟩
  · apply pairwise_settles_of_unestimated
    simp
  · cases feasible : (encounter.estimate mode).isFeasible with
    | true =>
        simp [tryMode_of_feasible encounter feasible, enter, Event.Settles,
          Event.estimatedMode?, Event.question?]
    | false =>
        simp [tryMode_of_infeasible encounter feasible, enter, Event.Settles,
          Event.estimatedMode?, Event.question?]
  · intro earlier asked later _
    have unestimated := encounter.estimatedModesOf_asking oracle left state random
    exact Event.settles_of_unestimated (List.filterMap_eq_nil_iff.1 unestimated earlier asked)

namespace Rounds

variable {left : OpenModes} {state : σ} {random : Random} {search : Search σ}

theorem about (rounds : encounter.Rounds oracle left state random search) :
    ∀ question ∈ questionsOf search.events,
      ∃ left, question.context = encounter.context left := by
  intro question asked
  rcases List.mem_filterMap.1 asked with ⟨event, told, same⟩
  cases event with
  | asked context answer log =>
      cases same
      exact rounds.reports _ told
  | _ => cases same

theorem head?_questions (rounds : encounter.Rounds oracle left state random search) :
    (questionsOf search.events).head?.map Question.offered =
      if (encounter.offer left).modes = [] then none
      else some (encounter.offer left).modes := by
  cases rounds with
  | emptied nothing =>
      rw [if_pos nothing]
      simp
  | unanswered something useless =>
      rw [if_neg something]
      simp
  | accepted proposed passed =>
      have offered := mem_offer_of_proposed proposed
      rw [if_neg (List.ne_nil_of_mem offered)]
      simp
  | rejected proposed failed tail =>
      have offered := mem_offer_of_proposed proposed
      rw [if_neg (List.ne_nil_of_mem offered)]
      simp

theorem filled (rounds : encounter.Rounds oracle left state random search) :
    ∀ question ∈ questionsOf search.events, question.offered ≠ [] := by
  induction rounds with
  | emptied nothing => simp
  | unanswered something useless => simpa using something
  | accepted proposed passed =>
      have offered := mem_offer_of_proposed proposed
      simpa using List.ne_nil_of_mem offered
  | rejected proposed failed tail ih =>
      intro question asked
      rw [questionsOf_round] at asked
      rcases List.mem_cons.1 asked with rfl | later
      · exact List.ne_nil_of_mem (mem_offer_of_proposed proposed)
      · exact ih question later

theorem within (rounds : encounter.Rounds oracle left state random search) :
    ∀ question ∈ questionsOf search.events,
      question.offered.Sublist (encounter.offer left).modes := by
  induction rounds with
  | emptied nothing => simp
  | unanswered something useless => simp
  | accepted proposed passed => simp
  | rejected proposed failed tail ih =>
      intro question asked
      rw [questionsOf_round] at asked
      rcases List.mem_cons.1 asked with rfl | later
      · exact List.Sublist.refl _
      · have narrower := ih question later
        rw [offer_offer_without] at narrower
        exact narrower.trans List.filter_sublist

theorem narrowing (rounds : encounter.Rounds oracle left state random search) :
    (questionsOf search.events).IsChain encounter.Narrows := by
  induction rounds with
  | emptied nothing => simp
  | unanswered something useless => simp
  | accepted proposed passed => simp
  | @rejected left state random mode rest proposed failed tail ih =>
      have unacceptable := not_acceptable_of_failed proposed failed
      rw [questionsOf_round, List.isChain_cons]
      refine ⟨?_, ih⟩
      intro next follows
      have head := tail.head?_questions
      rw [follows, offer_offer_without] at head
      split at head
      · cases head
      · exact ⟨mode, proposed, unacceptable, Option.some.inj head⟩

theorem shrinking (rounds : encounter.Rounds oracle left state random search) :
    (questionsOf search.events).Pairwise Question.Shrinks :=
  (rounds.narrowing.imp fun _ _ => shrinks_of_narrows).pairwise

theorem calls (rounds : encounter.Rounds oracle left state random search) :
    (questionsOf search.events).length ≤ left.size := by
  induction rounds with
  | emptied nothing => simp
  | @unanswered left state random something useless =>
      have least : 0 < (encounter.offer left).size := List.length_pos_iff.2 something
      have most : (encounter.offer left).size ≤ left.size := OpenModes.size_retain_le _ _
      simp
      omega
  | @accepted left state random mode proposed passed =>
      have least : 0 < (encounter.offer left).size :=
        List.length_pos_of_mem (mem_offer_of_proposed proposed)
      have most : (encounter.offer left).size ≤ left.size := OpenModes.size_retain_le _ _
      simp
      omega
  | @rejected left state random mode rest proposed failed tail ih =>
      have fewer : ((encounter.offer left).without mode).size < (encounter.offer left).size :=
        OpenModes.size_without_lt (mem_offer_of_proposed proposed)
      have most : (encounter.offer left).size ≤ left.size := OpenModes.size_retain_le _ _
      simp
      omega

/-- Whatever is followed by another question was a proposal, and was rejected. -/
theorem followed (rounds : encounter.Rounds oracle left state random search) :
    (questionsOf search.events).Pairwise fun earlier _ =>
      ∃ mode, earlier.proposed? = some mode ∧ ¬ encounter.Acceptable mode := by
  induction rounds with
  | emptied nothing => simp
  | unanswered something useless => simp
  | accepted proposed passed => simp
  | @rejected left state random mode rest proposed failed tail ih =>
      have unacceptable := not_acceptable_of_failed proposed failed
      rw [questionsOf_round, List.pairwise_cons]
      exact ⟨fun _ _ => ⟨mode, proposed, unacceptable⟩, ih⟩

theorem estimates (rounds : encounter.Rounds oracle left state random search) :
    estimatedModesOf search.events =
      (questionsOf search.events).filterMap Question.proposed? := by
  induction rounds with
  | emptied nothing => simp
  | unanswered something useless => simp [useless]
  | accepted proposed passed => simp [proposed]
  | rejected proposed failed tail ih => simp [proposed, ih]

/-- An estimate is about a mode that was on offer in the same round. -/
theorem estimatedMode_mem_offer (rounds : encounter.Rounds oracle left state random search)
    {event : Event} {mode : Mode} (told : event ∈ search.events)
    (estimated : event.estimatedMode? = some mode) :
    mode ∈ (encounter.offer left).modes := by
  have among : mode ∈ estimatedModesOf search.events :=
    List.mem_filterMap.2 ⟨event, told, estimated⟩
  rw [rounds.estimates] at among
  rcases List.mem_filterMap.1 among with ⟨question, asked, proposed⟩
  exact (rounds.within question asked).subset (Question.proposed?_eq_some_iff.1 proposed).2

theorem settled (rounds : encounter.Rounds oracle left state random search) :
    search.events.Pairwise Event.Settles := by
  induction rounds with
  | emptied nothing =>
      apply pairwise_settles_of_unestimated
      simp
  | unanswered something useless =>
      apply pairwise_settles_of_unestimated
      simp
  | accepted proposed passed => exact pairwise_settles_round
  | @rejected left state random mode rest proposed failed tail ih =>
      refine List.pairwise_append.2 ⟨pairwise_settles_round, ih, ?_⟩
      intro earlier now later told settled estimated
      -- Only the rejected mode was estimated in this round, and it is not among
      -- the modes that the remaining rounds begin with.
      have same : settled = mode := by
        have among : settled ∈ estimatedModesOf
            (encounter.asking oracle left state random ++ (encounter.tryMode mode).events) :=
          List.mem_filterMap.2 ⟨earlier, now, estimated⟩
        simpa using among
      have gone : settled ∉ (encounter.offer
          ((encounter.offer left).without mode)).modes := by
        rw [offer_offer_without, same]
        simp
      constructor
      · intro again
        exact gone (tail.estimatedMode_mem_offer told again)
      · intro question asked offered
        have among : question ∈ questionsOf rest.events :=
          List.mem_filterMap.2 ⟨later, told, asked⟩
        exact gone ((tail.within question among).subset offered)

end Rounds

theorem offerDiscipline_search (encounter : Encounter) (oracle : Oracle σ) (tour : TourModes)
    (state : σ) (random : Random) :
    encounter.OfferDiscipline tour
      (encounter.search oracle tour.candidates state random).events := by
  have rounds := encounter.rounds_search oracle tour.candidates state random
  exact {
    about := rounds.about
    first := rounds.head?_questions
    filled := rounds.filled
    within := rounds.within
    narrowing := rounds.narrowing
    shrinking := rounds.shrinking
    followed := rounds.followed
    estimates := rounds.estimates
    settled := rounds.settled
    calls := rounds.calls }

end Encounter

end ModeChoice
