import ModeChoice.Oracle.Chat
import ModeChoice.Oracle.Logit
import ModeChoice.Proofs.Number.Order
import ModeChoice.Proofs.Retry.Ranking
import ModeChoice.Proofs.Tour.Decisions
import ModeChoice.Proofs.Tour.Dialogue

/-!
# The contract of an oracle

An oracle refuses where nothing is open, and proposes nothing but open modes
elsewhere.  The retry loop does not rely on it: a proposal from outside ends the
search like a failure.  With the oracles that come along this ending is never
met.  Those of them that compute their answer always have one, so that with them
a trip ends without a mode only after every mode was rejected.

Nothing is assumed of the exponential and the scale of a logit oracle, nor of the
replies that a language model gives.  Weights that are infinite or no number lead
the draw astray, but only from one open mode to another.
-/

namespace ModeChoice

/-! ## Where the proposals come from -/

namespace TripContext

/-- The estimates are about the open modes, if the estimator says what it was
asked about. -/
theorem mode_mem_of_estimates {context : TripContext} (keeps : context.estimator.KeepsMode)
    {candidate : Candidate} (among : candidate ∈ context.estimates) :
    candidate.mode ∈ context.validModes.modes := by
  rcases List.mem_map.1 among with ⟨mode, offered, rfl⟩
  rw [keeps]
  exact offered

end TripContext

namespace PreferenceRules

theorem pick_mem {rules : PreferenceRules} {agent : Agent} {trip : Trip} {modes : List Mode}
    {first : Mode} (foremost : modes.head? = some first) :
    rules.pick agent trip modes first ∈ modes :=
  mem_ranking.1 (List.mem_of_mem_head? (head?_ranking foremost))

end PreferenceRules

namespace LogitRules

/-- Wherever the draw runs out, it is at a candidate whose weight is above zero. -/
theorem mem_of_drawn {weighted : List (Candidate × Float)} {left : Float} {mode : Mode}
    (picked : drawn weighted left = some mode) :
    ∃ entry ∈ weighted, entry.1.mode = mode ∧ 0 < entry.2 := by
  induction weighted generalizing left with
  | nil => cases picked
  | cons entry rest ih =>
      have onward : ∀ {left : Float}, drawn rest left = some mode →
          ∃ other ∈ entry :: rest, other.1.mode = mode ∧ 0 < other.2 := by
        intro left later
        rcases ih later with ⟨other, among, same⟩
        exact ⟨other, List.mem_cons_of_mem _ among, same⟩
      simp only [drawn] at picked
      split at picked
      · exact onward picked
      · rename_i heavy
        split at picked
        · rename_i less
          -- A weight that is more than something is a number.
          have number := Number.isNaN_eq_false_of_le (Number.le_of_lt less)
          exact ⟨entry, List.mem_cons_self, Option.some.inj picked,
            Number.lt_of_not_le rfl number heavy⟩
        · exact onward picked

theorem mem_of_lastWeighty {weighted : List (Candidate × Float)} {mode : Mode}
    (picked : lastWeighty weighted = some mode) :
    ∃ entry ∈ weighted, entry.1.mode = mode ∧ 0 < entry.2 := by
  rcases Option.map_eq_some_iff.1 picked with ⟨entry, found, same⟩
  have heavy : 0 < entry.2 := by simpa using List.find?_some found
  exact ⟨entry, List.mem_reverse.1 (List.mem_of_find?_eq_some found), same, heavy⟩

/-- A sample is the mode of one of the candidates, and never of one without weight, whatever
the weights are and the number that was drawn. -/
theorem mem_of_sample {rules : LogitRules} {candidates : List Candidate} {unit : Float}
    {mode : Mode} (picked : rules.sample candidates unit = some mode) :
    ∃ candidate ∈ candidates, candidate.mode = mode ∧
      0 < rules.weight (bestUtility candidates) candidate := by
  have entry_of_picked : ∃ entry ∈ candidates.map fun candidate =>
      (candidate, rules.weight (bestUtility candidates) candidate),
      entry.1.mode = mode ∧ 0 < entry.2 := by
    rcases Option.or_eq_some_iff.1 picked with drawn | ⟨_, last⟩
    · exact mem_of_drawn drawn
    · exact mem_of_lastWeighty last
  rcases entry_of_picked with ⟨entry, among, same⟩
  rcases List.mem_map.1 among with ⟨candidate, listed, rfl⟩
  exact ⟨candidate, listed, same⟩

end LogitRules

namespace Reply

theorem mem_of_leading? {mentions : List Mention} {mention : Mention}
    (first : leading? mentions = some mention) : mention ∈ mentions := by
  fun_induction leading? mentions with
  | case1 => cases first
  | case2 one rest alone ih =>
      cases first
      exact List.mem_cons_self
  | case3 one rest other found earlier ih =>
      cases first
      exact List.mem_cons_of_mem _ (ih found)
  | case4 one rest other found later ih =>
      cases first
      exact List.mem_cons_self

/-- Whatever a reply says, it is read as one of the allowed modes or as nothing. -/
theorem mem_of_read {response : String} {allowed : List Mode} {mode : Mode}
    (named : read response allowed = .ok mode) : mode ∈ allowed := by
  simp only [read] at named
  split at named
  · rename_i label found
    cases named
    exact List.mem_of_find?_eq_some found
  · split at named
    · rename_i mention first
      cases named
      rcases List.mem_filterMap.1 (mem_of_leading? first) with ⟨mode, among, mentioned⟩
      rcases Option.map_eq_some_iff.1 mentioned with ⟨place, _, rfl⟩
      exact among
    · cases named

end Reply

namespace ChatOracle

variable {τ : Type} {oracle : ChatOracle τ} {state : ChatState τ} {random : Random}
  {context : TripContext} {mode : Mode}

theorem mem_of_askMode {profile : Profile} {persona : String}
    (named : (oracle.askMode state random context profile persona).answer = .ok mode) :
    mode ∈ context.validModes.modes := by
  simp only [askMode] at named
  split at named
  · cases named
  · exact Reply.mem_of_read named

theorem mem_of_propose (named : (oracle.propose state random context).answer = .ok mode) :
    mode ∈ context.validModes.modes := by
  simp only [propose] at named
  split at named
  · cases named
  · rename_i only alone
    cases named
    simp [alone]
  · split at named
    · cases named
    · exact mem_of_askMode named

end ChatOracle

/-! ## The contract -/

namespace Oracle

variable {σ : Type}

/-- What is expected of every oracle: where no mode is open it says so, and what it
proposes is open, if the estimator says what it was asked about. -/
structure KeepsContract (oracle : Oracle σ) : Prop where
  refuses : ∀ state random context, context.validModes.modes = [] →
    (oracle.propose state random context).answer = .error .noValidModes
  within : ∀ state random context, context.estimator.KeepsMode → ∀ mode,
    (oracle.propose state random context).answer = .ok mode → mode ∈ context.validModes.modes

/-- Wherever a mode is open, one is proposed. -/
def AlwaysAnswers (oracle : Oracle σ) : Prop :=
  ∀ state random context, context.validModes.modes ≠ [] →
    ∃ mode, (oracle.propose state random context).answer = .ok mode

/-- The oracles that compute their answer. -/
inductive Computed : {σ : Type} → Oracle σ → Prop where
  | preference (rules : PreferenceRules) : Computed rules.oracle
  | logit (rules : LogitRules) : Computed rules.oracle

/-- The oracles that come along. -/
inductive Bundled : {σ : Type} → Oracle σ → Prop where
  | computed {σ : Type} {oracle : Oracle σ} (computed : oracle.Computed) : Bundled oracle
  | chat {τ : Type} (oracle : ChatOracle τ) : Bundled oracle.toOracle

theorem keepsContract_preference (rules : PreferenceRules) : rules.oracle.KeepsContract where
  refuses state random context nothing := by
    simp [PreferenceRules.oracle, OpenModes.first?, nothing]
  within state random context _ mode proposed := by
    cases foremost : context.validModes.modes.head? with
    | none => simp [PreferenceRules.oracle, OpenModes.first?, foremost] at proposed
    | some first =>
        simp only [PreferenceRules.oracle, OpenModes.first?, foremost, Except.ok.injEq] at proposed
        rw [← proposed]
        exact PreferenceRules.pick_mem foremost

theorem keepsContract_logit (rules : LogitRules) : rules.oracle.KeepsContract where
  refuses state random context nothing := by
    simp [LogitRules.oracle, OpenModes.first?, nothing]
  within state random context keeps mode proposed := by
    cases foremost : context.validModes.modes.head? with
    | none => simp [LogitRules.oracle, OpenModes.first?, foremost] at proposed
    | some first =>
        have leads : first ∈ context.validModes.modes := List.mem_of_mem_head? foremost
        simp only [LogitRules.oracle, OpenModes.first?, foremost] at proposed
        split at proposed
        · cases sampled : rules.sample context.estimates random.unit.1 with
          | none =>
              have same : first = mode := by simpa [sampled] using proposed
              exact same ▸ leads
          | some picked =>
              have same : picked = mode := by simpa [sampled] using proposed
              rcases LogitRules.mem_of_sample sampled with ⟨candidate, among, rfl, _⟩
              exact same ▸ TripContext.mode_mem_of_estimates keeps among
        · have same : first = mode := Except.ok.inj proposed
          exact same ▸ leads

theorem keepsContract_chat {τ : Type} (oracle : ChatOracle τ) :
    oracle.toOracle.KeepsContract where
  refuses state random context nothing := by
    simp [ChatOracle.toOracle, ChatOracle.propose, nothing]
  within state random context _ mode proposed := ChatOracle.mem_of_propose proposed

theorem Bundled.keepsContract {oracle : Oracle σ} (bundled : oracle.Bundled) :
    oracle.KeepsContract := by
  cases bundled with
  | computed computed =>
      cases computed with
      | preference rules => exact keepsContract_preference rules
      | logit rules => exact keepsContract_logit rules
  | chat oracle => exact keepsContract_chat oracle

theorem Computed.alwaysAnswers {oracle : Oracle σ} (computed : oracle.Computed) :
    oracle.AlwaysAnswers := by
  intro state random context something
  cases foremost : context.validModes.modes.head? with
  | none => exact absurd (List.head?_eq_none_iff.1 foremost) something
  | some first =>
      cases computed with
      | preference rules => simp [PreferenceRules.oracle, OpenModes.first?, foremost]
      | logit rules =>
          simp only [LogitRules.oracle, OpenModes.first?, foremost]
          split <;> exact ⟨_, rfl⟩

end Oracle

/-! ## The contract in the retry loop -/

namespace Encounter.Rounds

variable {σ : Type} {encounter : Encounter} {oracle : Oracle σ} {left : OpenModes} {state : σ}
  {random : Random} {search : Search σ}

theorem answered (rounds : encounter.Rounds oracle left state random search) :
    ∀ question ∈ questionsOf search.events, ∃ state random,
      question.answer = (oracle.propose state random question.context).answer := by
  induction rounds with
  | emptied nothing => simp
  | @unanswered left state random something useless =>
      intro question asked
      have same : question = encounter.question oracle left state random := by
        simpa using asked
      exact ⟨state, random, same ▸ rfl⟩
  | @accepted left state random mode proposed passed =>
      intro question asked
      have same : question = encounter.question oracle left state random := by
        simpa using asked
      exact ⟨state, random, same ▸ rfl⟩
  | @rejected left state random mode rest proposed failed tail ih =>
      intro question asked
      rw [questionsOf_round] at asked
      rcases List.mem_cons.1 asked with rfl | later
      · exact ⟨state, random, rfl⟩
      · exact ih question later

theorem within_of_contract (rounds : encounter.Rounds oracle left state random search)
    (contract : oracle.KeepsContract) (keeps : encounter.estimator.KeepsMode)
    {question : Question} (asked : question ∈ questionsOf search.events) {mode : Mode}
    (proposed : question.answer = .ok mode) :
    mode ∈ question.offered := by
  rcases rounds.answered question asked with ⟨state, random, same⟩
  rcases rounds.about question asked with ⟨left, context⟩
  have shown : question.context.estimator.KeepsMode := by
    rw [context]
    exact keeps
  exact contract.within state random question.context shown mode (same.symm.trans proposed)

theorem proposes_of_contract (rounds : encounter.Rounds oracle left state random search)
    (contract : oracle.KeepsContract) (answers : oracle.AlwaysAnswers)
    (keeps : encounter.estimator.KeepsMode) :
    ∀ question ∈ questionsOf search.events, question.proposed? ≠ none := by
  intro question asked useless
  rcases rounds.answered question asked with ⟨state, random, same⟩
  rcases answers state random question.context (rounds.filled question asked) with
    ⟨mode, proposed⟩
  have answer := same.trans proposed
  apply Question.proposed?_eq_none_iff.1 useless mode answer
  exact rounds.within_of_contract contract keeps asked answer

end Encounter.Rounds

namespace Model

variable {σ τ : Type} {model : Model σ τ}

/-- The oracles that come along keep the contract, and so no selection with one of
them ever sees a proposal that was not on offer.  The computing ones answer
whenever something is open, and a trip that gets no mode from them has seen every
mode of the tour rejected. -/
theorem select_keeps_contract (model : Model σ τ) (bundled : model.oracle.Bundled)
    (keeps : model.estimator.KeepsMode) (desk : Desk σ τ) (agent : Agent) (trips : List Trip) :
    model.oracle.KeepsContract ∧
    (∀ question ∈ questionsOf (model.select desk agent trips).events, ∀ mode,
      question.answer = .ok mode → mode ∈ question.offered) ∧
    (model.oracle.Computed →
      model.oracle.AlwaysAnswers ∧
      ∀ modes, TourModes.ofList (model.availability.modes agent trips) = .ok modes →
        let frame := model.frameOf agent trips modes
        ∀ stage ∈ model.history desk agent trips modes, model.Stuck frame stage →
          ∀ mode ∈ modes.modes, RejectedIn (model.loopEvents frame stage) mode) := by
  have contract := bundled.keepsContract
  refine ⟨contract, ?_, ?_⟩
  · intro question asked mode proposed
    rcases exists_stage_of_asked asked with ⟨modes, stage, _, _, told⟩
    have rounds := model.rounds_searchAt (model.frameOf agent trips modes) stage
    exact rounds.within_of_contract contract keeps told proposed
  · intro computed
    refine ⟨computed.alwaysAnswers, ?_⟩
    intro modes _ frame stage _ stuck
    have rounds := model.rounds_searchAt frame stage
    rw [loopEvents_of_through stuck.1]
    apply rounds.rejected_of_kept_eq_none stuck.2
    exact rounds.proposes_of_contract contract computed.alwaysAnswers keeps

/-- The strict model with a draw that no weight decides, as all weights are no
numbers. -/
def undecided : Model Unit Unit :=
  { strict .exception with oracle := (LogitRules.mk Number.notANumber id).oracle }

/-- The draw comes to an open mode all the same, and the errand that fails has seen
both modes rejected. -/
theorem undecided_rejects_every_mode :
    (undecided.select (Desk.fresh () ()) (Agent.bare ⟨7⟩)
      [errand 2 .bike, errand 5 .car]).outcome = .error (.noFeasibleChoice ⟨7⟩ 5) ∧
    ∃ modes stage,
      stage ∈ undecided.history (Desk.fresh () ()) (Agent.bare ⟨7⟩)
        [errand 2 .bike, errand 5 .car] modes ∧
      stage.planned = errand 5 .car ∧
      RejectedIn (undecided.loopEvents (undecided.frameOf (Agent.bare ⟨7⟩)
        [errand 2 .bike, errand 5 .car] modes) stage) .walk := by
  let trips := [errand 2 .bike, errand 5 .car]
  let modes : TourModes := ⟨[.car, .walk], by decide, by decide⟩
  have computed : undecided.oracle.Computed := .logit (LogitRules.mk Number.notANumber id)
  have keeps : undecided.estimator.KeepsMode := Estimator.keepsMode_constant fun _ => some (1, 600)
  have found : TourModes.ofList (undecided.availability.modes (Agent.bare ⟨7⟩) trips) =
      .ok modes := by
    decide
  have second : ((undecided.history (Desk.fresh () ()) (Agent.bare ⟨7⟩) trips modes)[1]?.map
      fun stage => (stage.planned,
        undecided.selects (undecided.frameOf (Agent.bare ⟨7⟩) trips modes) stage,
        (undecided.searchAt (undecided.frameOf (Agent.bare ⟨7⟩) trips modes) stage).kept)) =
      some (errand 5 .car, true, none) := by
    decide +kernel
  rcases Option.map_eq_some_iff.1 second with ⟨stage, there, looks⟩
  simp only [Prod.mk.injEq] at looks
  rcases looks with ⟨planned, through, unkept⟩
  have among := List.mem_of_getElem? there
  rcases select_keeps_contract undecided (.computed computed) keeps (Desk.fresh () ())
    (Agent.bare ⟨7⟩) trips with ⟨_, _, exhausts⟩
  refine ⟨by decide +kernel, modes, stage, among, planned, ?_⟩
  exact (exhausts computed).2 modes found stage among ⟨through, unkept⟩ .walk (by decide)

end Model

end ModeChoice
