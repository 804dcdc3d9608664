import ModeChoice.Proofs.Audit.Trail
import ModeChoice.Proofs.Tour.Front

/-!
# The fallback policy

The policy for trips without a mode is consulted when there is such a trip, and
not before.  So models that differ in their policies alone go through the same
turns until the first trip that gets no mode.  If there is none, the selections
are the same; if there is one, they part at its turn, and a policy that lets the
tour go on puts the initial mode in this place and leaves alone what was chosen
earlier.
-/

namespace ModeChoice

namespace Model

variable {σ τ : Type}

/-- The model with another policy for trips without a mode. -/
def under (model : Model σ τ) (policy : Fallback) : Model σ τ :=
  { model with fallback := policy }

/-- The strict policy fails in the turn at a place, and the auditor has been told
of the trips before it. -/
structure FailsAt (model : Model σ τ) (desk : Desk σ τ) (agent : Agent) (trips : List Trip)
    (modes : TourModes) (place : Nat) (stage : Stage σ τ) : Prop where
  first : (model.under .exception).FirstStuck (model.frameOf agent trips modes)
    ((model.under .exception).history desk agent trips modes) place stage
  planned : trips[place]? = some stage.planned
  failed : ((model.under .exception).select desk agent trips).outcome =
    .error (.noFeasibleChoice agent.id stage.planned.index)
  about : (recordsOf ((model.under .exception).select desk agent trips).events).map
    SelectionRecord.tripIndices = (trips.take place).map fun trip => [trip.index]
  kept : (recordsOf ((model.under .exception).select desk agent trips).events).map
    SelectionRecord.selectedCandidate? = stage.progress.kept.map some

/-- What the selection under a policy has in common with the one that fails in
the turn at a place. -/
structure AgreesUntil (model : Model σ τ) (desk : Desk σ τ) (agent : Agent)
    (trips : List Trip) (place : Nat) (policy : Fallback) : Prop where
  /-- The earlier turns are the same in everything that happened. -/
  earlier : ((model.under policy).turnEvents desk agent trips).take place =
    ((model.under .exception).turnEvents desk agent trips).take place
  /-- All that happened up to the failure happens first. -/
  begins : ((model.under .exception).select desk agent trips).events <+:
    ((model.under policy).select desk agent trips).events

/-- The selection goes on from the turn at a place with the initial mode, and
what was kept before it stays. -/
structure Substitutes (model : Model σ τ) (agent : Agent) (stage : Stage σ τ)
    (place : Nat) (strict lenient : Selection σ τ) (kept : List Candidate) : Prop where
  succeeded : lenient.outcome = .ok kept
  /-- The candidates before the place are those that the other one had kept. -/
  earlier : kept.take place = stage.progress.kept
  /-- The trips up to the place have the same departures. -/
  dated : lenient.trips.take (place + 1) = strict.trips.take (place + 1)
  here : lenient.trips[place]? = some stage.trip
  substituted : kept[place]? = some
    (model.estimator.estimate agent stage.planned.initialMode stage.trip (kept.take place))

variable {model : Model σ τ} {frame : TourFrame}

theorem under_self {policy : Fallback} (given : model.fallback = policy) :
    model.under policy = model := by
  subst given
  rfl

/-- Which policy the model itself has does not matter to the comparison. -/
theorem FailsAt.of_under {policy : Fallback} {desk : Desk σ τ} {agent : Agent}
    {trips : List Trip} {modes : TourModes} {place : Nat} {stage : Stage σ τ}
    (fails : (model.under policy).FailsAt desk agent trips modes place stage) :
    model.FailsAt desk agent trips modes place stage :=
  ⟨fails.first, fails.planned, fails.failed, fails.about, fails.kept⟩

theorem AgreesUntil.of_under {policy other : Fallback} {desk : Desk σ τ} {agent : Agent}
    {trips : List Trip} {place : Nat}
    (agrees : (model.under policy).AgreesUntil desk agent trips place other) :
    model.AgreesUntil desk agent trips place other :=
  ⟨agrees.earlier, agrees.begins⟩

theorem Substitutes.of_under {policy : Fallback} {agent : Agent} {stage : Stage σ τ}
    {place : Nat} {strict lenient : Selection σ τ} {kept : List Candidate}
    (substitutes : (model.under policy).Substitutes agent stage place strict lenient kept) :
    model.Substitutes agent stage place strict lenient kept :=
  ⟨substitutes.succeeded, substitutes.earlier, substitutes.dated, substitutes.here,
    substitutes.substituted⟩

/-! ## Turns -/

/-- A turn that does not need the policy is the same under all. -/
theorem turnAt_under (policy : Fallback) {stage : Stage σ τ}
    (free : ¬ model.Stuck frame stage) :
    (model.under policy).turnAt frame stage = model.turnAt frame stage := by
  -- The last three courses consult the policy, and all of them need a stuck stage.
  have course := model.course_turnAt frame stage
  generalize model.turnAt frame stage = turn at course ⊢
  cases course with
  | leftOut out =>
      have same : (model.under policy).Course frame stage _ := .leftOut out
      exact same.eq_turnAt
  | chosen through found =>
      have same : (model.under policy).Course frame stage _ := .chosen through found
      exact same.eq_turnAt
  | fellBack stuck _ => exact absurd stuck free
  | reversed stuck _ => exact absurd stuck free
  | failed stuck _ => exact absurd stuck free

/-- The turn that needs the policy begins in the same way under all. -/
theorem turnAt_prefix_under (strict : model.fallback = .exception) (policy : Fallback)
    {stage : Stage σ τ} (stuck : model.Stuck frame stage) :
    (model.turnAt frame stage).events <+: ((model.under policy).turnAt frame stage).events := by
  have stuck' : (model.under policy).Stuck frame stage := stuck
  rw [turnAt_of_stuck stuck, strict, turnAt_of_stuck stuck']
  cases policy with
  | initialChoice => exact (List.prefix_append _ _).trans (List.prefix_append _ _)
  | ignoreAgent => exact List.prefix_append _ _
  | exception => exact List.prefix_rfl

/-! ## Walks -/

/-- A walk that comes to the end without the policy is the same under all. -/
theorem walk_under (strict : model.fallback ≠ .initialChoice) (policy : Fallback)
    {trips : List Trip} {progress after : Progress σ τ}
    (arrived : (model.walk frame trips progress).ending = .finished after) :
    (model.under policy).walk frame trips progress = model.walk frame trips progress ∧
      (model.under policy).stages frame trips progress = model.stages frame trips progress := by
  induction trips generalizing progress with
  | nil => exact ⟨rfl, rfl⟩
  | cons planned rest ih =>
      cases ending : (model.turnAt frame ⟨progress, planned⟩).ending with
      | stopped stop desk =>
          rw [walk_cons, ending] at arrived
          cases arrived
      | advanced next =>
          -- A stuck stage keeps nothing under this policy, but the tour went on here.
          have free : ¬ model.Stuck frame ⟨progress, planned⟩ := by
            rcases (model.course_turnAt frame ⟨progress, planned⟩).of_advanced ending with
              ⟨candidate, kept, _⟩
            intro stuck
            have nothing := keptAt_eq_none_iff.2 ⟨stuck, strict⟩
            cases nothing.symm.trans kept
          have same := turnAt_under policy free
          rw [walk_cons, ending] at arrived
          rcases ih arrived with ⟨walks, stages⟩
          constructor
          · rw [walk_cons, walk_cons, same, ending]
            simp only [walks]
          · simp only [Model.stages, same, ending, stages]

section Parting

/-! ## Where the policies part

The walk along `front` arrives, and the trip `planned` after it gets no mode. -/

variable {front rest : List Trip} {planned : Trip} {progress after : Progress σ τ}
  (strict : model.fallback = .exception)
  (arrived : (model.walk frame front progress).ending = .finished after)
  (stuck : model.Stuck frame ⟨after, planned⟩)

include strict arrived

theorem arrived_under (policy : Fallback) :
    ((model.under policy).walk frame front progress).ending = .finished after := by
  rw [(walk_under (by simp [strict]) policy arrived).1]
  exact arrived

theorem stages_front_under (policy : Fallback) :
    ((model.under policy).stages frame (front ++ planned :: rest) progress).take front.length =
      model.stages frame front progress := by
  rw [stages_append _ frame (arrived_under strict arrived policy),
    (walk_under (by simp [strict]) policy arrived).2]
  exact List.take_left' (model.length_stages frame arrived)

theorem stage_here_under (policy : Fallback) :
    ((model.under policy).stages frame (front ++ planned :: rest) progress)[front.length]? =
      some ⟨after, planned⟩ := by
  have length := model.length_stages frame arrived
  rw [stages_append _ frame (arrived_under strict arrived policy),
    (walk_under (by simp [strict]) policy arrived).2, ← length]
  simp [stages]

theorem not_stuck_front :
    ∀ stage ∈ model.stages frame front progress, ¬ model.Stuck frame stage :=
  (model.journey_walk frame front progress).not_stuck_of_finished arrived (by simp [strict])

theorem trips_under_take (policy : Fallback) :
    ((model.under policy).walk frame (front ++ planned :: rest) progress).trips.take
        (front.length + 1) =
      (model.walk frame front progress).trips ++ [(Stage.mk after planned).trip] := by
  have length := model.length_trips_walk frame front progress
  rcases (model.under policy).exists_trips_walk_cons frame planned rest after with
    ⟨others, trips⟩
  rw [walk_append _ frame (arrived_under strict arrived policy),
    (walk_under (by simp [strict]) policy arrived).1]
  simp only [trips, ← length, List.take_length_add_append]
  rfl

include stuck

/-- The auditor is told of the trips before the one without a mode, and of no
other. -/
theorem recordsOf_walk_of_stuck :
    recordsOf (model.walk frame (front ++ planned :: rest) progress).events =
      (model.stages frame front progress).map (model.decisionAt frame) := by
  have journey := model.journey_walk frame front progress
  have nothing : model.keptAt frame ⟨after, planned⟩ = none :=
    keptAt_eq_none_iff.2 ⟨stuck, by simp [strict]⟩
  have halted : recordsOf (model.walk frame (planned :: rest) after).events = [] := by
    rw [walk_cons, (turnAt_of_unkept nothing).1]
    exact (turnAt_of_unkept nothing).2
  rw [walk_append _ frame arrived, recordsOf_append, halted, List.append_nil,
    journey.recordsOf_eq, journey.decided_of_finished arrived]

theorem events_prefix_under (policy : Fallback) :
    (model.walk frame (front ++ planned :: rest) progress).events <+:
      ((model.under policy).walk frame (front ++ planned :: rest) progress).events := by
  have halted : (model.walk frame (planned :: rest) after).events =
      (model.turnAt frame ⟨after, planned⟩).events := by
    rw [walk_cons, turnAt_of_stuck stuck, strict]
  rw [walk_append _ frame arrived, walk_append _ frame (arrived_under strict arrived policy),
    (walk_under (by simp [strict]) policy arrived).1]
  apply (List.prefix_append_right_inj _).2
  rw [halted]
  exact (turnAt_prefix_under strict policy stuck).trans
    ((model.under policy).turnAt_events_prefix_walk frame planned rest after)

end Parting

variable (model frame) in
/-- A walk comes to the end, or to a trip that gets no mode. -/
theorem arrives_or_parts (trips : List Trip) (progress : Progress σ τ) :
    (∃ after, (model.walk frame trips progress).ending = .finished after) ∨
      ∃ front planned rest after, trips = front ++ planned :: rest ∧
        (model.walk frame front progress).ending = .finished after ∧
        model.Stuck frame ⟨after, planned⟩ := by
  cases ending : (model.walk frame trips progress).ending with
  | finished after => exact .inl ⟨after, rfl⟩
  | stopped stop trip last =>
      rcases model.exists_front_of_stopped frame ending with
        ⟨front, planned, rest, after, parts, arrived, halted, _⟩
      have stuck := ((model.course_turnAt frame _).of_stopped halted).1
      exact .inr ⟨front, planned, rest, after, parts, arrived, stuck⟩

/-! ## Selections that part -/

section Selections

variable {desk : Desk σ τ} {agent : Agent} {front rest : List Trip} {planned : Trip}
  {modes : TourModes} {after : Progress σ τ}
  (found : TourModes.ofList (model.availability.modes agent (front ++ planned :: rest)) =
    .ok modes)
  (strict : model.fallback = .exception)
  (arrived : (model.walk (model.frameOf agent (front ++ planned :: rest) modes) front
    (model.begin agent desk)).ending = .finished after)
  (stuck : model.Stuck (model.frameOf agent (front ++ planned :: rest) modes) ⟨after, planned⟩)

include found strict arrived

theorem turnEvents_take_under (policy : Fallback) :
    ((model.under policy).turnEvents desk agent (front ++ planned :: rest)).take front.length =
      (model.stages (model.frameOf agent (front ++ planned :: rest) modes) front
        (model.begin agent desk)).map fun stage =>
          (model.turnAt (model.frameOf agent (front ++ planned :: rest) modes) stage).events := by
  have found' : TourModes.ofList ((model.under policy).availability.modes agent
    (front ++ planned :: rest)) = .ok modes := found
  have earlier : ((model.under policy).history desk agent (front ++ planned :: rest) modes).take
      front.length = _ := stages_front_under strict arrived policy
  rw [turnEvents_of_found found', ← List.map_take, earlier]
  apply List.map_congr_left
  intro stage among
  have free := not_stuck_front strict arrived stage among
  exact congrArg Turn.events (turnAt_under policy free)

include stuck

/-- The strict policy ends the selection there. -/
theorem select_of_stuck :
    model.select desk agent (front ++ planned :: rest) =
      { outcome := .error (.noFeasibleChoice agent.id planned.index)
        trips := (model.walk (model.frameOf agent (front ++ planned :: rest) modes)
          (front ++ planned :: rest) (model.begin agent desk)).trips
        desk := (model.searched (model.frameOf agent (front ++ planned :: rest) modes)
          ⟨after, planned⟩).desk
        events := (model.walk (model.frameOf agent (front ++ planned :: rest) modes)
          (front ++ planned :: rest) (model.begin agent desk)).events } := by
  have ending : (model.walk (model.frameOf agent (front ++ planned :: rest) modes)
      (front ++ planned :: rest) (model.begin agent desk)).ending =
        .stopped .failure (Stage.mk after planned).trip
          (model.searched (model.frameOf agent (front ++ planned :: rest) modes)
            ⟨after, planned⟩).desk := by
    rw [walk_append _ _ arrived, walk_cons, turnAt_of_stuck stuck, strict]
  rw [model.select_of_found desk found, ending]
  rfl

theorem failsAt_of_stuck :
    model.FailsAt desk agent (front ++ planned :: rest) modes front.length ⟨after, planned⟩ := by
  have same : model.under .exception = model := under_self strict
  have journey := model.journey_walk (model.frameOf agent (front ++ planned :: rest) modes) front
    (model.begin agent desk)
  have earlier : ((model.under .exception).history desk agent (front ++ planned :: rest)
      modes).take front.length = _ := stages_front_under strict arrived .exception
  have records : recordsOf (model.walk (model.frameOf agent (front ++ planned :: rest) modes)
      (front ++ planned :: rest) (model.begin agent desk)).events = _ :=
    recordsOf_walk_of_stuck strict arrived stuck
  have selected := select_of_stuck found strict arrived stuck
  rcases journey.of_finished arrived with ⟨length, kept, final, all⟩
  constructor
  · refine ⟨stage_here_under strict arrived .exception, ?_, ?_⟩
    · rwa [same]
    · rw [earlier, same]
      exact not_stuck_front strict arrived
  · simp
  · rw [same, selected]
  · have before : front =
        (model.stages (model.frameOf agent (front ++ planned :: rest) modes) front
          (model.begin agent desk)).map Stage.planned := by
      rw [journey.planned_eq, length, List.take_length]
    rw [same, selected, records, List.take_left' rfl, List.map_map]
    conv_rhs => rw [before, List.map_map]
    rfl
  · rw [same, selected, records, ← journey.decided_of_finished arrived,
      map_selectedCandidate?_decided, filterMap_keptAt all, final]
    rfl

theorem agreesUntil_of_stuck (policy : Fallback) :
    model.AgreesUntil desk agent (front ++ planned :: rest) front.length policy := by
  have same : model.under .exception = model := under_self strict
  have found' : TourModes.ofList ((model.under policy).availability.modes agent
    (front ++ planned :: rest)) = .ok modes := found
  constructor
  · rw [turnEvents_take_under found strict arrived policy,
      turnEvents_take_under found strict arrived .exception]
  · rw [same, select_of_stuck found strict arrived stuck]
    exact (events_prefix_under strict arrived stuck policy).trans
      (walk_events_prefix_select found')

/-- The policy that keeps initial modes goes on where the strict one fails. -/
theorem exists_substitutes_of_stuck :
    ∃ kept, model.Substitutes agent ⟨after, planned⟩ front.length
      (model.select desk agent (front ++ planned :: rest))
      ((model.under .initialChoice).select desk agent (front ++ planned :: rest)) kept := by
  have found' : TourModes.ofList ((model.under .initialChoice).availability.modes agent
    (front ++ planned :: rest)) = .ok modes := found
  have stuck' : (model.under .initialChoice).Stuck
    (model.frameOf agent (front ++ planned :: rest) modes) ⟨after, planned⟩ := stuck
  have journey := (model.under .initialChoice).journey_walk
    (model.frameOf agent (front ++ planned :: rest) modes) (front ++ planned :: rest)
    (model.begin agent desk)
  rcases (model.under .initialChoice).exists_finished_of_unstuck
    (model.frameOf agent (front ++ planned :: rest) modes) (.inl rfl) with ⟨final, finished⟩
  have selected := (model.under .initialChoice).select_of_finished desk found' finished
  have failed := select_of_stuck found strict arrived stuck
  have dated (policy : Fallback) : ((model.under policy).walk
      (model.frameOf agent (front ++ planned :: rest) modes) (front ++ planned :: rest)
      (model.begin agent desk)).trips.take (front.length + 1) = _ :=
    trips_under_take strict arrived policy
  have lenient := dated .initialChoice
  have severe := dated .exception
  rw [under_self strict] at severe
  rcases journey.kept_of_stage rfl finished (stage_here_under strict arrived .initialChoice) with
    ⟨candidate, there, keeps, prior⟩
  have initial := (keptAt_of_stuck stuck').trans (if_pos rfl)
  cases keeps.symm.trans initial
  refine ⟨final.kept, congrArg Selection.outcome selected, prior.symm, ?_, ?_, ?_⟩
  · rw [selected, failed]
    exact lenient.trans severe.symm
  · have length := model.length_trips_walk
      (model.frameOf agent (front ++ planned :: rest) modes) front (model.begin agent desk)
    rw [selected, ← List.getElem?_take_of_lt (Nat.lt_succ_self front.length)]
    refine (congrArg (fun trips => trips[front.length]?) lenient).trans ?_
    simp [← length]
  · rw [there, ← prior]
    rfl

end Selections

/-! ## All selections -/

section Outcomes

variable {desk : Desk σ τ} {agent : Agent} {trips : List Trip} {modes : TourModes}
  (found : TourModes.ofList (model.availability.modes agent trips) = .ok modes)

include found

theorem select_under_of_finished (strict : model.fallback = .exception) {after : Progress σ τ}
    (finished : (model.walk (model.frameOf agent trips modes) trips
      (model.begin agent desk)).ending = .finished after) (policy : Fallback) :
    (model.under policy).select desk agent trips = model.select desk agent trips := by
  have same : (model.under policy).walk ((model.under policy).frameOf agent trips modes) trips
      ((model.under policy).begin agent desk) =
      model.walk (model.frameOf agent trips modes) trips (model.begin agent desk) :=
    (walk_under (by simp [strict]) policy finished).1
  rw [(model.under policy).select_of_found desk found, model.select_of_found desk found, same,
    finished]

theorem finished_of_succeeded (strict : model.fallback = .exception) {kept : List Candidate}
    (succeeded : (model.select desk agent trips).outcome = .ok kept) :
    ∃ after, (model.walk (model.frameOf agent trips modes) trips
      (model.begin agent desk)).ending = .finished after := by
  rcases model.arrives_or_parts (model.frameOf agent trips modes) trips
      (model.begin agent desk) with
    finished | ⟨front, planned, rest, after, rfl, arrived, stuck⟩
  · exact finished
  · rw [select_of_stuck found strict arrived stuck] at succeeded
    cases succeeded

theorem parts_of_failed {error : ChoiceError}
    (failed : (model.select desk agent trips).outcome = .error error) :
    ∃ front planned rest after, trips = front ++ planned :: rest ∧
      (model.walk (model.frameOf agent trips modes) front
        (model.begin agent desk)).ending = .finished after ∧
      model.Stuck (model.frameOf agent trips modes) ⟨after, planned⟩ := by
  rcases model.arrives_or_parts (model.frameOf agent trips modes) trips
      (model.begin agent desk) with
    ⟨after, finished⟩ | parting
  · rw [model.select_of_finished desk found finished] at failed
    cases failed
  · exact parting

end Outcomes

/-- The policy for trips without a mode shows in nothing before the first such
trip.  Where the strict policy succeeds, and where the traveller has no mode at
all, every policy gives the same selection, down to the events.  Where it fails
at a trip, the turns of all earlier trips and the events up to the failure are
the same under every policy; and the policy that keeps initial modes keeps what
was chosen earlier, and estimates the initial mode of that trip after it. -/
theorem select_under_agrees (model : Model σ τ) (desk : Desk σ τ) (agent : Agent)
    (trips : List Trip) :
    let strict := (model.under .exception).select desk agent trips
    (∀ kept, strict.outcome = .ok kept →
      ∀ policy, (model.under policy).select desk agent trips = strict) ∧
    (model.availability.modes agent trips = [] →
      ∀ policy, (model.under policy).select desk agent trips = strict) ∧
    ∀ modes, TourModes.ofList (model.availability.modes agent trips) = .ok modes →
      ∀ error, strict.outcome = .error error →
        ∃ place stage, model.FailsAt desk agent trips modes place stage ∧
          (∀ policy, model.AgreesUntil desk agent trips place policy) ∧
          ∃ kept, model.Substitutes agent stage place strict
            ((model.under .initialChoice).select desk agent trips) kept := by
  intro strict
  have policies : (model.under .exception).fallback = .exception := rfl
  have barren (nothing : model.availability.modes agent trips = []) (policy : Fallback) :
      (model.under policy).select desk agent trips = strict :=
    ((model.under policy).select_of_barren desk nothing).trans
      ((model.under .exception).select_of_barren desk nothing).symm
  refine ⟨?_, barren, ?_⟩
  · intro kept succeeded policy
    cases found : TourModes.ofList ((model.under .exception).availability.modes agent trips) with
    | error error => exact barren (TourModes.ofList_eq_error_iff.1 found).1 policy
    | ok modes =>
        rcases finished_of_succeeded found policies succeeded with ⟨after, finished⟩
        exact select_under_of_finished found policies finished policy
  · intro modes found error failed
    have found' : TourModes.ofList ((model.under .exception).availability.modes agent trips) =
      .ok modes := found
    rcases parts_of_failed found' failed with
      ⟨front, planned, rest, after, rfl, arrived, stuck⟩
    have fails := failsAt_of_stuck found' policies arrived stuck
    have agrees := agreesUntil_of_stuck found' policies arrived stuck
    rcases exists_substitutes_of_stuck found' policies arrived stuck with
      ⟨kept, substitutes⟩
    exact ⟨front.length, ⟨after, planned⟩, fails.of_under, fun policy => (agrees policy).of_under,
      kept, substitutes.of_under⟩

/-- With the first errand alone no policy is needed.  With both, the strict
policy fails at the second one, and the policy that keeps initial modes keeps
the walk of the first. -/
theorem strict_parts_at_second_errand :
    (∀ policy, ((strict .ignoreAgent).under policy).select (Desk.fresh () ())
        (Agent.bare ⟨7⟩) [errand 2 .bike] =
      (strict .exception).select (Desk.fresh () ()) (Agent.bare ⟨7⟩) [errand 2 .bike]) ∧
    ∃ modes place stage kept,
      (strict .ignoreAgent).FailsAt (Desk.fresh () ()) (Agent.bare ⟨7⟩)
        [errand 2 .bike, errand 5 .car] modes place stage ∧
      stage.planned.index = 5 ∧
      (∀ policy, (strict .ignoreAgent).AgreesUntil (Desk.fresh () ()) (Agent.bare ⟨7⟩)
        [errand 2 .bike, errand 5 .car] place policy) ∧
      (strict .ignoreAgent).Substitutes (Agent.bare ⟨7⟩) stage place
        (strictSelection .exception) (strictSelection .initialChoice) kept ∧
      kept = [Candidate.make .walk 1 600, Candidate.make .car 1 600] := by
  have alone := select_under_agrees (strict .ignoreAgent) (Desk.fresh () ()) (Agent.bare ⟨7⟩)
    [errand 2 .bike]
  have both := select_under_agrees (strict .ignoreAgent) (Desk.fresh () ()) (Agent.bare ⟨7⟩)
    [errand 2 .bike, errand 5 .car]
  have succeeded : ((strict .exception).select (Desk.fresh () ()) (Agent.bare ⟨7⟩)
      [errand 2 .bike]).outcome = .ok [Candidate.make .walk 1 600] := by
    decide +kernel
  have failed : (strictSelection .exception).outcome = .error (.noFeasibleChoice ⟨7⟩ 5) := by
    decide +kernel
  have lenient : (strictSelection .initialChoice).outcome =
      .ok [Candidate.make .walk 1 600, Candidate.make .car 1 600] := by
    decide +kernel
  let modes : TourModes := ⟨[.car, .walk], by decide, by decide⟩
  have found : TourModes.ofList ((strict .ignoreAgent).availability.modes (Agent.bare ⟨7⟩)
      [errand 2 .bike, errand 5 .car]) = .ok modes := by
    decide
  refine ⟨alone.1 _ succeeded, ?_⟩
  rcases both.2.2 modes found _ failed with ⟨place, stage, fails, agrees, kept, substitutes⟩
  refine ⟨modes, place, stage, kept, fails, ?_, agrees, substitutes, ?_⟩
  · have told := fails.failed.symm.trans failed
    injection told with told
    injection told
  · exact Except.ok.inj (substitutes.succeeded.symm.trans lenient)

end Model

end ModeChoice
