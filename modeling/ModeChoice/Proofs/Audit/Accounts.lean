import ModeChoice.Proofs.Audit.Trail

/-!
# What the records account for

A record has the candidates that were estimated for its trip, so the estimates of a
selection can be held against its records.  They agree, in order and one for one, as long
as every trip gets a candidate.  A trip without a mode stops the tour before the auditor
is told of it, unless the policy lets it keep its initial mode; what the retry loop has
estimated for it by then is in no record.
-/

namespace ModeChoice

/-- The candidates of records, in order. -/
def candidatesOf (records : List SelectionRecord) : List Candidate :=
  records.flatMap SelectionRecord.candidates

@[simp]
theorem candidatesOf_append (first second : List SelectionRecord) :
    candidatesOf (first ++ second) = candidatesOf first ++ candidatesOf second :=
  List.flatMap_append

@[simp]
theorem candidatesOf_singleton (record : SelectionRecord) :
    candidatesOf [record] = record.candidates := by
  simp [candidatesOf]

namespace Model

variable {σ τ : Type}

/-- What was estimated at stages that keep nothing. -/
def unrecorded (model : Model σ τ) (frame : TourFrame) (stages : List (Stage σ τ)) :
    List Candidate :=
  (stages.filter fun stage => (model.keptAt frame stage).isNone).flatMap
    (model.evaluatedAt frame)

/-- How the estimates of a selection stand to its records. -/
structure Accounts (model : Model σ τ) (desk : Desk σ τ) (agent : Agent)
    (trips : List Trip) (selection : Selection σ τ) : Prop where
  barren : model.availability.modes agent trips = [] →
    estimatesOf selection.events = [] ∧ recordsOf selection.events = []
  /-- First comes what the decided trips account for, then what is lost with the trip at
  which the tour stopped, and then what the record about a tour sent back accounts for. -/
  estimates : ∀ modes, TourModes.ofList (model.availability.modes agent trips) = .ok modes →
    ∃ closing,
      recordsOf selection.events =
        (model.decided (model.frameOf agent trips modes)
          (model.history desk agent trips modes)).map
            (model.decisionAt (model.frameOf agent trips modes)) ++ closing ∧
      (∀ record ∈ closing, record.selected = .all) ∧
      estimatesOf selection.events =
        candidatesOf ((model.decided (model.frameOf agent trips modes)
          (model.history desk agent trips modes)).map
            (model.decisionAt (model.frameOf agent trips modes))) ++
        model.unrecorded (model.frameOf agent trips modes)
          (model.history desk agent trips modes) ++
        candidatesOf closing
  /-- The records account for all estimates if the policy lets every trip keep something,
  or if nothing was estimated for the trips without a mode. -/
  complete_iff : ∀ modes,
    TourModes.ofList (model.availability.modes agent trips) = .ok modes →
      (estimatesOf selection.events = candidatesOf (recordsOf selection.events) ↔
        model.fallback = .initialChoice ∨
          ∀ stage ∈ model.history desk agent trips modes,
            model.Stuck (model.frameOf agent trips modes) stage →
              (model.searchAt (model.frameOf agent trips modes) stage).evaluated = [])
  /-- Nothing but rejected candidates is lost. -/
  lost : ∀ modes, TourModes.ofList (model.availability.modes agent trips) = .ok modes →
    ∀ candidate ∈ model.unrecorded (model.frameOf agent trips modes)
        (model.history desk agent trips modes),
      ∃ stage ∈ model.history desk agent trips modes,
        model.Stuck (model.frameOf agent trips modes) stage ∧
          (model.encounterAt (model.frameOf agent trips modes) stage).Rejects candidate

variable {model : Model σ τ} {frame : TourFrame}

/-! ## One turn -/

theorem estimatesOf_searchAt (stage : Stage σ τ) :
    estimatesOf (model.searchAt frame stage).events =
      (model.searchAt frame stage).evaluated :=
  (model.rounds_searchAt frame stage).evaluated_eq.symm

/-- A turn that goes on has estimated what it decides among. -/
theorem estimatesOf_turnAt_of_kept {stage : Stage σ τ} {candidate : Candidate}
    (kept : model.keptAt frame stage = some candidate) :
    estimatesOf (model.turnAt frame stage).events = model.consideredAt frame stage := by
  have course := model.course_turnAt frame stage
  generalize model.turnAt frame stage = turn at course ⊢
  cases course with
  | leftOut out =>
      rw [consideredAt_of_out out]
      rfl
  | chosen through found =>
      rw [consideredAt_of_found through found, estimatesOf_append, estimatesOf_append,
        estimatesOf_searchAt]
      exact List.append_nil _
  | fellBack stuck policy =>
      rw [consideredAt_of_stuck stuck, keepInitial, estimatesOf_append, estimatesOf_append,
        estimatesOf_append, estimatesOf_searchAt]
      simp only [estimatesOf, List.filterMap_cons, List.filterMap_nil, Event.estimate?, pending,
        List.nil_append, List.append_nil]
      rfl
  | reversed stuck policy =>
      have nothing := keptAt_eq_none_iff.2 ⟨stuck, by simp [policy]⟩
      cases nothing.symm.trans kept
  | failed stuck policy =>
      have nothing := keptAt_eq_none_iff.2 ⟨stuck, by simp [policy]⟩
      cases nothing.symm.trans kept

/-- A turn that stops the tour has estimated what its retry loop did. -/
theorem estimatesOf_turnAt_of_unkept {stage : Stage σ τ}
    (nothing : model.keptAt frame stage = none) :
    estimatesOf (model.turnAt frame stage).events = model.evaluatedAt frame stage := by
  rcases keptAt_eq_none_iff.1 nothing with ⟨stuck, policy⟩
  have tried : estimatesOf ([pending stage] ++ (model.searchAt frame stage).events) =
      model.evaluatedAt frame stage := by
    rw [estimatesOf_append, estimatesOf_searchAt, evaluatedAt, if_pos stuck.1]
    rfl
  rw [turnAt_of_stuck stuck]
  cases given : model.fallback with
  | initialChoice => exact absurd given policy
  | ignoreAgent =>
      rw [estimatesOf_append, tried]
      exact List.append_nil _
  | exception => exact tried

/-! ## A walk -/

theorem unrecorded_cons_of_kept {stage : Stage σ τ} {candidate : Candidate}
    (kept : model.keptAt frame stage = some candidate) (stages : List (Stage σ τ)) :
    model.unrecorded frame (stage :: stages) = model.unrecorded frame stages := by
  simp [unrecorded, kept]

theorem unrecorded_eq_nil_iff {stages : List (Stage σ τ)} :
    model.unrecorded frame stages = [] ↔
      model.fallback = .initialChoice ∨
        ∀ stage ∈ stages, model.Stuck frame stage →
          (model.searchAt frame stage).evaluated = [] := by
  simp only [unrecorded, List.flatMap_eq_nil_iff, List.mem_filter, Option.isNone_iff_eq_none,
    keptAt_eq_none_iff, and_imp]
  constructor
  · intro nothing
    by_cases policy : model.fallback = .initialChoice
    · exact .inl policy
    · right
      intro stage among stuck
      have lost := nothing stage among stuck policy
      rwa [evaluatedAt, if_pos stuck.1] at lost
  · rintro (lenient | nothing) stage among stuck policy
    · exact absurd lenient policy
    · rw [evaluatedAt, if_pos stuck.1]
      exact nothing stage among stuck

/-- Where the loop of a trip without a mode has estimated anything, it was rejected. -/
theorem rejects_of_mem_unrecorded {stages : List (Stage σ τ)} {candidate : Candidate}
    (lost : candidate ∈ model.unrecorded frame stages) :
    ∃ stage ∈ stages, model.Stuck frame stage ∧
      (model.encounterAt frame stage).Rejects candidate := by
  rcases List.mem_flatMap.1 lost with ⟨stage, unkept, estimated⟩
  rcases List.mem_filter.1 unkept with ⟨among, nothing⟩
  have stuck := (keptAt_eq_none_iff.1 (Option.isNone_iff_eq_none.1 nothing)).1
  have unfound : model.foundAt frame stage = none := by
    rw [foundAt, if_pos stuck.1]
    exact stuck.2
  rcases model.evaluatedAt_split frame stage with ⟨rejected, split, all⟩
  rw [split, unfound, Option.toList_none, List.append_nil] at estimated
  exact ⟨stage, among, stuck, all candidate estimated⟩

namespace Journey

variable {trips : List Trip} {progress : Progress σ τ} {stages : List (Stage σ τ)}
  {walk : Walk σ τ}

/-- Along a walk the records and the estimates run in step; only the turn that stops the
tour adds estimates and no record. -/
theorem estimatesOf_eq (journey : model.Journey frame trips progress stages walk) :
    estimatesOf walk.events =
      candidatesOf (recordsOf walk.events) ++ model.unrecorded frame stages := by
  induction journey with
  | arrived => rfl
  | @onward planned rest progress after stages walk advanced tail ih =>
      rcases (model.course_turnAt frame ⟨progress, planned⟩).of_advanced advanced with
        ⟨candidate, kept, _⟩
      rw [estimatesOf_append, recordsOf_append, estimatesOf_turnAt_of_kept kept,
        (turnAt_of_kept kept).2, unrecorded_cons_of_kept kept, candidatesOf_append, ih,
        candidatesOf_singleton, List.append_assoc]
      rfl
  | @halted planned rest progress stop desk stopped =>
      have nothing := (model.course_turnAt frame ⟨progress, planned⟩).keptAt_of_stopped stopped
      rw [estimatesOf_turnAt_of_unkept nothing, (turnAt_of_unkept nothing).2]
      simp [unrecorded, nothing, candidatesOf]

end Journey

theorem estimatesOf_baseline (model : Model σ τ) (agent : Agent) (trips : List Trip)
    (clock : Clock) (prior : List Candidate) :
    estimatesOf (model.baseline agent trips clock prior).events =
      (model.baseline agent trips clock prior).candidates := by
  induction trips generalizing clock prior with
  | nil => rfl
  | cons planned rest ih => exact congrArg (List.cons _) (ih _ _)

/-! ## A whole selection -/

section Selections

variable {desk : Desk σ τ} {agent : Agent} {trips : List Trip} {modes : TourModes}
  {walk : Walk σ τ} {selection : Selection σ τ}
  (found : TourModes.ofList (model.availability.modes agent trips) = .ok modes)
  (journey : model.Journey (model.frameOf agent trips modes) trips (model.begin agent desk)
    (model.history desk agent trips modes) walk)

include found journey

/-- Whatever comes after the walk has to balance in itself. -/
theorem accounts_of_closing {closing : List SelectionRecord}
    (records : recordsOf selection.events = recordsOf walk.events ++ closing)
    (estimates : estimatesOf selection.events =
      estimatesOf walk.events ++ candidatesOf closing)
    (whole : ∀ record ∈ closing, record.selected = .all) :
    model.Accounts desk agent trips selection where
  barren nothing := absurd nothing (modes_ne_nil_of_found found)
  estimates given same := by
    cases found.symm.trans same
    refine ⟨closing, ?_, whole, ?_⟩
    · rw [records, journey.recordsOf_eq]
    · rw [estimates, journey.estimatesOf_eq, journey.recordsOf_eq]
  complete_iff given same := by
    cases found.symm.trans same
    rw [records, estimates, journey.estimatesOf_eq, candidatesOf_append,
      ← unrecorded_eq_nil_iff]
    simp
  lost given same candidate missing := by
    cases found.symm.trans same
    exact rejects_of_mem_unrecorded missing

theorem accounts_of_walked (same : selection.events = walk.events) :
    model.Accounts desk agent trips selection := by
  have records : recordsOf selection.events = recordsOf walk.events ++ [] := by
    rw [same, List.append_nil]
  have estimates : estimatesOf selection.events =
      estimatesOf walk.events ++ candidatesOf [] := by
    rw [same]
    exact (List.append_nil _).symm
  exact accounts_of_closing found journey records estimates (by simp)

/-- The tour is estimated once more, and the closing record has all of that. -/
theorem accounts_of_reverted (last : Desk σ τ) :
    model.Accounts desk agent trips (model.revert agent walk last) := by
  rcases model.recordsOf_revert agent walk last with
    ⟨record, records, outcome, _, _, selected⟩
  have again : (model.baseline agent walk.trips (Clock.midnight model.interpretation)
      []).candidates = record.candidates :=
    Except.ok.inj outcome
  apply accounts_of_closing found journey records
  · rw [revert, estimatesOf_append, estimatesOf_append, estimatesOf_baseline, again,
      candidatesOf_singleton]
    exact List.append_nil _
  · simp [selected]

end Selections

/-- The records of any selection account for its estimates in order and one for one, but
for those of a trip at which the policy stops the tour. -/
theorem select_accounts_for_estimates (model : Model σ τ) (desk : Desk σ τ) (agent : Agent)
    (trips : List Trip) :
    model.Accounts desk agent trips (model.select desk agent trips) := by
  have course := model.selectionCourse_select desk agent trips
  generalize model.select desk agent trips = selection at course ⊢
  cases course with
  | barren nothing =>
      exact {
        barren := fun _ => ⟨rfl, rfl⟩
        estimates := fun _ found => absurd nothing (modes_ne_nil_of_found found)
        complete_iff := fun _ found => absurd nothing (modes_ne_nil_of_found found)
        lost := fun _ found => absurd nothing (modes_ne_nil_of_found found) }
  | completed found journey finished => exact accounts_of_walked found journey rfl
  | reverted found journey stopped => exact accounts_of_reverted found journey _
  | failed found journey stopped => exact accounts_of_walked found journey rfl

/-- The policy that keeps initial modes loses nothing, although the second errand gets no
mode. -/
theorem strict_accounts_for_all :
    estimatesOf (strictSelection .initialChoice).events =
      candidatesOf (recordsOf (strictSelection .initialChoice).events) := by
  have accounts := select_accounts_for_estimates (strict .initialChoice) (Desk.fresh () ())
    (Agent.bare ⟨7⟩) [errand 2 .bike, errand 5 .car]
  let modes : TourModes := ⟨[.car, .walk], by decide, by decide⟩
  have found : TourModes.ofList ((strict .initialChoice).availability.modes (Agent.bare ⟨7⟩)
      [errand 2 .bike, errand 5 .car]) = .ok modes := by
    decide
  exact (accounts.complete_iff modes found).2 (.inl rfl)

/-- Both modes of the second errand are estimated and rejected, and under the policies that
stop the tour there no record has them. -/
theorem strict_loses_second_errand :
    (estimatesOf (strictSelection .exception).events).map Candidate.mode =
        [.car, .walk, .car, .walk] ∧
      (candidatesOf (recordsOf (strictSelection .exception).events)).map Candidate.mode =
        [.car, .walk] ∧
      (estimatesOf (strictSelection .ignoreAgent).events).map Candidate.mode =
        [.car, .walk, .car, .walk, .bike, .car] ∧
      (candidatesOf (recordsOf (strictSelection .ignoreAgent).events)).map Candidate.mode =
        [.car, .walk, .bike, .car] := by
  decide +kernel

end Model

end ModeChoice
