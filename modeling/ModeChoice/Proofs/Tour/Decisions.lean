import ModeChoice.Proofs.Retry.Estimates
import ModeChoice.Proofs.Tour.Stages

/-!
# What a turn decides

A turn that goes on does one thing, whatever the reason: it keeps a candidate
after some were considered, of which the kept one is the last.  A turn that
stops the tour keeps nothing and records nothing.
-/

namespace ModeChoice

@[simp]
theorem Stage.index_trip {σ τ : Type} (stage : Stage σ τ) :
    stage.trip.index = stage.planned.index := rfl

namespace Model

variable {σ τ : Type} (model : Model σ τ) (frame : TourFrame)

/-- What the retry loop finds at a stage, if the filter lets the trip through. -/
def foundAt (stage : Stage σ τ) : Option Candidate :=
  if model.selects frame stage then (model.searchAt frame stage).kept else none

/-- What the retry loop estimates at a stage, if the filter lets the trip
through. -/
def evaluatedAt (stage : Stage σ τ) : List Candidate :=
  if model.selects frame stage then (model.searchAt frame stage).evaluated else []

/-- The progress of a stage after its retry loop, if it has one. -/
def triedAt (stage : Stage σ τ) : Progress σ τ :=
  if model.selects frame stage then model.searched frame stage else stage.progress

/-- The candidates among which a stage decides: what the retry loop estimates,
and the initial mode where that leads to nothing. -/
def consideredAt (stage : Stage σ τ) : List Candidate :=
  model.evaluatedAt frame stage ++
    if (model.foundAt frame stage).isSome then [] else [model.initialAt frame stage]

/-- What the auditor is told about a stage. -/
def decisionAt (stage : Stage σ τ) : SelectionRecord where
  agent := frame.agent.id
  tripIndices := [stage.planned.index]
  selection := stage.progress.desk.nextSelection
  candidates := model.consideredAt frame stage
  selected := .at ((model.consideredAt frame stage).length - 1)

theorem rounds_searchAt (stage : Stage σ τ) :
    (model.encounterAt frame stage).Rounds model.oracle frame.modes.candidates
      stage.progress.desk.oracle stage.progress.random (model.searchAt frame stage) :=
  (model.encounterAt frame stage).rounds_search _ _ _ _

variable {model frame}

/-! ## The turn of a stage -/

theorem turnAt_of_through {stage : Stage σ τ} (through : model.selects frame stage = true) :
    model.turnAt frame stage =
      model.chooseTurn frame stage.progress stage.clock stage.trip [pending stage] :=
  if_pos through

theorem turnAt_of_stuck {stage : Stage σ τ} (stuck : model.Stuck frame stage) :
    model.turnAt frame stage =
      match model.fallback with
      | .initialChoice =>
          model.keepInitial frame (model.searched frame stage) stage.clock stage.trip
            (model.searchAt frame stage).evaluated
            ([pending stage] ++ (model.searchAt frame stage).events ++
              [.fellBack stage.planned.index stage.planned.initialMode])
      | .ignoreAgent =>
          { trip := stage.trip
            ending := .stopped .reversal (model.searched frame stage).desk
            events := [pending stage] ++ (model.searchAt frame stage).events ++
              [.reverted stage.planned.index] }
      | .exception =>
          { trip := stage.trip
            ending := .stopped .failure (model.searched frame stage).desk
            events := [pending stage] ++ (model.searchAt frame stage).events } := by
  rw [turnAt_of_through stuck.1, chooseTurn]
  dsimp only
  split
  · rename_i candidate found
    cases found.symm.trans stuck.2
  · rfl

/-- How a turn goes is settled by its stage. -/
theorem Course.eq_turnAt {stage : Stage σ τ} {turn : Turn σ τ}
    (course : model.Course frame stage turn) : model.turnAt frame stage = turn := by
  cases course with
  | leftOut out => exact if_neg (ne_true_of_eq_false out)
  | chosen through found =>
      rw [turnAt_of_through through, chooseTurn]
      dsimp only
      split
      · rename_i candidate found'
        cases found.symm.trans found'
        rfl
      · rename_i unfound
        cases found.symm.trans unfound
  | fellBack stuck policy => rw [turnAt_of_stuck stuck, policy]
  | reversed stuck policy => rw [turnAt_of_stuck stuck, policy]
  | failed stuck policy => rw [turnAt_of_stuck stuck, policy]

/-! ## What it keeps -/

section Keeping

variable {stage : Stage σ τ}

theorem triedAt_of_out (out : model.selects frame stage = false) :
    model.triedAt frame stage = stage.progress := by
  simp [triedAt, out]

theorem triedAt_of_through (through : model.selects frame stage = true) :
    model.triedAt frame stage = model.searched frame stage := by
  simp [triedAt, through]

@[simp]
theorem auditor_triedAt (stage : Stage σ τ) :
    (model.triedAt frame stage).desk.auditor = stage.progress.desk.auditor := by
  cases through : model.selects frame stage with
  | false => rw [triedAt_of_out through]
  | true => rw [triedAt_of_through through]; rfl

@[simp]
theorem nextSelection_triedAt (stage : Stage σ τ) :
    (model.triedAt frame stage).desk.nextSelection = stage.progress.desk.nextSelection := by
  cases through : model.selects frame stage with
  | false => rw [triedAt_of_out through]
  | true => rw [triedAt_of_through through]; rfl

theorem consideredAt_of_out (out : model.selects frame stage = false) :
    model.consideredAt frame stage = [model.initialAt frame stage] := by
  simp [consideredAt, evaluatedAt, foundAt, out]

theorem consideredAt_of_found {candidate : Candidate}
    (through : model.selects frame stage = true)
    (found : (model.searchAt frame stage).kept = some candidate) :
    model.consideredAt frame stage = (model.searchAt frame stage).evaluated := by
  simp [consideredAt, evaluatedAt, foundAt, through, found]

theorem consideredAt_of_stuck (stuck : model.Stuck frame stage) :
    model.consideredAt frame stage =
      (model.searchAt frame stage).evaluated ++ [model.initialAt frame stage] := by
  simp [consideredAt, evaluatedAt, foundAt, stuck.1, stuck.2]

theorem keptAt_of_foundAt {candidate : Candidate}
    (found : model.foundAt frame stage = some candidate) :
    model.keptAt frame stage = some candidate := by
  cases through : model.selects frame stage with
  | false => simp [foundAt, through] at found
  | true =>
      rw [foundAt, if_pos through] at found
      exact keptAt_of_found through found

/-- Where the loop finds nothing, only the initial mode can be kept. -/
theorem eq_initialAt_of_unfound {candidate : Candidate}
    (unfound : model.foundAt frame stage = none)
    (kept : model.keptAt frame stage = some candidate) :
    candidate = model.initialAt frame stage := by
  cases through : model.selects frame stage with
  | false => exact Option.some.inj (kept.symm.trans (keptAt_of_out through))
  | true =>
      rw [foundAt, if_pos through] at unfound
      rw [keptAt_of_stuck ⟨through, unfound⟩] at kept
      split at kept
      · exact (Option.some.inj kept).symm
      · cases kept

variable (model frame) in
/-- What the loop estimates was rejected, but for what it finds, which comes
last. -/
theorem evaluatedAt_split (stage : Stage σ τ) :
    ∃ rejected, model.evaluatedAt frame stage =
        rejected ++ (model.foundAt frame stage).toList ∧
      ∀ candidate ∈ rejected, (model.encounterAt frame stage).Rejects candidate := by
  cases through : model.selects frame stage with
  | false => exact ⟨[], by simp [evaluatedAt, foundAt, through], by simp⟩
  | true =>
      rw [evaluatedAt, foundAt, if_pos through, if_pos through]
      exact (model.rounds_searchAt frame stage).evaluated_split

/-- What is considered was rejected, but for the kept candidate, which comes
last. -/
theorem consideredAt_split {kept : Candidate}
    (keeps : model.keptAt frame stage = some kept) :
    ∃ rejected, model.consideredAt frame stage = rejected ++ [kept] ∧
      ∀ candidate ∈ rejected, (model.encounterAt frame stage).Rejects candidate := by
  rcases model.evaluatedAt_split frame stage with ⟨rejected, split, all⟩
  refine ⟨rejected, ?_, all⟩
  cases found : model.foundAt frame stage with
  | some candidate =>
      cases (keptAt_of_foundAt found).symm.trans keeps
      simp [consideredAt, split, found]
  | none =>
      have initial := eq_initialAt_of_unfound found keeps
      simp [consideredAt, split, found, initial]

theorem recordsOf_searchAt (stage : Stage σ τ) :
    recordsOf (model.searchAt frame stage).events = [] :=
  (model.rounds_searchAt frame stage).recordsOf_eq_nil

/-- A stage with something to keep keeps it among what was considered, and the
auditor is told so. -/
theorem turnAt_of_kept {candidate : Candidate}
    (kept : model.keptAt frame stage = some candidate) :
    (model.turnAt frame stage).ending =
        .advanced (model.keep frame.agent (model.triedAt frame stage) stage.clock stage.trip
          (model.consideredAt frame stage) candidate).1 ∧
      recordsOf (model.turnAt frame stage).events = [model.decisionAt frame stage] := by
  -- In the two courses that stop the tour nothing is kept.
  have course := model.course_turnAt frame stage
  generalize model.turnAt frame stage = turn at course ⊢
  cases course with
  | leftOut out =>
      cases (keptAt_of_out out).symm.trans kept
      rw [decisionAt, triedAt_of_out out, consideredAt_of_out out]
      exact ⟨rfl, rfl⟩
  | chosen through found =>
      cases (keptAt_of_found through found).symm.trans kept
      rw [decisionAt, triedAt_of_through through, consideredAt_of_found through found]
      refine ⟨rfl, ?_⟩
      rw [recordsOf_append, recordsOf_append, recordsOf_searchAt]
      rfl
  | fellBack stuck policy =>
      cases ((keptAt_of_stuck stuck).trans (if_pos policy)).symm.trans kept
      rw [decisionAt, triedAt_of_through stuck.1, consideredAt_of_stuck stuck]
      refine ⟨rfl, ?_⟩
      rw [keepInitial, recordsOf_append, recordsOf_append, recordsOf_append,
        recordsOf_searchAt]
      rfl
  | reversed stuck policy =>
      have nothing := keptAt_eq_none_iff.2 ⟨stuck, by simp [policy]⟩
      cases nothing.symm.trans kept
  | failed stuck policy =>
      have nothing := keptAt_eq_none_iff.2 ⟨stuck, by simp [policy]⟩
      cases nothing.symm.trans kept

/-- A stage with nothing to keep stops the tour, and the auditor is told
nothing. -/
theorem turnAt_of_unkept (nothing : model.keptAt frame stage = none) :
    (model.turnAt frame stage).ending =
        .stopped (if model.fallback = .exception then .failure else .reversal)
          (model.searched frame stage).desk ∧
      recordsOf (model.turnAt frame stage).events = [] := by
  rcases keptAt_eq_none_iff.1 nothing with ⟨stuck, policy⟩
  have silent : recordsOf ([pending stage] ++ (model.searchAt frame stage).events) = [] := by
    rw [recordsOf_append, recordsOf_searchAt]
    rfl
  rw [turnAt_of_stuck stuck]
  cases given : model.fallback with
  | initialChoice => exact absurd given policy
  | ignoreAgent =>
      refine ⟨rfl, ?_⟩
      rw [recordsOf_append, silent]
      rfl
  | exception => exact ⟨rfl, silent⟩

end Keeping

end Model

end ModeChoice
