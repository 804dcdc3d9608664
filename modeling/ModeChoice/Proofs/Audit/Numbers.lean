import Mathlib.Data.List.Iterate
import ModeChoice.Proofs.Tour.Decisions

/-!
# The numbers of the records

`Auditor.Tells` says of a stretch of a run, with the desk before and the desk
after it, that the auditor has been told of the records of that stretch one
after the other, each under the number that was next.  Stretches can be joined,
and so the numbers go on from trip to trip and from tour to tour.  What the
auditor answers has no part in it.
-/

namespace ModeChoice

/-- What an auditor is after it was told of a record. -/
def Auditor.hear {τ : Type} (auditor : Auditor τ) (state : τ) (record : SelectionRecord) : τ :=
  (auditor.record state record).2

/-- The desk after a turn. -/
def TurnEnd.desk {σ τ : Type} : TurnEnd σ τ → Desk σ τ
  | .advanced progress => progress.desk
  | .stopped _ desk => desk

/-- The desk after a walk. -/
def WalkEnd.desk {σ τ : Type} : WalkEnd σ τ → Desk σ τ
  | .finished progress => progress.desk
  | .stopped _ _ desk => desk

/-- Between two desks the auditor was told of the records among the events, and
of nothing else, under consecutive numbers. -/
structure Auditor.Tells {σ τ : Type} (auditor : Auditor τ) (before : Desk σ τ)
    (events : List Event) (after : Desk σ τ) : Prop where
  numbered : (recordsOf events).map SelectionRecord.selection =
    List.iterate SelectionId.next before.nextSelection (recordsOf events).length
  next : after.nextSelection =
    SelectionId.next^[(recordsOf events).length] before.nextSelection
  heard : after.auditor = (recordsOf events).foldl auditor.hear before.auditor

namespace Auditor.Tells

variable {σ τ : Type} {auditor : Auditor τ} {before middle after : Desk σ τ}
  {first second events : List Event}

/-- Where nothing is recorded, the desk keeps its number and its auditor. -/
theorem of_silent (silent : recordsOf events = [])
    (number : after.nextSelection = before.nextSelection)
    (state : after.auditor = before.auditor) :
    auditor.Tells before events after where
  numbered := by simp [silent]
  next := by simp [silent, number]
  heard := by simp [silent, state]

theorem of_audit (auditor : Auditor τ) (desk : Desk σ τ) (agent : AgentId)
    (tripIndices : List Nat) (candidates : List Candidate) (selected : Selected) :
    auditor.Tells desk [(desk.audit auditor agent tripIndices candidates selected).2]
      (desk.audit auditor agent tripIndices candidates selected).1 where
  numbered := rfl
  next := rfl
  heard := rfl

theorem append (early : auditor.Tells before first middle)
    (late : auditor.Tells middle second after) :
    auditor.Tells before (first ++ second) after where
  numbered := by
    rw [recordsOf_append, List.map_append, List.length_append, List.iterate_add,
      early.numbered, late.numbered, early.next]
  next := by
    rw [recordsOf_append, List.length_append, Nat.add_comm, Function.iterate_add_apply,
      late.next, early.next]
  heard := by
    rw [recordsOf_append, List.foldl_append, late.heard, early.heard]

end Auditor.Tells

namespace Model

variable {σ τ : Type} (model : Model σ τ) (frame : TourFrame)

theorem tells_turnAt (stage : Stage σ τ) :
    model.auditor.Tells stage.progress.desk (model.turnAt frame stage).events
      (model.turnAt frame stage).ending.desk := by
  cases kept : model.keptAt frame stage with
  | none =>
      rcases turnAt_of_unkept kept with ⟨ending, silent⟩
      rw [ending]
      exact .of_silent silent rfl rfl
  | some candidate =>
      rcases turnAt_of_kept kept with ⟨ending, recorded⟩
      rw [ending]
      exact {
        numbered := by
          rw [recorded]
          rfl
        next := by
          have number : (model.triedAt frame stage).desk.nextSelection =
              stage.progress.desk.nextSelection :=
            nextSelection_triedAt stage
          rw [recorded]
          exact congrArg SelectionId.next number
        heard := by
          rw [recorded]
          simp [keep, Desk.audit, TurnEnd.desk, Auditor.hear, decisionAt] }

variable {model frame}

namespace Journey

variable {trips : List Trip} {progress : Progress σ τ} {stages : List (Stage σ τ)}
  {walk : Walk σ τ}

theorem tells (journey : model.Journey frame trips progress stages walk) :
    model.auditor.Tells progress.desk walk.events walk.ending.desk := by
  induction journey with
  | arrived => exact .of_silent rfl rfl rfl
  | @onward planned rest progress after stages walk advanced tail ih =>
      have first := model.tells_turnAt frame ⟨progress, planned⟩
      rw [advanced] at first
      exact first.append ih
  | @halted planned rest progress stop desk stopped =>
      have last := model.tells_turnAt frame ⟨progress, planned⟩
      rw [stopped] at last
      exact last

end Journey

theorem recordsOf_baseline (model : Model σ τ) (agent : Agent) (trips : List Trip)
    (clock : Clock) (prior : List Candidate) :
    recordsOf (model.baseline agent trips clock prior).events = [] := by
  induction trips generalizing clock prior with
  | nil => rfl
  | cons planned rest ih => exact ih _ _

theorem tells_revert {before : Desk σ τ} {walk : Walk σ τ} {desk : Desk σ τ} (agent : Agent)
    (walked : model.auditor.Tells before walk.events desk) :
    model.auditor.Tells before (model.revert agent walk desk).events
      (model.revert agent walk desk).desk := by
  have again : model.auditor.Tells desk
      (model.baseline agent walk.trips (Clock.midnight model.interpretation) []).events desk :=
    .of_silent (model.recordsOf_baseline agent _ _ _) rfl rfl
  exact (walked.append again).append (.of_audit model.auditor desk _ _ _ _)

/-- Within one selection the numbers go on from the one that was next before. -/
theorem tells_select (model : Model σ τ) (desk : Desk σ τ) (agent : Agent)
    (trips : List Trip) :
    model.auditor.Tells desk (model.select desk agent trips).events
      (model.select desk agent trips).desk := by
  have course := model.selectionCourse_select desk agent trips
  generalize model.select desk agent trips = selection at course ⊢
  cases course with
  | barren nothing => exact .of_silent rfl rfl rfl
  | completed found journey finished =>
      have walked := journey.tells
      rwa [finished] at walked
  | reverted found journey stopped =>
      have walked := journey.tells
      rw [stopped] at walked
      exact tells_revert agent walked
  | failed found journey stopped =>
      have walked := journey.tells
      rwa [stopped] at walked

/-- The selections of several tours on one model, one after the other. -/
def selectEach (model : Model σ τ) (desk : Desk σ τ) :
    List (Agent × List Trip) → List (Selection σ τ)
  | [] => []
  | (agent, trips) :: rest =>
      model.select desk agent trips ::
        model.selectEach (model.select desk agent trips).desk rest

theorem tells_selectEach (model : Model σ τ) (desk : Desk σ τ)
    (tours : List (Agent × List Trip)) :
    ∃ after, model.auditor.Tells desk
      ((model.selectEach desk tours).flatMap Selection.events) after := by
  induction tours generalizing desk with
  | nil => exact ⟨desk, .of_silent rfl rfl rfl⟩
  | cons tour rest ih =>
      rcases tour with ⟨agent, trips⟩
      rcases ih (model.select desk agent trips).desk with ⟨after, later⟩
      exact ⟨after, (model.tells_select desk agent trips).append later⟩

end Model

theorem SelectionId.iterate_next_zero (count : Nat) :
    SelectionId.next^[count] ⟨0⟩ = ⟨UInt64.ofNat count⟩ := by
  induction count with
  | zero => rfl
  | succ count ih =>
      rw [Function.iterate_succ_apply', ih]
      simp [SelectionId.next]

/-- The numbers that follow on zero; after the largest number they begin again. -/
theorem SelectionId.map_toNat_iterate_next (count : Nat) :
    (List.iterate SelectionId.next ⟨0⟩ count).map (fun selection => selection.number.toNat) =
      (List.range count).map (· % 2 ^ 64) := by
  rw [← List.range_map_iterate, List.map_map]
  apply List.map_congr_left
  intro place _
  simp [iterate_next_zero]

end ModeChoice
