import ModeChoice.Proofs.Audit.Influence
import ModeChoice.Proofs.Audit.Numbers
import ModeChoice.Proofs.Tour.Dialogue
import ModeChoice.Proofs.Tour.Outcome

/-!
# The audit trail

The records of a selection are one for every trip that got a candidate, in the
order of the trips, and one for the whole tour if it was sent back.  A trip's
record has what was estimated while the trip was decided, and the kept candidate
is the last of it.  Over any number of tours the records are numbered from zero
on without a gap, and the answers of the auditor change nothing.
-/

namespace ModeChoice

namespace Model

variable {σ τ : Type}

/-- The record tells of the decision about the trip of a stage. -/
structure Decides (model : Model σ τ) (frame : TourFrame) (stage : Stage σ τ)
    (record : SelectionRecord) : Prop where
  agent : record.agent = frame.agent.id
  about : record.tripIndices = [stage.planned.index]
  /-- What the retry loop estimated, in order, and then the initial mode if the
  loop found nothing or the trip was left out of it. -/
  candidates : record.candidates = estimatesOf (model.loopEvents frame stage) ++
    if (model.foundAt frame stage).isSome then [] else [model.initialAt frame stage]
  selected : record.selected = .at (record.candidates.length - 1)
  something : record.candidates ≠ []
  /-- The last candidate is the kept one. -/
  kept : record.candidates.getLast? = model.keptAt frame stage
  rejected : ∀ candidate ∈ record.candidates.dropLast,
    (model.encounterAt frame stage).Rejects candidate
  /-- The estimates of the loop are those of the modes that were proposed. -/
  proposed : estimatesOf (model.loopEvents frame stage) =
    ((questionsOf (model.loopEvents frame stage)).filterMap Question.proposed?).map
      (model.encounterAt frame stage).estimate
  distinct : ((questionsOf (model.loopEvents frame stage)).filterMap Question.proposed?).Nodup

/-- Some trip of the tour gets no mode, and the policy is to send the tour back
then. -/
def SentBack (model : Model σ τ) (desk : Desk σ τ) (agent : Agent) (trips : List Trip)
    (modes : TourModes) : Prop :=
  model.fallback = .ignoreAgent ∧
    ∃ stage ∈ model.history desk agent trips modes,
      model.Stuck (model.frameOf agent trips modes) stage

/-- The stages of a tour that keep a candidate. -/
def decided (model : Model σ τ) (frame : TourFrame) (stages : List (Stage σ τ)) :
    List (Stage σ τ) :=
  stages.filter fun stage => (model.keptAt frame stage).isSome

/-- The records of a selection. -/
structure Trail (model : Model σ τ) (desk : Desk σ τ) (agent : Agent) (trips : List Trip)
    (selection : Selection σ τ) : Prop where
  /-- The auditor has been told of the records, and of nothing else. -/
  heard : selection.desk.auditor =
    (recordsOf selection.events).foldl model.auditor.hear desk.auditor
  barren : model.availability.modes agent trips = [] → recordsOf selection.events = []
  decisions : ∀ modes, TourModes.ofList (model.availability.modes agent trips) = .ok modes →
    ∃ decisions closing, recordsOf selection.events = decisions ++ closing ∧
      List.Forall₂ (model.Decides (model.frameOf agent trips modes))
        (model.decided (model.frameOf agent trips modes)
          (model.history desk agent trips modes)) decisions ∧
      (¬ model.SentBack desk agent trips modes →
        closing = [] ∧
          ∀ kept, selection.outcome = .ok kept →
            decisions.map SelectionRecord.selectedCandidate? = kept.map some) ∧
      (model.SentBack desk agent trips modes →
        ∃ kept record, selection.outcome = .ok kept ∧ closing = [record] ∧
          record.agent = agent.id ∧ record.tripIndices = trips.map Trip.index ∧
          record.candidates = kept ∧ record.selected = .all)

variable {model : Model σ τ} {frame : TourFrame}

theorem estimatesOf_loopEvents (stage : Stage σ τ) :
    estimatesOf (model.loopEvents frame stage) = model.evaluatedAt frame stage := by
  have rounds := model.rounds_searchAt frame stage
  cases through : model.selects frame stage with
  | false => simp [loopEvents_of_out through, evaluatedAt, through, estimatesOf]
  | true =>
      rw [loopEvents_of_through through, evaluatedAt, if_pos through]
      exact rounds.evaluated_eq.symm

/-- The loop estimates what the oracle proposes, and no mode twice. -/
theorem estimates_eq_proposed (stage : Stage σ τ) :
    estimatesOf (model.loopEvents frame stage) =
        ((questionsOf (model.loopEvents frame stage)).filterMap Question.proposed?).map
          (model.encounterAt frame stage).estimate ∧
      ((questionsOf (model.loopEvents frame stage)).filterMap Question.proposed?).Nodup := by
  have rounds := model.rounds_searchAt frame stage
  cases through : model.selects frame stage with
  | false => simp [loopEvents_of_out through, estimatesOf, questionsOf]
  | true =>
      rw [loopEvents_of_through through]
      have estimates := rounds.estimates
      constructor
      · rw [← estimates]
        exact rounds.evaluated_eq.symm.trans rounds.evaluated_eq_map
      · rw [← estimates]
        exact rounds.nodup_estimatedModes

theorem selectedCandidate?_decisionAt {stage : Stage σ τ} {candidate : Candidate}
    (kept : model.keptAt frame stage = some candidate) :
    (model.decisionAt frame stage).selectedCandidate? = some candidate := by
  rcases consideredAt_split kept with ⟨rejected, split, _⟩
  simp [SelectionRecord.selectedCandidate?, decisionAt, split]

theorem decides_decisionAt {stage : Stage σ τ} {candidate : Candidate}
    (kept : model.keptAt frame stage = some candidate) :
    model.Decides frame stage (model.decisionAt frame stage) := by
  rcases consideredAt_split kept with ⟨rejected, split, all⟩
  have same : (model.decisionAt frame stage).candidates = rejected ++ [candidate] := split
  exact {
    agent := rfl
    about := rfl
    candidates := by
      rw [estimatesOf_loopEvents]
      rfl
    selected := rfl
    something := by simp [same]
    kept := by simp [same, kept]
    rejected := by
      rw [same, List.dropLast_concat]
      exact all
    proposed := (estimates_eq_proposed stage).1
    distinct := (estimates_eq_proposed stage).2 }

theorem Journey.recordsOf_eq {trips : List Trip} {progress : Progress σ τ}
    {stages : List (Stage σ τ)} {walk : Walk σ τ}
    (journey : model.Journey frame trips progress stages walk) :
    recordsOf walk.events =
      (model.decided frame stages).map (model.decisionAt frame) := by
  induction journey with
  | arrived => rfl
  | @onward planned rest progress after stages walk advanced tail ih =>
      rcases (model.course_turnAt frame ⟨progress, planned⟩).of_advanced advanced with
        ⟨candidate, kept, _⟩
      rw [recordsOf_append, (turnAt_of_kept kept).2, ih]
      simp [decided, kept]
  | @halted planned rest progress stop desk stopped =>
      have nothing := (model.course_turnAt frame ⟨progress, planned⟩).keptAt_of_stopped stopped
      rw [(turnAt_of_unkept nothing).2]
      simp [decided, nothing]

theorem Journey.decided_of_finished {trips : List Trip} {progress after : Progress σ τ}
    {stages : List (Stage σ τ)} {walk : Walk σ τ}
    (journey : model.Journey frame trips progress stages walk)
    (finished : walk.ending = .finished after) : model.decided frame stages = stages := by
  rcases journey.of_finished finished with ⟨_, kept, _, all⟩
  apply List.filter_eq_self.2
  intro stage among
  have image : model.keptAt frame stage ∈ kept.map some :=
    all ▸ List.mem_map_of_mem among
  rcases List.mem_map.1 image with ⟨candidate, _, keeps⟩
  rw [← keeps]
  rfl

theorem forall₂_decides (stages : List (Stage σ τ)) :
    List.Forall₂ (model.Decides frame) (model.decided frame stages)
      ((model.decided frame stages).map (model.decisionAt frame)) := by
  apply List.forall₂_map_right_iff.2
  apply List.forall₂_same.2
  intro stage among
  rcases Option.isSome_iff_exists.1 (List.mem_filter.1 among).2 with ⟨candidate, kept⟩
  exact decides_decisionAt kept

/-- What the records say was kept is what was kept. -/
theorem map_selectedCandidate?_decided (stages : List (Stage σ τ)) :
    ((model.decided frame stages).map (model.decisionAt frame)).map
        SelectionRecord.selectedCandidate? =
      (stages.filterMap (model.keptAt frame)).map some := by
  induction stages with
  | nil => rfl
  | cons stage rest ih =>
      cases kept : model.keptAt frame stage with
      | none => simpa [decided, kept] using ih
      | some candidate =>
          have selected := selectedCandidate?_decisionAt kept
          simpa [decided, kept, selected] using ih

/-! ## A whole selection -/

section Selections

variable {desk : Desk σ τ} {agent : Agent} {trips : List Trip} {modes : TourModes}
  {walk : Walk σ τ}
  (found : TourModes.ofList (model.availability.modes agent trips) = .ok modes)
  (journey : model.Journey (model.frameOf agent trips modes) trips (model.begin agent desk)
    (model.history desk agent trips modes) walk)

include journey

theorem not_sentBack_of_finished {progress : Progress σ τ}
    (finished : walk.ending = .finished progress) :
    ¬ model.SentBack desk agent trips modes := by
  rintro ⟨policy, stage, among, stuck⟩
  exact journey.not_stuck_of_finished finished (by simp [policy]) stage among stuck

theorem sentBack_of_reversal {trip : Trip} {last : Desk σ τ}
    (stopped : walk.ending = .stopped .reversal trip last) :
    model.SentBack desk agent trips modes := by
  rcases journey.of_stopped stopped with ⟨before, stage, stages, _, halted, _⟩
  rcases (model.course_turnAt _ stage).of_stopped halted with
    ⟨stuck, ⟨_, policy, _⟩ | ⟨impossible, _⟩⟩
  · exact ⟨policy, stage, by simp [stages], stuck⟩
  · cases impossible

theorem not_sentBack_of_failure {trip : Trip} {last : Desk σ τ}
    (stopped : walk.ending = .stopped .failure trip last) :
    ¬ model.SentBack desk agent trips modes := by
  rintro ⟨policy, _⟩
  rcases journey.firstStuck_of_stopped stopped with ⟨_, _, _, _, _, strict⟩
  rw [policy] at strict
  cases strict

theorem kept_eq_filterMap_of_finished {progress : Progress σ τ}
    (finished : walk.ending = .finished progress) :
    progress.kept = (model.history desk agent trips modes).filterMap
      (model.keptAt (model.frameOf agent trips modes)) := by
  rcases journey.of_finished finished with ⟨_, kept, same, all⟩
  rw [same, filterMap_keptAt all]
  rfl

end Selections

/-- Sending a tour back leaves one more record, which is about all trips. -/
theorem recordsOf_revert (model : Model σ τ) (agent : Agent) (walk : Walk σ τ)
    (desk : Desk σ τ) :
    ∃ record, recordsOf (model.revert agent walk desk).events =
        recordsOf walk.events ++ [record] ∧
      (model.revert agent walk desk).outcome = .ok record.candidates ∧
      record.agent = agent.id ∧ record.tripIndices = walk.trips.map Trip.index ∧
      record.selected = .all := by
  have silent := model.recordsOf_baseline agent walk.trips
    (Clock.midnight model.interpretation) []
  have indices := map_index_of_undated (model.undated_baseline agent walk.trips
    (Clock.midnight model.interpretation) [])
  refine ⟨⟨agent.id, _, desk.nextSelection, _, .all⟩, ?_, rfl, rfl, indices, rfl⟩
  rw [revert, recordsOf_append, recordsOf_append, silent, List.append_nil]
  rfl

/-- Every selection leaves a complete trail. -/
theorem trail_select (model : Model σ τ) (desk : Desk σ τ) (agent : Agent)
    (trips : List Trip) :
    model.Trail desk agent trips (model.select desk agent trips) := by
  have heard := (model.tells_select desk agent trips).heard
  have course := model.selectionCourse_select desk agent trips
  generalize model.select desk agent trips = selection at course heard ⊢
  refine ⟨heard, ?_, ?_⟩
  · intro nothing
    cases course with
    | barren _ => rfl
    | completed found journey finished => exact absurd nothing (modes_ne_nil_of_found found)
    | reverted found journey stopped => exact absurd nothing (modes_ne_nil_of_found found)
    | failed found journey stopped => exact absurd nothing (modes_ne_nil_of_found found)
  · intro modes found
    cases course with
    | barren nothing => exact absurd nothing (modes_ne_nil_of_found found)
    | @completed given walk progress given_found journey finished =>
        cases found.symm.trans given_found
        have free := not_sentBack_of_finished journey finished
        refine ⟨_, [], ?_, forall₂_decides _, fun _ => ⟨rfl, ?_⟩, fun back => absurd back free⟩
        · rw [List.append_nil]
          exact journey.recordsOf_eq
        · intro kept succeeded
          cases succeeded
          rw [map_selectedCandidate?_decided, kept_eq_filterMap_of_finished journey finished]
    | @reverted given walk trip last given_found journey stopped =>
        -- Only this course closes with a record about the whole tour.
        cases found.symm.trans given_found
        have back := sentBack_of_reversal journey stopped
        rcases model.recordsOf_revert agent walk last with
          ⟨record, records, outcome, about, indices, selected⟩
        rw [journey.recordsOf_eq] at records
        rw [map_index_of_undated journey.undated] at indices
        exact ⟨_, [record], records, forall₂_decides _, fun free => absurd back free,
          fun _ => ⟨_, record, outcome, rfl, about, indices, rfl, selected⟩⟩
    | @failed given walk trip last given_found journey stopped =>
        cases found.symm.trans given_found
        have free := not_sentBack_of_failure journey stopped
        refine ⟨_, [], ?_, forall₂_decides _, fun _ => ⟨rfl, ?_⟩, fun back => absurd back free⟩
        · rw [List.append_nil]
          exact journey.recordsOf_eq
        · intro kept impossible
          cases impossible

/-! ## Tours one after the other -/

theorem trails_selectEach (model : Model σ τ) (desk : Desk σ τ)
    (tours : List (Agent × List Trip)) :
    List.Forall₂ (fun tour selection => ∃ desk,
        selection = model.select desk tour.1 tour.2 ∧
          model.Trail desk tour.1 tour.2 selection)
      tours (model.selectEach desk tours) := by
  induction tours generalizing desk with
  | nil => exact .nil
  | cons tour rest ih =>
      exact .cons ⟨desk, rfl, model.trail_select desk tour.1 tour.2⟩ (ih _)

theorem selectEach_audited {υ : Type} (model : Model σ τ) (auditor : Auditor υ)
    (desk : Desk σ τ) (other : Desk σ υ) (same : other.oracle = desk.oracle)
    (tours : List (Agent × List Trip)) :
    ((model.audited auditor).selectEach other tours).map
        (fun selection => (selection.outcome, selection.trips)) =
      (model.selectEach desk tours).map
        (fun selection => (selection.outcome, selection.trips)) := by
  induction tours generalizing desk other with
  | nil => rfl
  | cons tour rest ih =>
      rcases tour with ⟨agent, trips⟩
      rcases model.select_audited auditor desk other same agent trips with
        ⟨outcome, dated, oracle⟩
      simp only [selectEach, List.map_cons, outcome, dated, ih _ _ oracle]

/-- On one model that is used for any tours one after the other, and whatever
the auditor answers, the records are numbered from zero on as they are made, and
every selection leaves its complete trail.  With any other auditor the same
candidates come out, and the same departures. -/
theorem selectEach_leaves_trails (model : Model σ τ) (oracle : σ) (state : τ)
    (tours : List (Agent × List Trip)) :
    let selections := model.selectEach (Desk.fresh oracle state) tours
    let records := recordsOf (selections.flatMap Selection.events)
    records.map (fun record => record.selection.number.toNat) =
        (List.range records.length).map (· % 2 ^ 64) ∧
      List.Forall₂ (fun tour selection => ∃ desk,
          selection = model.select desk tour.1 tour.2 ∧
            model.Trail desk tour.1 tour.2 selection)
        tours selections ∧
      ∀ (υ : Type) (auditor : Auditor υ) (other : υ),
        ((model.audited auditor).selectEach (Desk.fresh oracle other) tours).map
            (fun selection => (selection.outcome, selection.trips)) =
          selections.map (fun selection => (selection.outcome, selection.trips)) := by
  intro selections records
  refine ⟨?_, model.trails_selectEach _ tours, ?_⟩
  · rcases model.tells_selectEach (Desk.fresh oracle state) tours with ⟨after, told⟩
    have numbered : records.map SelectionRecord.selection =
        List.iterate SelectionId.next ⟨0⟩ records.length :=
      told.numbered
    rw [← SelectionId.map_toNat_iterate_next, ← numbered, List.map_map]
    rfl
  · intro υ auditor other
    exact model.selectEach_audited auditor _ _ rfl tours

/-- Two tours of which each is sent back after its first trip was decided: the
numbers go on, although the auditor takes no record. -/
theorem strict_leaves_four_records :
    let model := { strict .ignoreAgent with auditor := Auditor.refusing "full" }
    let tour := (Agent.bare ⟨7⟩, [errand 2 .bike, errand 5 .car])
    let records := recordsOf
      ((model.selectEach (Desk.fresh () ()) [tour, tour]).flatMap Selection.events)
    records.map (fun record => record.selection.number.toNat) = [0, 1, 2, 3] ∧
      records.map SelectionRecord.tripIndices = [[2], [2, 5], [2], [2, 5]] ∧
      records.map SelectionRecord.selected = [.at 1, .all, .at 1, .all] := by
  intro model tour records
  have trails := selectEach_leaves_trails model () () [tour, tour]
  have count : records.length = 4 := by decide +kernel
  refine ⟨?_, by decide +kernel, by decide +kernel⟩
  have numbers := trails.1
  change records.map (fun record => record.selection.number.toNat) =
    (List.range records.length).map (· % 2 ^ 64) at numbers
  rw [numbers, count]
  rfl

end Model

end ModeChoice
