import ModeChoice.Audit.Row
import ModeChoice.Proofs.Audit.Retelling
import ModeChoice.Proofs.Audit.Trail

/-!
# What the records mark as kept

A record says which of its candidates were kept.  The records of a tour that comes to its
end mark one candidate for every trip, and it is the one that the trip gets.  Where the
tour is sent back, the auditor has been told of the earlier trips already, and nothing is
taken back: the closing record marks what every trip gets, and the records before it still
mark what the trips before the one without a mode had kept.
-/

namespace ModeChoice

namespace SelectionRecord

/-- The candidates that a record marks as kept. -/
def chosen (record : SelectionRecord) : List Candidate :=
  (record.candidates.zipIdx.filter fun entry => record.isSelected entry.2).map Prod.fst

/-- The kept candidates of a record, each with the index of its trip. -/
def marks (record : SelectionRecord) : List (Nat × Candidate) :=
  record.tripIndices.zip record.chosen

/-- The record without its number. -/
def unnumbered (record : SelectionRecord) : SelectionRecord :=
  { record with selection := ⟨0⟩ }

variable {record : SelectionRecord}

@[simp]
theorem chosen_unnumbered (record : SelectionRecord) :
    record.unnumbered.chosen = record.chosen := rfl

theorem chosen_of_all (whole : record.selected = .all) : record.chosen = record.candidates := by
  have every : ∀ entry ∈ record.candidates.zipIdx, record.isSelected entry.2 = true := by
    intro entry among
    simpa [isSelected, whole] using List.snd_lt_of_mem_zipIdx among
  rw [chosen, List.filter_eq_self.2 every]
  exact List.zipIdx_map_fst 0 record.candidates

theorem chosen_of_last {rejected : List Candidate} {kept : Candidate}
    (split : record.candidates = rejected ++ [kept])
    (last : record.selected = .at (record.candidates.length - 1)) :
    record.chosen = [kept] := by
  have place : record.selected = .at rejected.length := by
    rw [last, split]
    simp
  have none : rejected.zipIdx.filter (fun entry => record.isSelected entry.2) = [] := by
    apply List.filter_eq_nil_iff.2
    intro entry among
    have before := List.snd_lt_of_mem_zipIdx among
    simp only [isSelected, place]
    simpa using before.ne'
  rw [chosen, split, List.zipIdx_append, List.filter_append, none]
  simp [isSelected, place]

end SelectionRecord

/-- The kept candidates of records, each with the index of its trip. -/
def marksOf (records : List SelectionRecord) : List (Nat × Candidate) :=
  records.flatMap SelectionRecord.marks

/-- Where no index comes twice, the entries of an index are the one at its place. -/
theorem filter_zip_of_nodup {indices : List Nat} {kept : List Candidate}
    (distinct : indices.Nodup) {place index : Nat} {candidate : Candidate}
    (here : indices[place]? = some index) (keeps : kept[place]? = some candidate) :
    (indices.zip kept).filter (fun mark => mark.1 == index) = [(index, candidate)] := by
  induction indices generalizing kept place with
  | nil => cases here
  | cons first rest ih =>
      rcases List.nodup_cons.1 distinct with ⟨new, distinct⟩
      cases kept with
      | nil => cases keeps
      | cons known kept =>
          cases place with
          | zero =>
              cases here
              cases keeps
              have others : (rest.zip kept).filter (fun mark => mark.1 == index) = [] := by
                apply List.filter_eq_nil_iff.2
                intro mark among same
                exact new (eq_of_beq same ▸ (List.of_mem_zip among).1)
              simp [others]
          | succ place =>
              have other : first ≠ index := by
                rintro rfl
                exact new (List.mem_of_getElem? here)
              simpa [other] using ih distinct here keeps

/-! ## The rows of the records -/

namespace AuditRow

/-- As many rows of a record are marked as kept as the record has kept candidates. -/
theorem length_filter_ofRecord (record : SelectionRecord) :
    ((ofRecord record).filter AuditRow.selected).length = record.chosen.length := by
  rw [ofRecord_eq, List.filter_map, List.length_map, SelectionRecord.chosen, List.length_map]
  rfl

end AuditRow

theorem Auditor.filter_heard_collecting (rows : List AuditRow)
    (records : List SelectionRecord) :
    ((records.foldl Auditor.collecting.hear rows).filter AuditRow.selected).length =
      (rows.filter AuditRow.selected).length +
        (records.flatMap SelectionRecord.chosen).length := by
  induction records generalizing rows with
  | nil => simp
  | cons record rest ih =>
      have heard : Auditor.collecting.hear rows record = rows ++ AuditRow.ofRecord record := rfl
      rw [List.foldl_cons, ih, heard, List.filter_append, List.length_append,
        AuditRow.length_filter_ofRecord, List.flatMap_cons, List.length_append]
      omega

/-- What is left of the records when the numbers are. -/
theorem recordsOf_map_unnumbered (events : List Event) :
    recordsOf (events.map Event.unnumbered) =
      (recordsOf events).map SelectionRecord.unnumbered := by
  have each (event : Event) :
      event.unnumbered.record? = event.record?.map SelectionRecord.unnumbered := by
    cases event <;> rfl
  rw [recordsOf, List.filterMap_map, recordsOf, List.map_filterMap]
  exact List.filterMap_congr fun event _ => each event

namespace Model

variable {σ τ : Type}

/-- The records of a selection that came to the candidates `kept`, in two parts: `late` is
what the records say in the end, and `early` was superseded by it. -/
structure Marks (model : Model σ τ) (desk : Desk σ τ) (agent : Agent) (trips : List Trip)
    (selection : Selection σ τ) (kept : List Candidate)
    (early late : List SelectionRecord) : Prop where
  records : recordsOf selection.events = early ++ late
  length : kept.length = trips.length
  /-- In the end one candidate is marked for each trip, and it is the one that it gets. -/
  final : marksOf late = (trips.map Trip.index).zip kept
  /-- Every superseded record marks one candidate more. -/
  counted : ((early ++ late).flatMap SelectionRecord.chosen).length =
    trips.length + early.length
  straight : ∀ modes, TourModes.ofList (model.availability.modes agent trips) = .ok modes →
    ¬ model.SentBack desk agent trips modes → early = []
  /-- Where the tour is sent back, one record about all trips supersedes the others, and
  these are about the trips before the first one without a mode. -/
  sentBack : ∀ modes, TourModes.ofList (model.availability.modes agent trips) = .ok modes →
    model.SentBack desk agent trips modes →
      ∃ place stage record,
        model.FirstStuck (model.frameOf agent trips modes)
          (model.history desk agent trips modes) place stage ∧
        late = [record] ∧ record.selected = .all ∧
        early.length = place ∧ stage.progress.kept.length = place ∧
        marksOf early = ((trips.take place).map Trip.index).zip stage.progress.kept

variable {model : Model σ τ} {frame : TourFrame}

/-! ## The records of a walk -/

theorem chosen_decisionAt {stage : Stage σ τ} {candidate : Candidate}
    (kept : model.keptAt frame stage = some candidate) :
    (model.decisionAt frame stage).chosen = [candidate] := by
  rcases consideredAt_split kept with ⟨rejected, split, _⟩
  exact SelectionRecord.chosen_of_last split rfl

/-- Stages that keep something mark it, one candidate each. -/
theorem chosen_decisions {stages : List (Stage σ τ)} {kept : List Candidate}
    (all : stages.map (model.keptAt frame) = kept.map some) :
    (stages.map (model.decisionAt frame)).flatMap SelectionRecord.chosen = kept ∧
      marksOf (stages.map (model.decisionAt frame)) =
        ((stages.map Stage.planned).map Trip.index).zip kept := by
  induction stages generalizing kept with
  | nil =>
      cases kept with
      | nil => exact ⟨rfl, rfl⟩
      | cons candidate kept => cases all
  | cons stage rest ih =>
      cases kept with
      | nil => cases all
      | cons candidate kept =>
          rcases List.cons.inj all with ⟨here, later⟩
          rcases ih later with ⟨chosen, marks⟩
          have decided := chosen_decisionAt here
          constructor
          · rw [List.map_cons, List.flatMap_cons, decided, chosen]
            rfl
          · have mark : (model.decisionAt frame stage).marks =
                [(stage.planned.index, candidate)] := by
              rw [SelectionRecord.marks, decided]
              rfl
            rw [marksOf, List.map_cons, List.flatMap_cons, mark, ← marksOf, marks]
            rfl

/-- A walk that stops has decided all trips before the first one without a mode. -/
theorem Journey.front_of_stopped {trips : List Trip} {progress : Progress σ τ}
    {stages : List (Stage σ τ)} {walk : Walk σ τ}
    (journey : model.Journey frame trips progress stages walk) (fresh : progress.kept = [])
    {stop : Stop} {trip : Trip} {desk : Desk σ τ}
    (stopped : walk.ending = .stopped stop trip desk) :
    ∃ before last, stages = before ++ [last] ∧ model.decided frame stages = before ∧
      before.map (model.keptAt frame) = last.progress.kept.map some ∧
      model.FirstStuck frame stages before.length last := by
  rcases journey.of_stopped stopped with ⟨before, last, rfl, all, halted, _⟩
  have nothing := (model.course_turnAt frame last).keptAt_of_stopped halted
  rcases keptAt_eq_none_iff.1 nothing with ⟨stuck, policy⟩
  have there : (before ++ [last])[before.length]? = some last := by simp
  have keeps (stage : Stage σ τ) (among : stage ∈ before) :
      (model.keptAt frame stage).isSome = true :=
    Option.isSome_iff_ne_none.2 (all stage among)
  refine ⟨before, last, rfl, ?_, ?_, there, stuck, ?_⟩
  · rw [decided, List.filter_append, List.filter_eq_self.2 keeps]
    simp [nothing]
  · have prior := journey.kept_eq there
    rw [fresh, List.nil_append, List.take_left] at prior
    rw [prior, List.map_filterMap]
    symm
    apply List.filterMap_eq_map_iff_forall_eq_some.2
    intro stage among
    rcases Option.isSome_iff_exists.1 (keeps stage among) with ⟨candidate, kept⟩
    rw [kept]
    rfl
  · intro stage among lost
    rw [List.take_left] at among
    exact all stage among (keptAt_eq_none_iff.2 ⟨lost, policy⟩)

/-! ## A whole selection -/

section Selections

variable {desk : Desk σ τ} {agent : Agent} {trips : List Trip} {modes : TourModes}
  {walk : Walk σ τ}
  (found : TourModes.ofList (model.availability.modes agent trips) = .ok modes)
  (journey : model.Journey (model.frameOf agent trips modes) trips (model.begin agent desk)
    (model.history desk agent trips modes) walk)

include found journey

theorem marks_of_completed {progress : Progress σ τ}
    (finished : walk.ending = .finished progress) :
    model.Marks desk agent trips
      { outcome := .ok progress.kept, trips := walk.trips, desk := progress.desk,
        events := walk.events }
      progress.kept [] (recordsOf walk.events) := by
  have length := journey.length_kept rfl finished
  rcases journey.of_finished finished with ⟨reached, kept, same, all⟩
  have planned : (model.history desk agent trips modes).map Stage.planned = trips := by
    rw [journey.planned_eq, reached, List.take_length]
  rcases chosen_decisions all with ⟨chosen, marks⟩
  have records := journey.recordsOf_eq
  rw [journey.decided_of_finished finished] at records
  have kept_eq : progress.kept = kept := same
  exact {
    records := rfl
    length := length
    final := by rw [records, marks, planned, kept_eq]
    counted := by rw [List.nil_append, records, chosen, ← kept_eq, length]; rfl
    straight := fun _ _ _ => rfl
    sentBack := by
      intro given same_modes back
      cases found.symm.trans same_modes
      exact absurd back (not_sentBack_of_finished journey finished) }

theorem marks_of_reverted {trip : Trip} {last : Desk σ τ}
    (stopped : walk.ending = .stopped .reversal trip last) {kept : List Candidate}
    (succeeded : (model.revert agent walk last).outcome = .ok kept) :
    ∃ record, model.Marks desk agent trips (model.revert agent walk last) kept
      (recordsOf walk.events) [record] := by
  rcases journey.front_of_stopped rfl stopped with ⟨before, stuck, stages, decided, all, first⟩
  rcases model.recordsOf_revert agent walk last with
    ⟨record, records, outcome, _, indices, whole⟩
  have same : record.candidates = kept := Except.ok.inj (outcome.symm.trans succeeded)
  have chosen : record.chosen = kept := (SelectionRecord.chosen_of_all whole).trans same
  have length : kept.length = trips.length := by
    have concluded := (concludes_of_reverted found journey stopped).success kept succeeded
    exact concluded.1
  have counts : before.length = stuck.progress.kept.length := by
    simpa using congrArg List.length all
  have front : before.map Stage.planned = trips.take before.length := by
    have planned := journey.planned_eq
    rw [stages, List.map_append, List.length_append] at planned
    have fewer := congrArg (List.take before.length) planned
    simpa [List.take_take] using fewer
  have told := journey.recordsOf_eq
  rw [decided] at told
  rcases chosen_decisions all with ⟨early, marks⟩
  refine ⟨record, ?_⟩
  exact {
    records := records
    length := length
    final := by
      rw [map_index_of_undated journey.undated] at indices
      simp [marksOf, SelectionRecord.marks, indices, chosen]
    counted := by
      rw [told, List.flatMap_append, early]
      simp [chosen, length, counts, Nat.add_comm]
    straight := by
      intro given same_modes free
      cases found.symm.trans same_modes
      exact absurd (sentBack_of_reversal journey stopped) free
    sentBack := by
      intro given same_modes _
      cases found.symm.trans same_modes
      refine ⟨before.length, stuck, record, first, rfl, whole, ?_, counts.symm, ?_⟩
      · rw [told, List.length_map]
      · rw [told, marks, front] }

end Selections

/-- Where a selection comes to candidates, the records mark for each trip the one that it
gets.  Where the tour was not sent back they mark nothing else, and the rows marked as kept
become more by one for each trip.  Otherwise this holds of the closing record alone, and
each trip before the first one without a mode has left one more mark. -/
theorem select_marks_kept (model : Model σ τ) (desk : Desk σ τ) (agent : Agent)
    (trips : List Trip) {kept : List Candidate}
    (distinct : (trips.map Trip.index).Nodup)
    (succeeded : (model.select desk agent trips).outcome = .ok kept) :
    ∃ early late,
      model.Marks desk agent trips (model.select desk agent trips) kept early late ∧
      (∀ (place : Nat) (trip : Trip) (candidate : Candidate),
        trips[place]? = some trip → kept[place]? = some candidate →
        (marksOf late).filter (fun mark => mark.1 == trip.index) =
          [(trip.index, candidate)]) ∧
      ∀ other : Desk σ (List AuditRow), other.oracle = desk.oracle →
        (((model.audited Auditor.collecting).select other agent
            trips).desk.auditor.filter AuditRow.selected).length =
          (other.auditor.filter AuditRow.selected).length + trips.length + early.length := by
  have parts : ∃ early late,
      model.Marks desk agent trips (model.select desk agent trips) kept early late := by
    have course := model.selectionCourse_select desk agent trips
    revert succeeded
    generalize model.select desk agent trips = selection at course
    intro succeeded
    cases course with
    | barren nothing => cases succeeded
    | completed found journey finished =>
        cases succeeded
        exact ⟨_, _, marks_of_completed found journey finished⟩
    | reverted found journey stopped =>
        rcases marks_of_reverted found journey stopped succeeded with ⟨record, marks⟩
        exact ⟨_, _, marks⟩
    | failed found journey stopped => cases succeeded
  rcases parts with ⟨early, late, marks⟩
  refine ⟨early, late, marks, ?_, ?_⟩
  · intro place trip candidate there keeps
    rw [marks.final]
    exact filter_zip_of_nodup distinct (by simp [there]) keeps
  · intro other same
    -- The collecting auditor hears the same records, but for their numbers.
    have told := congrArg recordsOf
      (model.events_select_audited Auditor.collecting desk other same agent trips)
    rw [recordsOf_map_unnumbered, recordsOf_map_unnumbered] at told
    have chosen := congrArg (List.flatMap SelectionRecord.chosen) told
    simp only [List.flatMap_map, SelectionRecord.chosen_unnumbered] at chosen
    have heard := ((model.audited Auditor.collecting).tells_select other agent trips).heard
    have counted := marks.counted
    rw [← marks.records] at counted
    rw [heard]
    have rows := Auditor.filter_heard_collecting other.auditor
      (recordsOf ((model.audited Auditor.collecting).select other agent trips).events)
    rw [← chosen, counted] at rows
    exact rows.trans (Nat.add_assoc _ _ _).symm

/-- Without a trip that sends the tour back each errand is marked once. -/
theorem strict_marks_each_errand_once :
    ∃ early late,
      (strict .initialChoice).Marks (Desk.fresh () ()) (Agent.bare ⟨7⟩)
        [errand 2 .bike, errand 5 .car] (strictSelection .initialChoice)
        [Candidate.make .walk 1 600, Candidate.make .car 1 600] early late ∧
      early = [] ∧
      (marksOf late).filter (fun mark => mark.1 == 2) = [(2, Candidate.make .walk 1 600)] := by
  have succeeded : (strictSelection .initialChoice).outcome =
      .ok [Candidate.make .walk 1 600, Candidate.make .car 1 600] := by
    decide +kernel
  let modes : TourModes := ⟨[.car, .walk], by decide, by decide⟩
  have found : TourModes.ofList ((strict .initialChoice).availability.modes (Agent.bare ⟨7⟩)
      [errand 2 .bike, errand 5 .car]) = .ok modes := by
    decide
  have lenient : ¬ (strict .initialChoice).SentBack (Desk.fresh () ()) (Agent.bare ⟨7⟩)
      [errand 2 .bike, errand 5 .car] modes := by
    rintro ⟨policy, _⟩
    cases policy
  rcases select_marks_kept (strict .initialChoice) (Desk.fresh () ()) (Agent.bare ⟨7⟩)
    [errand 2 .bike, errand 5 .car] (by decide) succeeded with ⟨early, late, marks, once, _⟩
  exact ⟨early, late, marks, marks.straight modes found lenient,
    once 0 (errand 2 .bike) (Candidate.make .walk 1 600) rfl rfl⟩

/-- Where the second errand sends the tour back, the first one stays marked with the walk
that it does not get, and three rows are marked for two errands. -/
theorem strict_marks_first_errand_twice :
    (strictSelection .ignoreAgent).outcome =
        .ok [Candidate.make .bike 1 600, Candidate.make .car 1 600] ∧
      ([errand 2 .bike, errand 5 .car].map Trip.index).Nodup ∧
      marksOf (recordsOf (strictSelection .ignoreAgent).events) =
        [(2, Candidate.make .walk 1 600), (2, Candidate.make .bike 1 600),
          (5, Candidate.make .car 1 600)] ∧
      ((((strict .ignoreAgent).audited Auditor.collecting).select (Desk.fresh () [])
        (Agent.bare ⟨7⟩) [errand 2 .bike, errand 5 .car]).desk.auditor.filter
          AuditRow.selected).length = 3 := by
  decide +kernel

end Model

end ModeChoice
