import ModeChoice.Proofs.Audit.Influence

/-!
# What is told apart from the auditor

Two runs that differ in their auditors, or in the number that is next, do not only come
to the same.  They also go through the same events: the same states, questions and
estimates in the same order, and the same records but for the numbers under which the
auditors were told of them and what these answered.
-/

namespace ModeChoice

/-- The event without the number of a record and without the auditor's answer. -/
def Event.unnumbered : Event → Event
  | .recorded record _ => .recorded { record with selection := ⟨0⟩ } (.ok ())
  | event => event

namespace Model

variable {σ τ υ : Type} (model : Model σ τ) (auditor : Auditor υ) (frame : TourFrame)
  {first : Progress σ τ} {second : Progress σ υ}

theorem events_keepInitial_alike (kept : first.kept = second.kept) (clock clock' : Clock)
    (trip : Trip) (evaluated : List Candidate) (events : List Event) :
    (model.keepInitial frame first clock trip evaluated events).events.map Event.unnumbered =
      ((model.audited auditor).keepInitial frame second clock' trip evaluated
        events).events.map Event.unnumbered := by
  -- The records differ in their numbers and answers alone.
  simp only [keepInitial, kept, List.map_append]
  rfl

theorem events_turnAt_alike (alike : first.Alike second) (planned : Trip) :
    (model.turnAt frame ⟨first, planned⟩).events.map Event.unnumbered =
      ((model.audited auditor).turnAt frame ⟨second, planned⟩).events.map
        Event.unnumbered := by
  have selects := model.selects_audited auditor frame alike planned
  have search := model.searchAt_audited auditor frame alike planned
  have trip := trip_alike alike planned
  have stuck (lost : model.Stuck frame ⟨first, planned⟩) :
      (model.audited auditor).Stuck frame ⟨second, planned⟩ :=
    ⟨selects.trans lost.1, (congrArg Search.kept search).trans lost.2⟩
  have course := model.course_turnAt frame ⟨first, planned⟩
  generalize model.turnAt frame ⟨first, planned⟩ = turn at course
  -- The other turn takes the same course.
  cases course with
  | leftOut out =>
      have other : (model.audited auditor).Course frame ⟨second, planned⟩ _ :=
        .leftOut (selects.trans out)
      rw [other.eq_turnAt, trip]
      exact model.events_keepInitial_alike auditor frame alike.kept _ _ _ _ _
  | chosen through found =>
      have other : (model.audited auditor).Course frame ⟨second, planned⟩ _ :=
        .chosen (selects.trans through) ((congrArg Search.kept search).trans found)
      rw [other.eq_turnAt, search, trip]
      simp only [List.map_append, List.map_cons]
      rfl
  | fellBack lost policy =>
      have other : (model.audited auditor).Course frame ⟨second, planned⟩ _ :=
        .fellBack (stuck lost) policy
      have kept : (model.searched frame ⟨first, planned⟩).kept =
          ((model.audited auditor).searched frame ⟨second, planned⟩).kept := alike.kept
      rw [other.eq_turnAt, search, trip]
      exact model.events_keepInitial_alike auditor frame kept _ _ _ _ _
  | reversed lost policy =>
      have other : (model.audited auditor).Course frame ⟨second, planned⟩ _ :=
        .reversed (stuck lost) policy
      rw [other.eq_turnAt, search]
      rfl
  | failed lost policy =>
      have other : (model.audited auditor).Course frame ⟨second, planned⟩ _ :=
        .failed (stuck lost) policy
      rw [other.eq_turnAt, search]
      rfl

theorem events_walk_alike (alike : first.Alike second) (trips : List Trip) :
    (model.walk frame trips first).events.map Event.unnumbered =
      ((model.audited auditor).walk frame trips second).events.map Event.unnumbered := by
  induction trips generalizing first second with
  | nil => rfl
  | cons planned rest ih =>
      have told := model.events_turnAt_alike auditor frame alike planned
      have ended := model.turnAt_alike auditor frame alike planned
      rw [walk_cons, walk_cons]
      generalize (model.turnAt frame ⟨first, planned⟩).ending = ending at ended ⊢
      generalize ((model.audited auditor).turnAt frame ⟨second, planned⟩).ending = ending'
        at ended ⊢
      cases ended with
      | advanced alike => simp only [List.map_append, told, ih alike]
      | stopped oracle => exact told

theorem events_revert_alike (agent : Agent) {walk : Walk σ τ} {walk' : Walk σ υ}
    (trips : walk.trips = walk'.trips)
    (told : walk.events.map Event.unnumbered = walk'.events.map Event.unnumbered)
    (desk : Desk σ τ) (desk' : Desk σ υ) :
    (model.revert agent walk desk).events.map Event.unnumbered =
      ((model.audited auditor).revert agent walk' desk').events.map Event.unnumbered := by
  have again : (model.audited auditor).baseline agent walk'.trips
      (Clock.midnight (model.audited auditor).interpretation) [] =
      model.baseline agent walk'.trips (Clock.midnight model.interpretation) [] :=
    model.baseline_audited auditor agent _ _ _
  simp only [revert, trips, again, List.map_append, told]
  rfl

/-- Another auditor, and another number to begin with, change nothing about the events of
a selection but the numbers and the auditor's answers. -/
theorem events_select_audited (desk : Desk σ τ) (other : Desk σ υ)
    (same : other.oracle = desk.oracle) (agent : Agent) (trips : List Trip) :
    (model.select desk agent trips).events.map Event.unnumbered =
      ((model.audited auditor).select other agent trips).events.map Event.unnumbered := by
  have begun : (model.begin agent desk).Alike ((model.audited auditor).begin agent other) :=
    ⟨rfl, rfl, same.symm, rfl⟩
  cases found : TourModes.ofList (model.availability.modes agent trips) with
  | error error =>
      have nothing := (TourModes.ofList_eq_error_iff.1 found).1
      rw [model.select_of_barren desk nothing,
        (model.audited auditor).select_of_barren other nothing]
  | ok modes =>
      have told := model.events_walk_alike auditor (model.frameOf agent trips modes) begun trips
      rcases model.walk_alike auditor (model.frameOf agent trips modes) begun trips with
        ⟨walked, ending⟩
      have frame : (model.audited auditor).frameOf agent trips modes =
          model.frameOf agent trips modes := rfl
      rw [model.select_of_found desk found,
        (model.audited auditor).select_of_found other found, frame]
      generalize model.walk (model.frameOf agent trips modes) trips
        (model.begin agent desk) = walk at told walked ending ⊢
      generalize (model.audited auditor).walk (model.frameOf agent trips modes) trips
        ((model.audited auditor).begin agent other) = walk' at told walked ending ⊢
      rcases walk with ⟨trips, ending, events⟩
      rcases walk' with ⟨trips', ending', events'⟩
      cases ending with
      | finished alike => exact told
      | @stopped stop trip first second oracle =>
          cases stop with
          | failure => exact told
          | reversal =>
              exact model.events_revert_alike auditor agent walked told _ _

end Model

end ModeChoice
