import ModeChoice.Proofs.Retry.Rounds
import ModeChoice.Selection.Model

/-!
# The stages of a tour

A walk along trips is a chain of turns, each of which sets out from the progress
that the one before has made.  `Model.stages` lists where every turn sets out
from; the walk is nothing but the turns of its stages, one after the other, and
what a stage finds already kept is what the stages before it have kept.

`Model.Course` tells the five ways that a turn can go.  Whatever is claimed of a
turn is proved by looking at them, and of a walk by induction on its trips.
-/

namespace ModeChoice

/-- A trip whose turn has come, and the progress made before it. -/
structure Stage (σ τ : Type) where
  progress : Progress σ τ
  planned : Trip

namespace Stage

variable {σ τ : Type} (stage : Stage σ τ)

/-- The clock after the activity at the origin. -/
def clock : Clock :=
  stage.progress.clock.passActivity stage.planned.origin.timing

/-- The trip with its departure set. -/
def trip : Trip :=
  stage.planned.departAt stage.clock.time

end Stage

namespace Model

variable {σ τ : Type} (model : Model σ τ) (frame : TourFrame)

/-! ## One turn -/

/-- The turn of a stage. -/
def turnAt (stage : Stage σ τ) : Turn σ τ :=
  model.turn frame stage.progress stage.planned

/-- Whether the filter lets the trip of a stage through. -/
def selects (stage : Stage σ τ) : Bool :=
  model.filter.applies frame.agent stage.trip

/-- What the retry loop is about at a stage. -/
def encounterAt (stage : Stage σ τ) : Encounter :=
  model.encounter frame stage.trip stage.progress.kept

/-- The retry loop of a stage. -/
def searchAt (stage : Stage σ τ) : Search σ :=
  (model.encounterAt frame stage).search model.oracle frame.modes.candidates
    stage.progress.desk.oracle stage.progress.random

/-- The progress of a stage with what the retry loop has changed. -/
def searched (stage : Stage σ τ) : Progress σ τ :=
  { stage.progress with
    desk := { stage.progress.desk with oracle := (model.searchAt frame stage).state }
    random := (model.searchAt frame stage).random }

/-- The estimate of the initial mode at a stage. -/
def initialAt (stage : Stage σ τ) : Candidate :=
  model.estimateInitial frame.agent stage.trip stage.progress.kept

/-- The trip of a stage goes through the retry loop and gets no mode. -/
def Stuck (stage : Stage σ τ) : Prop :=
  model.selects frame stage = true ∧ (model.searchAt frame stage).kept = none

/-- The candidate that a stage keeps, if the tour goes on after it. -/
def keptAt (stage : Stage σ τ) : Option Candidate :=
  if model.selects frame stage then
    match (model.searchAt frame stage).kept, model.fallback with
    | some candidate, _ => some candidate
    | none, .initialChoice => some (model.initialAt frame stage)
    | none, _ => none
  else some (model.initialAt frame stage)

/-- The event with which a trip's turn begins. -/
def pending (stage : Stage σ τ) : Event :=
  .entered stage.planned.index .pending

/-- The ways that a turn can go. -/
inductive Course (stage : Stage σ τ) : Turn σ τ → Prop where
  /-- The filter leaves the trip out. -/
  | leftOut (out : model.selects frame stage = false) :
      Course stage
        (model.keepInitial frame stage.progress stage.clock stage.trip []
          [pending stage, .leftOut stage.planned.index])
  /-- The retry loop finds a mode. -/
  | chosen {candidate : Candidate} (through : model.selects frame stage = true)
      (found : (model.searchAt frame stage).kept = some candidate) :
      Course stage
        { trip := stage.trip
          ending := .advanced (model.keep frame.agent (model.searched frame stage) stage.clock
            stage.trip (model.searchAt frame stage).evaluated candidate).1
          events := [pending stage] ++ (model.searchAt frame stage).events ++
            [(model.keep frame.agent (model.searched frame stage) stage.clock stage.trip
              (model.searchAt frame stage).evaluated candidate).2] }
  /-- The retry loop finds none, and the trip keeps its initial mode. -/
  | fellBack (stuck : model.Stuck frame stage) (policy : model.fallback = .initialChoice) :
      Course stage
        (model.keepInitial frame (model.searched frame stage) stage.clock stage.trip
          (model.searchAt frame stage).evaluated
          ([pending stage] ++ (model.searchAt frame stage).events ++
            [.fellBack stage.planned.index stage.planned.initialMode]))
  /-- The retry loop finds none, and the tour goes back to its initial modes. -/
  | reversed (stuck : model.Stuck frame stage) (policy : model.fallback = .ignoreAgent) :
      Course stage
        { trip := stage.trip
          ending := .stopped .reversal (model.searched frame stage).desk
          events := [pending stage] ++ (model.searchAt frame stage).events ++
            [.reverted stage.planned.index] }
  /-- The retry loop finds none, and the selection fails. -/
  | failed (stuck : model.Stuck frame stage) (policy : model.fallback = .exception) :
      Course stage
        { trip := stage.trip
          ending := .stopped .failure (model.searched frame stage).desk
          events := [pending stage] ++ (model.searchAt frame stage).events }

theorem course_turnAt (stage : Stage σ τ) :
    model.Course frame stage (model.turnAt frame stage) := by
  cases through : model.selects frame stage with
  | false =>
      have kept : model.turnAt frame stage =
          model.keepInitial frame stage.progress stage.clock stage.trip []
            [pending stage, .leftOut stage.planned.index] :=
        if_neg (ne_true_of_eq_false through)
      rw [kept]
      exact .leftOut through
  | true =>
      have entered : model.turnAt frame stage =
          model.chooseTurn frame stage.progress stage.clock stage.trip [pending stage] :=
        if_pos through
      rw [entered, chooseTurn]
      dsimp only
      split
      · rename_i candidate found
        exact .chosen through found
      · rename_i unfound
        split
        · rename_i policy
          exact .fellBack ⟨through, unfound⟩ policy
        · rename_i policy
          exact .reversed ⟨through, unfound⟩ policy
        · rename_i policy
          exact .failed ⟨through, unfound⟩ policy

variable {model frame}

theorem keptAt_of_out {stage : Stage σ τ} (out : model.selects frame stage = false) :
    model.keptAt frame stage = some (model.initialAt frame stage) := by
  simp [keptAt, out]

theorem keptAt_of_found {stage : Stage σ τ} {candidate : Candidate}
    (through : model.selects frame stage = true)
    (found : (model.searchAt frame stage).kept = some candidate) :
    model.keptAt frame stage = some candidate := by
  simp [keptAt, through, found]

theorem keptAt_of_stuck {stage : Stage σ τ} (stuck : model.Stuck frame stage) :
    model.keptAt frame stage =
      if model.fallback = .initialChoice then some (model.initialAt frame stage)
      else none := by
  cases policy : model.fallback <;> simp [keptAt, stuck.1, stuck.2, policy]

theorem keptAt_eq_none_iff {stage : Stage σ τ} :
    model.keptAt frame stage = none ↔
      model.Stuck frame stage ∧ model.fallback ≠ .initialChoice := by
  constructor
  · intro nothing
    cases through : model.selects frame stage with
    | false => simp [keptAt_of_out through] at nothing
    | true =>
        cases found : (model.searchAt frame stage).kept with
        | some candidate => simp [keptAt_of_found through found] at nothing
        | none =>
            have stuck : model.Stuck frame stage := ⟨through, found⟩
            rw [keptAt_of_stuck stuck] at nothing
            exact ⟨stuck, fun policy => by simp [policy] at nothing⟩
  · rintro ⟨stuck, policy⟩
    rw [keptAt_of_stuck stuck, if_neg policy]

namespace Course

variable {stage : Stage σ τ} {turn : Turn σ τ}

theorem trip_eq (course : model.Course frame stage turn) : turn.trip = stage.trip := by
  cases course <;> rfl

/-- Where the tour goes on, the kept candidate is one more, and it has moved the
clock. -/
theorem of_advanced (course : model.Course frame stage turn) {after : Progress σ τ}
    (advanced : turn.ending = .advanced after) :
    ∃ candidate, model.keptAt frame stage = some candidate ∧
      after.kept = stage.progress.kept ++ [candidate] ∧
      after.clock = stage.clock.travel candidate.duration := by
  cases course with
  | leftOut out =>
      cases advanced
      exact ⟨_, keptAt_of_out out, rfl, rfl⟩
  | chosen through found =>
      cases advanced
      exact ⟨_, keptAt_of_found through found, rfl, rfl⟩
  | fellBack stuck policy =>
      cases advanced
      exact ⟨_, (keptAt_of_stuck stuck).trans (if_pos policy), rfl, rfl⟩
  | reversed stuck policy => cases advanced
  | failed stuck policy => cases advanced

/-- A tour stops at a trip without a mode alone, and how it stops is the
policy's choice. -/
theorem of_stopped (course : model.Course frame stage turn) {stop : Stop}
    {desk : Desk σ τ} (stopped : turn.ending = .stopped stop desk) :
    model.Stuck frame stage ∧
      (stop = .reversal ∧ model.fallback = .ignoreAgent ∧
          .reverted stage.planned.index ∈ turn.events ∨
        stop = .failure ∧ model.fallback = .exception) := by
  cases course with
  | leftOut out => cases stopped
  | chosen through found => cases stopped
  | fellBack stuck policy => cases stopped
  | reversed stuck policy =>
      cases stopped
      exact ⟨stuck, .inl ⟨rfl, policy, by simp⟩⟩
  | failed stuck policy =>
      cases stopped
      exact ⟨stuck, .inr ⟨rfl, policy⟩⟩

theorem keptAt_of_stopped (course : model.Course frame stage turn) {stop : Stop}
    {desk : Desk σ τ} (stopped : turn.ending = .stopped stop desk) :
    model.keptAt frame stage = none := by
  rcases course.of_stopped stopped with ⟨stuck, ⟨_, policy, _⟩ | ⟨_, policy⟩⟩
  · exact keptAt_eq_none_iff.2 ⟨stuck, by simp [policy]⟩
  · exact keptAt_eq_none_iff.2 ⟨stuck, by simp [policy]⟩

end Course

/-! ## The whole walk -/

variable (model frame)

/-- Where the turns of a walk set out from: every trip that had its turn, with
the progress made before it. -/
def stages : List Trip → Progress σ τ → List (Stage σ τ)
  | [], _ => []
  | planned :: rest, progress =>
      ⟨progress, planned⟩ ::
        match (model.turnAt frame ⟨progress, planned⟩).ending with
        | .advanced after => stages rest after
        | .stopped _ _ => []

/-- A walk along trips with the stages it has. -/
inductive Journey : List Trip → Progress σ τ → List (Stage σ τ) → Walk σ τ → Prop where
  /-- There are no trips. -/
  | arrived {progress : Progress σ τ} :
      Journey [] progress [] { trips := [], ending := .finished progress, events := [] }
  /-- The first turn goes on to the others. -/
  | onward {planned : Trip} {rest : List Trip} {progress after : Progress σ τ}
      {stages : List (Stage σ τ)} {walk : Walk σ τ}
      (advanced : (model.turnAt frame ⟨progress, planned⟩).ending = .advanced after)
      (tail : Journey rest after stages walk) :
      Journey (planned :: rest) progress (⟨progress, planned⟩ :: stages)
        { trips := (Stage.mk progress planned).trip :: walk.trips
          ending := walk.ending
          events := (model.turnAt frame ⟨progress, planned⟩).events ++ walk.events }
  /-- The first turn stops the tour. -/
  | halted {planned : Trip} {rest : List Trip} {progress : Progress σ τ} {stop : Stop}
      {desk : Desk σ τ}
      (stopped : (model.turnAt frame ⟨progress, planned⟩).ending = .stopped stop desk) :
      Journey (planned :: rest) progress [⟨progress, planned⟩]
        { trips := (Stage.mk progress planned).trip :: rest
          ending := .stopped stop (Stage.mk progress planned).trip desk
          events := (model.turnAt frame ⟨progress, planned⟩).events }

theorem walk_cons (planned : Trip) (rest : List Trip) (progress : Progress σ τ) :
    model.walk frame (planned :: rest) progress =
      match (model.turnAt frame ⟨progress, planned⟩).ending with
      | .advanced after =>
          { trips := (model.turnAt frame ⟨progress, planned⟩).trip ::
              (model.walk frame rest after).trips
            ending := (model.walk frame rest after).ending
            events := (model.turnAt frame ⟨progress, planned⟩).events ++
              (model.walk frame rest after).events }
      | .stopped stop desk =>
          { trips := (model.turnAt frame ⟨progress, planned⟩).trip :: rest
            ending := .stopped stop (model.turnAt frame ⟨progress, planned⟩).trip desk
            events := (model.turnAt frame ⟨progress, planned⟩).events } := rfl

theorem journey_walk (trips : List Trip) (progress : Progress σ τ) :
    model.Journey frame trips progress (model.stages frame trips progress)
      (model.walk frame trips progress) := by
  induction trips generalizing progress with
  | nil => exact .arrived
  | cons planned rest ih =>
      have same := (model.course_turnAt frame ⟨progress, planned⟩).trip_eq
      cases ending : (model.turnAt frame ⟨progress, planned⟩).ending with
      | advanced after =>
          simp only [walk_cons, stages, ending, same]
          exact .onward ending (ih after)
      | stopped stop desk =>
          simp only [walk_cons, stages, ending, same]
          exact .halted ending

variable {model frame}

namespace Journey

variable {trips : List Trip} {progress : Progress σ τ} {stages : List (Stage σ τ)}
  {walk : Walk σ τ}

theorem planned_eq (journey : model.Journey frame trips progress stages walk) :
    stages.map Stage.planned = trips.take stages.length := by
  induction journey with
  | arrived => rfl
  | onward advanced tail ih => simp [ih]
  | halted stopped => simp

/-- The trips that had their turns are stamped, and the others are as before. -/
theorem trips_eq (journey : model.Journey frame trips progress stages walk) :
    walk.trips = stages.map Stage.trip ++ trips.drop stages.length := by
  induction journey with
  | arrived => rfl
  | onward advanced tail ih => simp [ih]
  | halted stopped => simp

theorem planned_getElem? (journey : model.Journey frame trips progress stages walk)
    {place : Nat} {stage : Stage σ τ} (there : stages[place]? = some stage) :
    trips[place]? = some stage.planned := by
  have within : place < stages.length := (List.getElem?_eq_some_iff.1 there).1
  have same : (stages.map Stage.planned)[place]? = (trips.take stages.length)[place]? := by
    rw [journey.planned_eq]
  rw [List.getElem?_map, there, List.getElem?_take_of_lt within] at same
  exact same.symm

theorem trip_getElem? (journey : model.Journey frame trips progress stages walk)
    {place : Nat} {stage : Stage σ τ} (there : stages[place]? = some stage) :
    walk.trips[place]? = some stage.trip := by
  have within : place < stages.length := (List.getElem?_eq_some_iff.1 there).1
  rw [journey.trips_eq, List.getElem?_append_left (by simpa using within)]
  simp [there]

theorem events_eq (journey : model.Journey frame trips progress stages walk) :
    walk.events = stages.flatMap fun stage => (model.turnAt frame stage).events := by
  induction journey with
  | arrived => rfl
  | onward advanced tail ih => simp [ih]
  | halted stopped => simp

/-- What a stage finds already kept is what the stages before it have kept. -/
theorem kept_eq (journey : model.Journey frame trips progress stages walk) {place : Nat}
    {stage : Stage σ τ} (there : stages[place]? = some stage) :
    stage.progress.kept =
      progress.kept ++ (stages.take place).filterMap (model.keptAt frame) := by
  induction journey generalizing place with
  | arrived => cases there
  | @onward planned rest progress after stages walk advanced tail ih =>
      cases place with
      | zero =>
          cases there
          simp
      | succ place =>
          rcases (model.course_turnAt frame ⟨progress, planned⟩).of_advanced advanced with
            ⟨candidate, kept, more, _⟩
          have earlier := ih there
          simp [earlier, more, kept]
  | halted stopped =>
      cases place with
      | zero =>
          cases there
          simp
      | succ place => cases there

/-- A walk to the end has a stage for every trip, and every stage has kept a
candidate. -/
theorem of_finished (journey : model.Journey frame trips progress stages walk)
    {after : Progress σ τ} (finished : walk.ending = .finished after) :
    stages.length = trips.length ∧
      ∃ kept, after.kept = progress.kept ++ kept ∧
        stages.map (model.keptAt frame) = kept.map some := by
  induction journey with
  | arrived =>
      cases finished
      exact ⟨rfl, [], by simp, rfl⟩
  | @onward planned rest progress next stages walk advanced tail ih =>
      rcases (model.course_turnAt frame ⟨progress, planned⟩).of_advanced advanced with
        ⟨candidate, here, more, _⟩
      rcases ih finished with ⟨length, kept, final, all⟩
      exact ⟨by simp [length], candidate :: kept, by simp [final, more], by simp [here, all]⟩
  | halted stopped => cases finished

/-- A walk that stops does so at its last stage, and all stages before that one
have kept a candidate. -/
theorem of_stopped (journey : model.Journey frame trips progress stages walk) {stop : Stop}
    {trip : Trip} {desk : Desk σ τ} (stopped : walk.ending = .stopped stop trip desk) :
    ∃ before last, stages = before ++ [last] ∧
      (∀ stage ∈ before, model.keptAt frame stage ≠ none) ∧
      (model.turnAt frame last).ending = .stopped stop desk ∧ trip = last.trip := by
  induction journey with
  | arrived => cases stopped
  | @onward planned rest progress next stages walk advanced tail ih =>
      rcases (model.course_turnAt frame ⟨progress, planned⟩).of_advanced advanced with
        ⟨candidate, kept, _⟩
      rcases ih stopped with ⟨before, last, rfl, all, final⟩
      refine ⟨⟨progress, planned⟩ :: before, last, rfl, ?_, final⟩
      intro stage among
      rcases List.mem_cons.1 among with rfl | later
      · simp [kept]
      · exact all stage later
  | @halted planned rest progress stop' desk' halted =>
      cases stopped
      exact ⟨[], ⟨progress, planned⟩, rfl, by simp, halted, rfl⟩

/-- A walk that is sent back has an event that tells of it. -/
theorem reverted_mem_of_reversal (journey : model.Journey frame trips progress stages walk)
    {trip : Trip} {desk : Desk σ τ} (stopped : walk.ending = .stopped .reversal trip desk) :
    ∃ index, .reverted index ∈ walk.events := by
  rcases journey.of_stopped stopped with ⟨before, last, rfl, _, halted, _⟩
  rcases (model.course_turnAt frame last).of_stopped halted with
    ⟨_, ⟨_, _, told⟩ | ⟨impossible, _⟩⟩
  · refine ⟨last.planned.index, ?_⟩
    rw [journey.events_eq]
    exact List.mem_flatMap.2 ⟨last, by simp, told⟩
  · cases impossible

theorem policy_of_reversal (journey : model.Journey frame trips progress stages walk)
    {trip : Trip} {desk : Desk σ τ} (stopped : walk.ending = .stopped .reversal trip desk) :
    model.fallback = .ignoreAgent := by
  rcases journey.of_stopped stopped with ⟨before, last, _, _, halted, _⟩
  rcases (model.course_turnAt frame last).of_stopped halted with
    ⟨_, ⟨_, policy, _⟩ | ⟨impossible, _⟩⟩
  · exact policy
  · cases impossible

end Journey

/-- What stages have kept, if all have kept something. -/
theorem filterMap_keptAt {stages : List (Stage σ τ)} {kept : List Candidate}
    (all : stages.map (model.keptAt frame) = kept.map some) :
    stages.filterMap (model.keptAt frame) = kept := by
  calc
    stages.filterMap (model.keptAt frame)
      = (stages.map (model.keptAt frame)).filterMap id := by
          rw [List.filterMap_map]
          rfl
    _ = (kept.map some).filterMap id := by rw [all]
    _ = kept := by
          rw [List.filterMap_map]
          exact List.filterMap_some

/-- What the stages before a place have kept, read off what all have kept. -/
theorem filterMap_keptAt_take {stages : List (Stage σ τ)} {kept : List Candidate}
    (all : stages.map (model.keptAt frame) = kept.map some) (place : Nat) :
    (stages.take place).filterMap (model.keptAt frame) = kept.take place := by
  apply filterMap_keptAt
  rw [List.map_take, all, List.map_take]

theorem Journey.length_kept {trips : List Trip} {progress after : Progress σ τ}
    {stages : List (Stage σ τ)} {walk : Walk σ τ}
    (journey : model.Journey frame trips progress stages walk)
    (fresh : progress.kept = []) (finished : walk.ending = .finished after) :
    after.kept.length = trips.length := by
  rcases journey.of_finished finished with ⟨length, kept, same, all⟩
  have lengths := congrArg List.length all
  simp only [List.length_map] at lengths
  rw [same, fresh, List.nil_append, ← lengths, length]

/-- A candidate at a place was kept at the stage of this place, which had found
kept what stands before it. -/
theorem Journey.stage_of_kept {trips : List Trip} {progress after : Progress σ τ}
    {stages : List (Stage σ τ)} {walk : Walk σ τ}
    (journey : model.Journey frame trips progress stages walk)
    (fresh : progress.kept = []) (finished : walk.ending = .finished after)
    {place : Nat} {candidate : Candidate} (there : after.kept[place]? = some candidate) :
    ∃ stage, stages[place]? = some stage ∧ model.keptAt frame stage = some candidate ∧
      stage.progress.kept = after.kept.take place := by
  rcases journey.of_finished finished with ⟨_, kept, same, all⟩
  rw [fresh, List.nil_append] at same
  subst same
  have image : (stages.map (model.keptAt frame))[place]? = some (some candidate) := by
    rw [all, List.getElem?_map, there]
    rfl
  rw [List.getElem?_map] at image
  rcases Option.map_eq_some_iff.1 image with ⟨stage, here, keeps⟩
  refine ⟨stage, here, keeps, ?_⟩
  rw [journey.kept_eq here, filterMap_keptAt_take all, fresh, List.nil_append]

/-- The other way round, every stage of a walk to the end has kept the candidate
at its place. -/
theorem Journey.kept_of_stage {trips : List Trip} {progress after : Progress σ τ}
    {stages : List (Stage σ τ)} {walk : Walk σ τ}
    (journey : model.Journey frame trips progress stages walk)
    (fresh : progress.kept = []) (finished : walk.ending = .finished after)
    {place : Nat} {stage : Stage σ τ} (there : stages[place]? = some stage) :
    ∃ candidate, after.kept[place]? = some candidate ∧
      model.keptAt frame stage = some candidate ∧
      stage.progress.kept = after.kept.take place := by
  rcases journey.of_finished finished with ⟨_, kept, same, all⟩
  rw [fresh, List.nil_append] at same
  subst same
  have image : (after.kept.map some)[place]? = some (model.keptAt frame stage) := by
    rw [← all, List.getElem?_map, there]
    rfl
  rw [List.getElem?_map] at image
  rcases Option.map_eq_some_iff.1 image with ⟨candidate, here, keeps⟩
  refine ⟨candidate, here, keeps.symm, ?_⟩
  rw [journey.kept_eq there, filterMap_keptAt_take all, fresh, List.nil_append]

/-! ## A whole selection -/

variable (model)

/-- What is fixed when a tour begins with these modes. -/
def frameOf (agent : Agent) (trips : List Trip) (modes : TourModes) : TourFrame :=
  { agent, modes, constraint := model.constraints.create agent trips modes }

/-- The stages of the selection of a tour that has these modes. -/
def history (desk : Desk σ τ) (agent : Agent) (trips : List Trip) (modes : TourModes) :
    List (Stage σ τ) :=
  model.stages (model.frameOf agent trips modes) trips (model.begin agent desk)

/-- The ways that a selection can go. -/
inductive SelectionCourse (desk : Desk σ τ) (agent : Agent) (trips : List Trip) :
    Selection σ τ → Prop where
  /-- The traveller has no mode. -/
  | barren (nothing : model.availability.modes agent trips = []) :
      SelectionCourse desk agent trips
        { outcome := .error (.emptyModeSet agent.id), trips, desk, events := [] }
  /-- All trips have had their turns. -/
  | completed {modes : TourModes} {walk : Walk σ τ} {progress : Progress σ τ}
      (found : TourModes.ofList (model.availability.modes agent trips) = .ok modes)
      (journey : model.Journey (model.frameOf agent trips modes) trips
        (model.begin agent desk) (model.history desk agent trips modes) walk)
      (finished : walk.ending = .finished progress) :
      SelectionCourse desk agent trips
        { outcome := .ok progress.kept, trips := walk.trips, desk := progress.desk,
          events := walk.events }
  /-- A trip without a mode has sent the tour back. -/
  | reverted {modes : TourModes} {walk : Walk σ τ} {trip : Trip} {last : Desk σ τ}
      (found : TourModes.ofList (model.availability.modes agent trips) = .ok modes)
      (journey : model.Journey (model.frameOf agent trips modes) trips
        (model.begin agent desk) (model.history desk agent trips modes) walk)
      (stopped : walk.ending = .stopped .reversal trip last) :
      SelectionCourse desk agent trips (model.revert agent walk last)
  /-- A trip without a mode has made the selection fail. -/
  | failed {modes : TourModes} {walk : Walk σ τ} {trip : Trip} {last : Desk σ τ}
      (found : TourModes.ofList (model.availability.modes agent trips) = .ok modes)
      (journey : model.Journey (model.frameOf agent trips modes) trips
        (model.begin agent desk) (model.history desk agent trips modes) walk)
      (stopped : walk.ending = .stopped .failure trip last) :
      SelectionCourse desk agent trips
        { outcome := .error (.noFeasibleChoice agent.id trip.index), trips := walk.trips,
          desk := last, events := walk.events }

theorem select_of_barren (desk : Desk σ τ) {agent : Agent} {trips : List Trip}
    (nothing : model.availability.modes agent trips = []) :
    model.select desk agent trips =
      { outcome := .error (.emptyModeSet agent.id), trips, desk, events := [] } := by
  have refused : TourModes.ofList (model.availability.modes agent trips) =
      .error .emptySet :=
    TourModes.ofList_eq_error_iff.2 ⟨nothing, rfl⟩
  simp only [select, refused]

theorem select_of_found (desk : Desk σ τ) {agent : Agent} {trips : List Trip}
    {modes : TourModes}
    (found : TourModes.ofList (model.availability.modes agent trips) = .ok modes) :
    model.select desk agent trips =
      match (model.walk (model.frameOf agent trips modes) trips
          (model.begin agent desk)).ending with
      | .finished progress =>
          { outcome := .ok progress.kept
            trips := (model.walk (model.frameOf agent trips modes) trips
              (model.begin agent desk)).trips
            desk := progress.desk
            events := (model.walk (model.frameOf agent trips modes) trips
              (model.begin agent desk)).events }
      | .stopped .reversal _ last =>
          model.revert agent (model.walk (model.frameOf agent trips modes) trips
            (model.begin agent desk)) last
      | .stopped .failure trip last =>
          { outcome := .error (.noFeasibleChoice agent.id trip.index)
            trips := (model.walk (model.frameOf agent trips modes) trips
              (model.begin agent desk)).trips
            desk := last
            events := (model.walk (model.frameOf agent trips modes) trips
              (model.begin agent desk)).events } := by
  simp only [select, found]
  rfl

theorem select_of_finished (desk : Desk σ τ) {agent : Agent} {trips : List Trip}
    {modes : TourModes} {after : Progress σ τ}
    (found : TourModes.ofList (model.availability.modes agent trips) = .ok modes)
    (finished : (model.walk (model.frameOf agent trips modes) trips
      (model.begin agent desk)).ending = .finished after) :
    model.select desk agent trips =
      { outcome := .ok after.kept
        trips := (model.walk (model.frameOf agent trips modes) trips
          (model.begin agent desk)).trips
        desk := after.desk
        events := (model.walk (model.frameOf agent trips modes) trips
          (model.begin agent desk)).events } := by
  rw [model.select_of_found desk found, finished]

theorem selectionCourse_select (desk : Desk σ τ) (agent : Agent) (trips : List Trip) :
    model.SelectionCourse desk agent trips (model.select desk agent trips) := by
  unfold select
  split
  · rename_i error refused
    exact .barren (TourModes.ofList_eq_error_iff.1 refused).1
  · rename_i modes found
    have journey := model.journey_walk (model.frameOf agent trips modes) trips
      (model.begin agent desk)
    dsimp only
    split
    · rename_i progress finished
      exact .completed found journey finished
    · rename_i trip last stopped
      exact .reverted found journey stopped
    · rename_i trip last stopped
      exact .failed found journey stopped

end Model

end ModeChoice
