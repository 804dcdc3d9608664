import ModeChoice.Proofs.Retry.Agreement
import ModeChoice.Proofs.Tour.Decisions
import ModeChoice.Proofs.Tour.Front

/-!
# What comes later does not matter

A selection takes the trips in order and keeps no other state than the progress
made so far; only the availability and the maker of the rule see the whole tour.
Those at hand do not look ahead, and so two tours that begin with the same trips
go through the same turns for these trips, whatever comes after them.
-/

namespace ModeChoice

/-- What is fixed for a tour, with another rule. -/
def TourFrame.ruledBy (frame : TourFrame) (constraint : Constraint) : TourFrame :=
  { frame with constraint }

namespace Model

variable {σ τ : Type} (model : Model σ τ)

/-- Nothing stops the tour: every trip gets a mode, or the policy is to keep the
initial modes of those that get none. -/
def GoesOn (desk : Desk σ τ) (agent : Agent) (trips : List Trip) : Prop :=
  model.fallback = .initialChoice ∨
    ∀ modes, TourModes.ofList (model.availability.modes agent trips) = .ok modes →
      ∀ stage ∈ model.history desk agent trips modes,
        ¬ model.Stuck (model.frameOf agent trips modes) stage

/-- The turns of the trips, one for each, are all that happens. -/
structure TurnByTurn (desk : Desk σ τ) (agent : Agent) (trips : List Trip) : Prop where
  events : (model.select desk agent trips).events =
    (model.turnEvents desk agent trips).flatten
  each : model.availability.modes agent trips ≠ [] →
    (model.turnEvents desk agent trips).length = trips.length

/-! ## Turns under rules that agree -/

section Walks

variable {frame : TourFrame} {constraint : Constraint} {bound : Nat}
  (agrees : constraint.AgreesBelow bound frame.constraint)

include agrees

theorem searchAt_ruledBy {stage : Stage σ τ} (early : stage.progress.kept.length < bound) :
    model.searchAt (frame.ruledBy constraint) stage = model.searchAt frame stage := by
  apply Encounter.search_ruledBy model.oracle (model.encounterAt frame stage) constraint
  · intro mode
    exact agrees.modes stage.trip mode _ (by simpa [encounterAt, Encounter.previousModes])
  · intro candidate
    exact agrees.candidates stage.trip candidate _ early

theorem turnAt_ruledBy {stage : Stage σ τ} (early : stage.progress.kept.length < bound) :
    model.turnAt (frame.ruledBy constraint) stage = model.turnAt frame stage := by
  cases through : model.selects frame stage with
  | false =>
      have out : model.Course (frame.ruledBy constraint) stage _ := .leftOut through
      have out' : model.Course frame stage _ := .leftOut through
      exact out.eq_turnAt.trans out'.eq_turnAt.symm
  | true =>
      have through' : model.selects (frame.ruledBy constraint) stage = true := through
      have search := model.searchAt_ruledBy agrees early
      simp only [searchAt, encounterAt] at search
      rw [turnAt_of_through through, turnAt_of_through through']
      simp only [chooseTurn, search]
      rfl

theorem walk_ruledBy {trips : List Trip} {progress : Progress σ τ}
    (early : progress.kept.length + trips.length ≤ bound) :
    model.walk (frame.ruledBy constraint) trips progress = model.walk frame trips progress ∧
      (model.stages (frame.ruledBy constraint) trips progress).map
          (model.turnAt (frame.ruledBy constraint)) =
        (model.stages frame trips progress).map (model.turnAt frame) := by
  induction trips generalizing progress with
  | nil => exact ⟨rfl, rfl⟩
  | cons planned rest ih =>
      rw [List.length_cons] at early
      have turn : model.turnAt (frame.ruledBy constraint) ⟨progress, planned⟩ =
          model.turnAt frame ⟨progress, planned⟩ :=
        model.turnAt_ruledBy agrees (by simp; omega)
      rw [walk_cons, walk_cons]
      simp only [stages, turn, List.map_cons]
      cases ending : (model.turnAt frame ⟨progress, planned⟩).ending with
      | stopped stop desk => exact ⟨rfl, rfl⟩
      | advanced next =>
          -- One trip less is to come and one candidate more is kept, so the bound holds on.
          rcases (model.course_turnAt frame ⟨progress, planned⟩).of_advanced ending with
            ⟨candidate, _, more, _⟩
          have one_more : next.kept.length = progress.kept.length + 1 := by simp [more]
          have early' : next.kept.length + rest.length ≤ bound := by omega
          rcases ih early' with ⟨walks, turns⟩
          simp only [walks, turns, and_self]

end Walks

/-! ## Selections -/

variable {model} {desk : Desk σ τ} {agent : Agent}

theorem GoesOn.exists_finished {trips : List Trip} {modes : TourModes}
    (found : TourModes.ofList (model.availability.modes agent trips) = .ok modes)
    (goesOn : model.GoesOn desk agent trips) :
    ∃ final, (model.walk (model.frameOf agent trips modes) trips
      (model.begin agent desk)).ending = .finished final := by
  apply model.exists_finished_of_unstuck
  rcases goesOn with keeps | free
  · exact .inl keeps
  · exact .inr (free modes found)

/-- A tour that nothing stops goes turn by turn. -/
theorem GoesOn.turnByTurn {trips : List Trip} (goesOn : model.GoesOn desk agent trips) :
    model.TurnByTurn desk agent trips := by
  cases found : TourModes.ofList (model.availability.modes agent trips) with
  | error error =>
      have nothing := (TourModes.ofList_eq_error_iff.1 found).1
      constructor
      · rw [model.select_of_barren desk nothing, turnEvents_of_barren nothing]
        rfl
      · intro something
        exact absurd nothing something
  | ok modes =>
      rcases goesOn.exists_finished found with ⟨final, finished⟩
      constructor
      · rw [model.select_of_finished desk found finished, flatten_turnEvents found]
      · intro _
        rw [turnEvents_of_found found, List.length_map]
        exact model.length_stages _ finished

section Front

variable {front rest : List Trip} {modes : TourModes} {after final : Progress σ τ}
  (found : TourModes.ofList (model.availability.modes agent (front ++ rest)) = .ok modes)
  (arrived : (model.walk (model.frameOf agent (front ++ rest) modes) front
    (model.begin agent desk)).ending = .finished after)

include found arrived

/-- What a selection does to its first trips is what the walk along them does. -/
theorem select_front_of_finished
    (finished : (model.walk (model.frameOf agent (front ++ rest) modes) (front ++ rest)
      (model.begin agent desk)).ending = .finished final) :
    (model.select desk agent (front ++ rest)).outcome.map (List.take front.length) =
        .ok after.kept ∧
      (model.select desk agent (front ++ rest)).trips.take front.length =
        (model.walk (model.frameOf agent (front ++ rest) modes) front
          (model.begin agent desk)).trips := by
  have kept := model.kept_take_of_arrived _ rfl arrived finished
  have length := model.length_trips_walk (model.frameOf agent (front ++ rest) modes) front
    (model.begin agent desk)
  rw [model.select_of_finished desk found finished]
  constructor
  · exact congrArg Except.ok kept
  · rw [model.walk_append _ arrived, ← length, List.take_left' rfl]

theorem turnEvents_front :
    (model.turnEvents desk agent (front ++ rest)).take front.length =
      ((model.stages (model.frameOf agent (front ++ rest) modes) front
        (model.begin agent desk)).map
          (model.turnAt (model.frameOf agent (front ++ rest) modes))).map Turn.events := by
  have length := model.length_stages _ arrived
  rw [turnEvents_of_found found, history, model.stages_append _ arrived, List.map_append,
    List.take_left' (by rw [List.length_map, length]), List.map_map]
  rfl

end Front

/-- With the availabilities and the rules at hand, and whatever oracle, estimator
and filter there are, a selection that nothing stops does the same for the first
trips of a tour, whatever comes after them: it keeps the same candidates, sets the
same departures, and goes through the same turns, with every question to the
oracle and every record in them. -/
theorem select_sees_no_further (model : Model σ τ) (desk : Desk σ τ) (agent : Agent)
    {front : List Trip} (some : front ≠ []) (first second : List Trip)
    (availability : model.availability.Bundled) (constraints : model.constraints.Bundled)
    (one : model.GoesOn desk agent (front ++ first))
    (other : model.GoesOn desk agent (front ++ second)) :
    (model.select desk agent (front ++ first)).outcome.map (List.take front.length) =
        (model.select desk agent (front ++ second)).outcome.map (List.take front.length) ∧
      (model.select desk agent (front ++ first)).trips.take front.length =
        (model.select desk agent (front ++ second)).trips.take front.length ∧
      (model.turnEvents desk agent (front ++ first)).take front.length =
        (model.turnEvents desk agent (front ++ second)).take front.length ∧
      model.TurnByTurn desk agent (front ++ first) ∧
      model.TurnByTurn desk agent (front ++ second) := by
  have same := availability.modes_eq agent (front ++ first) (front ++ second)
  cases found : TourModes.ofList (model.availability.modes agent (front ++ first)) with
  | error error =>
      have nothing := (TourModes.ofList_eq_error_iff.1 found).1
      have nothing' := same.symm.trans nothing
      rw [model.select_of_barren desk nothing, model.select_of_barren desk nothing',
        turnEvents_of_barren nothing, turnEvents_of_barren nothing']
      exact ⟨rfl, by simp, rfl, one.turnByTurn, other.turnByTurn⟩
  | ok modes =>
      have found' : TourModes.ofList (model.availability.modes agent (front ++ second)) =
        .ok modes := by rw [← same, found]
      rcases one.exists_finished found with ⟨final, finished⟩
      rcases other.exists_finished found' with ⟨final', finished'⟩
      rcases model.exists_arrived_of_finished _ finished with ⟨after, arrived⟩
      have frames : model.frameOf agent (front ++ second) modes =
          (model.frameOf agent (front ++ first) modes).ruledBy
            (model.constraints.create agent (front ++ second) modes) := rfl
      have agrees : (model.constraints.create agent (front ++ second) modes).AgreesBelow
          front.length (model.frameOf agent (front ++ first) modes).constraint :=
        constraints.unforeseeing agent modes front second first some
      have early : (model.begin agent desk).kept.length + front.length ≤ front.length := by
        simp [begin]
      rcases model.walk_ruledBy agrees early with ⟨walks, turns⟩
      rw [← frames] at walks turns
      have arrived' := (congrArg Walk.ending walks).trans arrived
      rcases select_front_of_finished found arrived finished with ⟨kept, dated⟩
      rcases select_front_of_finished found' arrived' finished' with ⟨kept', dated'⟩
      rw [kept, kept', dated, dated', walks, turnEvents_front found arrived,
        turnEvents_front found' arrived', turns]
      exact ⟨rfl, rfl, rfl, one.turnByTurn, other.turnByTurn⟩

end Model

/-- A trip from work back home. -/
def homeward (index : Nat) (initial : Mode) : Trip where
  index
  origin := ⟨"work", ⟨3000, 4000⟩, some 61200, none⟩
  destination := ⟨"home", ⟨0, 0⟩, none, none⟩
  initialMode := initial
  departureTime := none

/-- Vehicles stay where they are left, nobody walks far, and trips are neither
late nor long. -/
def everydayRules : ConstraintFactory :=
  let walkingLimit (mode : Mode) : Option Float := if mode = .walk then some 2 else none
  let timing : ConjunctionFactory :=
    ⟨[(Constraint.timeWindow 900).forEveryTour,
      (Constraint.maxTravelTime 3600 fun _ => none).forEveryTour]⟩
  ConjunctionFactory.toFactory
    ⟨[.vehicleContinuity, (Constraint.maxDistance walkingLimit).forEveryTour, timing.toFactory]⟩

namespace Model

/-- The model of a commuter under everyday rules. -/
def commuter (fallback : Fallback) : Model Unit Unit :=
  { strict fallback with
    availability := .fixed [.car, .walk, .bike]
    constraints := everydayRules }

/-- A second way home, for which no vehicle is left and which is too far to walk,
changes nothing about the first two trips. -/
theorem commuter_sees_no_further :
    let front := [errand 0 .bike, homeward 1 .walk]
    let select := (commuter .initialChoice).select (Desk.fresh () ()) (Agent.bare ⟨7⟩)
    let turns := (commuter .initialChoice).turnEvents (Desk.fresh () ()) (Agent.bare ⟨7⟩)
    everydayRules.Bundled ∧
      (select (front ++ [])).outcome =
        .ok [Candidate.make .car 1 600, Candidate.make .car 1 600] ∧
      (select (front ++ [homeward 2 .walk])).outcome.map (List.take 2) =
        .ok [Candidate.make .car 1 600, Candidate.make .car 1 600] ∧
      (turns (front ++ [homeward 2 .walk])).take 2 = turns (front ++ []) ∧
      (turns (front ++ [homeward 2 .walk])).length = 3 := by
  intro front select turns
  have bundled : everydayRules.Bundled := by
    apply ConstraintFactory.Bundled.conjunction
    intro part among
    simp only [List.mem_cons, List.not_mem_nil, or_false] at among
    rcases among with rfl | rfl | rfl
    · exact .vehicleContinuity
    · exact .everyTour _
    · apply ConstraintFactory.Bundled.conjunction
      intro part among
      simp only [List.mem_cons, List.not_mem_nil, or_false] at among
      rcases among with rfl | rfl
      · exact .everyTour _
      · exact .everyTour _
  rcases select_sees_no_further (commuter .initialChoice) (Desk.fresh () ()) (Agent.bare ⟨7⟩)
    (List.cons_ne_nil (errand 0 .bike) [homeward 1 .walk]) [] [homeward 2 .walk] (.fixed _)
    bundled (.inl rfl) (.inl rfl) with ⟨kept, _, events, short, long⟩
  have outcome : (select (front ++ [])).outcome =
      .ok [Candidate.make .car 1 600, Candidate.make .car 1 600] := by
    decide +kernel
  have lengths : (turns (front ++ [])).length = 2 := short.each (by decide)
  refine ⟨bundled, outcome, ?_, ?_, long.each (by decide)⟩
  · refine kept.symm.trans ?_
    rw [outcome]
    rfl
  · refine events.symm.trans ?_
    exact List.take_of_length_le lengths.le

end Model

end ModeChoice
