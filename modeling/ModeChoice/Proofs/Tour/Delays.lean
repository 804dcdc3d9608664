import ModeChoice.Proofs.Tour.Windows

/-!
# Delays

A day is a row of activities and trips, and a clock goes through it from midnight on.  Of
two clocks that go side by side the one stays behind the other if it starts behind it, no
trip takes longer on it, and it ends no activity later.  The last is a matter of the
interpretation: every interpretation ends an activity later, if at all, when the activity
starts later, and one that takes the planned end wherever there is one ends no activity
earlier than one that looks at the planned end alone, or at the earlier of both ends.

So a delay is never made up for by more than its own length, whatever is planned later in
the day.  Planned times that are infinite or no number keep to this like the others.
-/

namespace ModeChoice

open Number

/-! ## The end of an activity -/

namespace TimeInterpretation

/-- What ends by the one interpretation ends by the other too, and not earlier, even where it
starts later. -/
def Sooner (one other : TimeInterpretation) : Prop :=
  ∀ timing now later, now ≤ later → ∀ ending, one.endTime? timing now = some ending →
    ∃ ending', other.endTime? timing later = some ending' ∧ ending ≤ ending'

variable {timing : ActivityTiming} {now later ending moment duration : Float}

theorem isFinite_of_finite? {value : Option Float} {x : Float}
    (counts : finite? value = some x) : x.isFinite = true :=
  (Option.filter_eq_some_iff.1 counts).2

theorem le_planned (planned : finite? timing.endTime = some moment) : moment ≤ moment :=
  le_refl (isNaN_eq_false_of_isFinite (isFinite_of_finite? planned))

/-- What starts later and lasts as long ends later. -/
theorem lasting_le (lasting : finite? timing.maxDuration = some duration) (below : now ≤ later) :
    now + clampedBelow duration ≤ later + clampedBelow duration := by
  have finite : (clampedBelow duration).isFinite = true := by
    unfold clampedBelow
    split
    · exact isFinite_of_finite? lasting
    · decide
  exact add_le_add below (le_refl (isNaN_eq_false_of_isFinite finite))
    (isNaN_add_of_finite (isNaN_left_of_le below) finite)
    (isNaN_add_of_finite (isNaN_eq_false_of_le below) finite)

/-- The earlier of both ends is the one that is planned, or the earlier of the two. -/
theorem endTime?_earlierOfBoth_eq_some
    (ends : earlierOfBoth.endTime? timing now = some ending) :
    (finite? timing.endTime = some ending ∧ finite? timing.maxDuration = none) ∨
      ∃ duration, finite? timing.maxDuration = some duration ∧
        (finite? timing.endTime = none ∧ ending = now + clampedBelow duration ∨
          ∃ moment, finite? timing.endTime = some moment ∧
            ending = smaller moment (now + clampedBelow duration)) := by
  cases planned : finite? timing.endTime with
  | none =>
      cases lasting : finite? timing.maxDuration with
      | none => simp [endTime?, planned, lasting] at ends
      | some duration => simp_all [endTime?]
  | some moment =>
      cases lasting : finite? timing.maxDuration with
      | none => simp_all [endTime?]
      | some duration => simp_all [endTime?]

theorem sooner_self (interpretation : TimeInterpretation) :
    interpretation.Sooner interpretation := by
  intro timing now later below ending ends
  cases interpretation with
  | endTimeThenDuration =>
      rcases Option.or_eq_some_iff.1 ends with planned | ⟨absent, lasts⟩
      · exact ⟨ending, by simp [endTime?, planned], le_planned planned⟩
      · rcases Option.map_eq_some_iff.1 lasts with ⟨duration, lasting, rfl⟩
        exact ⟨_, by simp [endTime?, absent, lasting], lasting_le lasting below⟩
  | endTimeOnly => exact ⟨ending, ends, le_planned ends⟩
  | earlierOfBoth =>
      rcases endTime?_earlierOfBoth_eq_some ends with ⟨planned, endless⟩ |
        ⟨duration, lasting, ⟨absent, rfl⟩ | ⟨moment, planned, rfl⟩⟩
      · exact ⟨ending, by simp [endTime?, planned, endless], le_planned planned⟩
      · exact ⟨_, by simp [endTime?, absent, lasting], lasting_le lasting below⟩
      · refine ⟨smaller moment (later + clampedBelow duration),
          by simp [endTime?, planned, lasting], ?_⟩
        have number := isNaN_eq_false_of_le (le_planned planned)
        have sum := lasting_le lasting below
        exact le_smaller (smaller_le_left number)
          (le_trans (smaller_le_right number (isNaN_left_of_le sum)) sum)

theorem endTimeOnly_sooner : endTimeOnly.Sooner endTimeThenDuration := by
  intro timing now later _ ending ends
  have planned : finite? timing.endTime = some ending := ends
  exact ⟨ending, by simp [endTime?, planned], le_planned planned⟩

theorem earlierOfBoth_sooner : earlierOfBoth.Sooner endTimeThenDuration := by
  intro timing now later below ending ends
  rcases endTime?_earlierOfBoth_eq_some ends with ⟨planned, _⟩ |
    ⟨duration, lasting, ⟨absent, rfl⟩ | ⟨moment, planned, rfl⟩⟩
  · exact ⟨ending, by simp [endTime?, planned], le_planned planned⟩
  · exact ⟨_, by simp [endTime?, absent, lasting], lasting_le lasting below⟩
  · exact ⟨moment, by simp [endTime?, planned],
      smaller_le_left (isNaN_eq_false_of_le (le_planned planned))⟩

end TimeInterpretation

/-! ## Two clocks -/

/-- What a clock goes through in a day. -/
inductive ClockStep where
  | activity (timing : ActivityTiming)
  | trip (duration : Float)

namespace ClockStep

/-- The second step is the same as the first, or a trip that takes longer. -/
inductive Slower : ClockStep → ClockStep → Prop where
  | same (step : ClockStep) : Slower step step
  | longer {duration duration' : Float} (finite : duration'.isFinite = true)
      (below : duration ≤ duration') : Slower (.trip duration) (.trip duration')

end ClockStep

namespace Clock

/-- The clock after a step. -/
def step (clock : Clock) : ClockStep → Clock
  | .activity timing => clock.passActivity timing
  | .trip duration => clock.travel duration

/-- The readings of the clock after each step of a day. -/
def readings : Clock → List ClockStep → List Float
  | _, [] => []
  | clock, step :: rest => (clock.step step).time :: (clock.step step).readings rest

/-- The first clock reads no later time than the second, and it will not do so because of an
activity. -/
structure Behind (clock other : Clock) : Prop where
  reads : clock.time ≤ other.time
  sooner : clock.interpretation.Sooner other.interpretation

variable {clock other : Clock} {duration duration' : Float}

theorem Behind.passActivity (behind : clock.Behind other) (timing : ActivityTiming) :
    (clock.passActivity timing).Behind (other.passActivity timing) := by
  refine ⟨?_, by simpa using behind.sooner⟩
  have later := le_passActivity other timing (isNaN_eq_false_of_le behind.reads)
  cases ends : clock.interpretation.endTime? timing clock.time with
  | none =>
      have still : clock.passActivity timing = clock := by simp [Clock.passActivity, ends]
      rw [still]
      exact le_trans behind.reads later
  | some ending =>
      rcases behind.sooner timing _ _ behind.reads ending ends with ⟨ending', ends', below⟩
      simp only [Clock.passActivity, ends, ends']
      exact larger_le_larger behind.reads below

/-- A trip that moves the first clock has to move the second one as far. -/
theorem Behind.travel (behind : clock.Behind other)
    (follows : duration.isFinite = true → 0 < duration →
      duration'.isFinite = true ∧ duration ≤ duration') :
    (clock.travel duration).Behind (other.travel duration') := by
  refine ⟨?_, by simpa using behind.sooner⟩
  have number := isNaN_left_of_le behind.reads
  have number' := isNaN_eq_false_of_le behind.reads
  by_cases moves : duration.isFinite = true ∧ 0 < duration
  · rcases follows moves.1 moves.2 with ⟨finite, below⟩
    have positive : 0 < duration' := lt_of_lt_of_le moves.2 below
    simp only [Clock.travel, moves.1, moves.2, finite, positive, decide_true, Bool.and_self,
      if_true]
    exact add_le_add behind.reads below (isNaN_add_of_finite number moves.1)
      (isNaN_add_of_finite number' finite)
  · have still : clock.travel duration = clock := by
      unfold Clock.travel
      rw [if_neg (by simpa using moves)]
    rw [still]
    refine le_trans behind.reads ?_
    unfold Clock.travel
    split
    · rename_i onward
      rw [Bool.and_eq_true, decide_eq_true_eq] at onward
      exact le_add_of_nonneg number' (le_of_lt onward.2) (isNaN_add_of_finite number' onward.1)
    · exact le_refl number'

theorem Behind.step {step step' : ClockStep} (behind : clock.Behind other)
    (slower : step.Slower step') : (clock.step step).Behind (other.step step') := by
  cases slower with
  | same step =>
      cases step with
      | activity timing => exact behind.passActivity timing
      | trip duration =>
          refine behind.travel fun finite positive => ⟨finite, ?_⟩
          exact le_refl (isNaN_eq_false_of_isFinite finite)
  | longer finite below => exact behind.travel fun _ _ => ⟨finite, below⟩

/-- A clock that is behind at the start of a day stays behind all day. -/
theorem Behind.readings {steps steps' : List ClockStep} (behind : clock.Behind other)
    (slower : List.Forall₂ ClockStep.Slower steps steps') :
    List.Forall₂ (· ≤ ·) (clock.readings steps) (other.readings steps') := by
  induction slower generalizing clock other with
  | nil => exact .nil
  | cons first _ ih =>
      have next := behind.step first
      exact .cons next.reads (ih next)

theorem behind_midnight {one other : TimeInterpretation} (sooner : one.Sooner other) :
    (midnight one).Behind (midnight other) := by
  have midnight : (0 : Float) ≤ 0 := le_refl rfl
  exact ⟨midnight, sooner⟩

/-! ## A day -/

/-- A day with longer trips has no earlier reading, whatever its activities are and however
they are interpreted; and on the same day the interpretation that takes the planned end
wherever there is one has no earlier reading than the other two. -/
theorem readings_keep_order :
    (∀ interpretation steps steps', List.Forall₂ ClockStep.Slower steps steps' →
      List.Forall₂ (· ≤ ·) ((midnight interpretation).readings steps)
        ((midnight interpretation).readings steps')) ∧
    ∀ steps,
      List.Forall₂ (· ≤ ·) ((midnight .earlierOfBoth).readings steps)
        ((midnight .endTimeThenDuration).readings steps) ∧
      List.Forall₂ (· ≤ ·) ((midnight .endTimeOnly).readings steps)
        ((midnight .endTimeThenDuration).readings steps) := by
  constructor
  · intro interpretation steps steps' slower
    exact (behind_midnight interpretation.sooner_self).readings slower
  · intro steps
    have same : List.Forall₂ ClockStep.Slower steps steps :=
      List.forall₂_same.2 fun step _ => .same step
    exact ⟨(behind_midnight TimeInterpretation.earlierOfBoth_sooner).readings same,
      (behind_midnight TimeInterpretation.endTimeOnly_sooner).readings same⟩

/-- A day from home to work and to a shop, with a ride of the given length to work.  The plan
of the shop is of no use. -/
def workday (ride : Float) : List ClockStep :=
  [.activity ⟨some 28800, some 25200⟩, .trip ride, .activity ⟨some 30000, some 600⟩,
    .trip (-60), .activity ⟨some notANumber, some infinity⟩, .trip 600]

/-- A longer ride to work is felt all day, though less and less. -/
theorem slow_ride_keeps_order :
    (midnight .earlierOfBoth).readings (workday 4500) =
        [25200, 29700, 30000, 30000, 30000, 30600] ∧
      (midnight .earlierOfBoth).readings (workday 6000) =
        [25200, 31200, 31200, 31200, 31200, 31800] ∧
      List.Forall₂ (· ≤ ·) ((midnight .earlierOfBoth).readings (workday 4500))
        ((midnight .earlierOfBoth).readings (workday 6000)) := by
  have longer : ClockStep.Slower (.trip 4500) (.trip 6000) :=
    .longer (by decide) (by decide)
  have slower : List.Forall₂ ClockStep.Slower (workday 4500) (workday 6000) :=
    .cons (.same _) (.cons longer (List.forall₂_same.2 fun step _ => .same step))
  exact ⟨by decide +kernel, by decide +kernel, readings_keep_order.1 _ _ _ slower⟩

end Clock

end ModeChoice
