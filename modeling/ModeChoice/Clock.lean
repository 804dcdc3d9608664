import ModeChoice.Number.Exact

/-!
# The clock of a tour

Simulated time is seconds since midnight.  A clock starts at midnight, passes
the activities of a tour and the trips between them, and never runs backwards:
an activity whose planned end lies before the clock ends now.
-/

namespace ModeChoice

/-- The plan of an activity: when it ends and how long it lasts, both in
seconds and both optional. -/
structure ActivityTiming where
  endTime : Option Float
  maxDuration : Option Float
  deriving DecidableEq, Inhabited

/-- How the end of an activity follows from its plan. -/
inductive TimeInterpretation where
  /-- The planned end, or else the start plus the planned duration. -/
  | endTimeThenDuration
  /-- The planned end only. -/
  | endTimeOnly
  /-- The earlier of the planned end and the start plus the planned duration. -/
  | earlierOfBoth
  deriving DecidableEq, Repr, Inhabited

/-- The value if it is finite. -/
def finite? (value : Option Float) : Option Float :=
  value.filter Float.isFinite

namespace TimeInterpretation

/-- The label of an interpretation in configuration files. -/
def label : TimeInterpretation → String
  | .endTimeThenDuration => "try_end_time_then_duration"
  | .endTimeOnly => "end_time_only"
  | .earlierOfBoth => "min_of_duration_and_end_time"

/-- Every interpretation. -/
def all : List TimeInterpretation :=
  [.endTimeThenDuration, .endTimeOnly, .earlierOfBoth]

/-- The interpretation with exactly this label. -/
def ofLabel? (text : String) : Option TimeInterpretation :=
  all.find? fun interpretation => interpretation.label == text

/-- The end of an activity that starts at `now`, if its plan settles it.
Planned times that are not finite do not count, and a planned duration below
zero counts as zero. -/
def endTime?
    (interpretation : TimeInterpretation)
    (timing : ActivityTiming)
    (now : Float) : Option Float :=
  let planned := finite? timing.endTime
  let lasting := (finite? timing.maxDuration).map fun duration =>
    now + Number.clampedBelow duration
  match interpretation with
  | .endTimeThenDuration => planned.or lasting
  | .endTimeOnly => planned
  | .earlierOfBoth =>
      match planned, lasting with
      | some first, some second => some (Number.smaller first second)
      | first, second => first.or second

end TimeInterpretation

/-- The running clock of one tour. -/
structure Clock where
  interpretation : TimeInterpretation
  /-- Seconds since midnight. -/
  time : Float
  deriving DecidableEq

namespace Clock

/-- A clock at midnight. -/
def midnight (interpretation : TimeInterpretation) : Clock :=
  ⟨interpretation, 0⟩

/-- The clock at the end of an activity that starts now.  An end that the plan
leaves open, or that lies in the past, does not move the clock. -/
def passActivity (clock : Clock) (timing : ActivityTiming) : Clock :=
  match clock.interpretation.endTime? timing clock.time with
  | some ending => { clock with time := Number.larger clock.time ending }
  | none => clock

/-- The clock after travelling.  A duration that is not finite or not above
zero does not move it. -/
def travel (clock : Clock) (duration : Float) : Clock :=
  if duration.isFinite && 0 < duration then { clock with time := clock.time + duration }
  else clock

end Clock

/-- A number in at least two digits. -/
def twoDigits (n : Nat) : String :=
  if n < 10 then "0" ++ toString n else toString n

/-- Seconds since midnight as hours, minutes and seconds.  Whole seconds count,
hours go on past a day, and what is negative or not finite reads as
midnight. -/
def clockText (seconds : Float) : String :=
  let total := if seconds.isFinite then (Number.truncateUnsigned seconds).toNat else 0
  twoDigits (total / 3600) ++ ":" ++ twoDigits (total % 3600 / 60) ++ ":" ++
    twoDigits (total % 60)

/-- The reading of the clock. -/
def Clock.text (clock : Clock) : String :=
  clockText clock.time

end ModeChoice
