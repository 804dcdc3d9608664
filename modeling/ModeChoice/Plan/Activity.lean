import ModeChoice.Clock
import ModeChoice.Location

/-!
# Activities

One planned activity of a day: what, where, and until when.
-/

namespace ModeChoice

/-- One activity of a daily plan.  The kind is a word of the application's own
(`home`, `work`, `shop`, …). -/
structure Activity where
  kind : String
  place : Location
  /-- Planned end, seconds since midnight. -/
  endTime : Option Float
  /-- Planned duration, seconds. -/
  maxDuration : Option Float
  deriving DecidableEq

/-- The plan of the activity for the clock. -/
def Activity.timing (activity : Activity) : ActivityTiming :=
  ⟨activity.endTime, activity.maxDuration⟩

end ModeChoice
