import ModeChoice.Agent.Profile
import ModeChoice.Oracle.Basic

/-!
# The rule-based oracle

Proposes the first open mode of a preference list after two rules: a short trip
goes on foot if walking is open, and the car is not for those who cannot drive
unless nothing else is open.  Open modes that the list does not mention come
after it, in the order of the tour.  Nothing is random.
-/

namespace ModeChoice

/-- The rules of a rule-based oracle. -/
structure PreferenceRules where
  preference : List Mode
  /-- Trips shorter than this go on foot, kilometres. -/
  walkBelow : Option Float
  /-- Whether the car is kept from those who cannot drive. -/
  respectsDriving : Bool
  deriving DecidableEq

namespace PreferenceRules

/-- The rules of a preference list: no trip is short, and driving counts. -/
def ofPreference (preference : List Mode) : PreferenceRules :=
  ⟨preference, none, true⟩

/-- The rules that hold where none are given. -/
def standard : PreferenceRules where
  preference := [.car, .publicTransport, .bike, .walk, .carPassenger]
  walkBelow := some 1
  respectsDriving := true

/-- Whether the trip is short enough to walk. -/
def isShort (rules : PreferenceRules) (trip : Trip) : Bool :=
  rules.walkBelow.any fun limit => trip.kilometres < limit

/-- Whether the traveller may be sent by car. -/
def allowsCar (rules : PreferenceRules) (agent : Agent) : Bool :=
  !rules.respectsDriving || (Profile.ofAgent agent).canDrive

/-- The open modes, preferred ones first. -/
def ranked (rules : PreferenceRules) (modes : List Mode) : List Mode :=
  rules.preference.filter modes.contains ++
    modes.filter fun mode => !rules.preference.contains mode

/-- The mode for a trip out of the open modes, of which `first` is the first. -/
def pick (rules : PreferenceRules) (agent : Agent) (trip : Trip) (modes : List Mode)
    (first : Mode) : Mode :=
  if rules.isShort trip && modes.contains .walk then .walk
  else
    ((rules.ranked modes).find? fun mode => mode != .car || rules.allowsCar agent).getD first

/-- The oracle of the rules. -/
def oracle (rules : PreferenceRules) : Oracle Unit where
  name := "rule_based"
  propose state random context :=
    let answer := match context.validModes.first? with
      | none => .error .noValidModes
      | some first => .ok (rules.pick context.agent context.trip context.validModes.modes first)
    { answer, state, random, log := [] }

end PreferenceRules

end ModeChoice
