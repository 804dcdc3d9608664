import ModeChoice.Agent.Profile
import ModeChoice.Number.Decimal
import ModeChoice.Oracle.Basic

/-!
# Prompts

The texts that a language model is sent: a standing instruction and a request,
once for a persona and once for a mode.  Sections come in a fixed order, and the
model is asked for a single label.
-/

namespace ModeChoice.Prompt

/-- Lines with a line feed between them. -/
def joinLines (lines : List String) : String :=
  String.intercalate "\n" lines

/-- A flag as an answer. -/
def yesNo (flag : Bool) : String :=
  if flag then "Yes" else "No"

/-- Labels of modes with commas between them. -/
def modeList (modes : List Mode) : String :=
  String.intercalate ", " (modes.map Mode.label)

/-- The age in years, or that it is unknown. -/
def ageText (profile : Profile) : String :=
  match profile.age with
  | some age => toString age.toInt
  | none => "unknown"

/-- The instruction for the choice of a mode. -/
def modeSystem (allowed : List Mode) : String :=
  joinLines
    [ "You simulate the travel behaviour of one person in an agent-based transport model.",
      "Given a traveller and a trip, answer with the transport mode this person would most " ++
        "likely use.",
      "",
      "Take into account:",
      "- hard requirements: driving needs a licence and a car, walking and cycling need " ++
        "the distance to be reasonable;",
      "- travel time, cost, comfort and habit, including the modes used earlier today;",
      "- the persona, which describes attitudes and circumstances.",
      "",
      "Answer with exactly one of: " ++ modeList allowed ++ ".",
      "Do not explain, do not use markdown, reply with the mode label only." ]

/-- The instruction for a persona. -/
def personaSystem : String :=
  joinLines
    [ "You write short traveller personas for an agent-based transport model.",
      "A persona is one line combining where the person lives, what they do, and " ++
        "one habit or value that shapes how they travel.",
      "Reply with the persona only, as plain text on a single line." ]

/-- The request for a persona that fits a profile. -/
def persona (profile : Profile) : String :=
  joinLines
    [ "Traveller attributes:",
      "- Age: " ++ ageText profile ++ " (" ++ profile.ageGroup ++ ")",
      "- Gender: " ++ profile.gender,
      "- Employed: " ++ yesNo profile.employed,
      "- Canton of residence: " ++ profile.canton,
      "- Municipality type: " ++ profile.municipalityType,
      "- Monthly household income: " ++ profile.income,
      "- Driving licence: " ++ yesNo profile.hasLicense,
      "- Car available: " ++ yesNo profile.carAvailable,
      "- Public transport subscription: " ++ profile.transitPass,
      "",
      "Write a one-line persona for this traveller." ]

/-- Travel time in minutes with one decimal place. -/
def minutesText (candidate : Candidate) : String :=
  Number.fixed 1 candidate.minutes ++ " min"

/-- The lines of the trips decided so far, numbered from `first`. -/
def priorLines (first : Nat) : List Candidate → List String
  | [] => []
  | candidate :: rest =>
      (s!"- trip {first}: " ++ candidate.mode.label ++ " (" ++ minutesText candidate ++ ")\n") ::
        priorLines (first + 1) rest

/-- The trips decided so far, a line for each. -/
def priorTrips (prior : List Candidate) : String :=
  if prior.isEmpty then "None, this is the first trip of the day."
  else String.join (priorLines 1 prior)

/-- One option with its travel time. -/
def optionLine (candidate : Candidate) : String :=
  let figure := if candidate.isFeasible then minutesText candidate else "no estimate"
  "- " ++ candidate.mode.label ++ ": " ++ figure ++ "\n"

/-- The travel times of the options, a line for each. -/
def options (estimates : List Candidate) : String :=
  String.join (estimates.map optionLine)

/-- The request for a mode. -/
def trip (context : TripContext) (profile : Profile) (persona : String)
    (estimates : List Candidate) : String :=
  let departure := match context.trip.departureTime with
    | some seconds => clockText seconds
    | none => "unknown"
  joinLines
    [ "Trip",
      "- From: " ++ context.trip.origin.kind,
      "- To: " ++ context.trip.destination.kind,
      "- Departure: " ++ departure,
      "- Straight-line distance: " ++ Number.fixed 2 context.trip.kilometres ++ " km",
      "- Available modes: " ++ modeList context.validModes.modes,
      "",
      "Traveller",
      "- Age: " ++ ageText profile ++ " (" ++ profile.ageGroup ++ ")",
      "- Gender: " ++ profile.gender,
      "- Canton: " ++ profile.canton ++ ", municipality type: " ++ profile.municipalityType,
      "- Monthly household income: " ++ profile.income,
      "- Driving licence: " ++ yesNo profile.hasLicense ++ ", car available: " ++
        yesNo profile.carAvailable,
      "- Public transport subscription: " ++ profile.transitPass ++ ", employed: " ++
        yesNo profile.employed,
      "- Persona: " ++ persona,
      "",
      "Earlier trips today",
      priorTrips context.prior,
      "Estimated travel times",
      options estimates,
      "Which single mode does this traveller choose?" ]

end ModeChoice.Prompt
