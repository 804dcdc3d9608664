import ModeChoice.Audit.Sink
import ModeChoice.Commute.Scenario
import ModeChoice.Selection.Batch
import ModeChoice.Selection.ConfigFile

/-!
# The report of a commute

What a run of the scenario prints, and the two files that it leaves: the audit
rows, and how many trips went to each mode.
-/

namespace ModeChoice.Commute

/-- Why there is no report. -/
inductive Failure where
  /-- The configuration could not be taken from a file. -/
  | loading (path : String) (cause : ChoiceError)
  | choice (cause : ChoiceError)
  | tour (cause : TourError)
  | sink (cause : SinkError)
  deriving DecidableEq

/-- What a failure says in one line. -/
def Failure.headline : Failure → String
  | .loading path _ => "loading configuration from " ++ path
  | .choice cause => cause.message
  | .tour cause => "building tour: " ++ cause.message
  | .sink cause => cause.message

/-- The lines that a failure says on the error channel. -/
def Failure.lines (failure : Failure) : List String :=
  ("Error: " ++ failure.headline) ::
    match failure with
    | .loading _ cause => ["", "Caused by:", "    " ++ cause.message]
    | _ => []

/-- The configuration of a run: from a file, if one is named. -/
def configOf : Option (String × Option ByteArray) → Except Failure Config
  | none => .ok standardConfig
  | some (path, content) => (Config.ofFile content).mapError (.loading path)

/-- Where the files go. -/
def outputDirectory : String := "output/commute"

/-- The file of the audit rows. -/
def rowsPath : String := outputDirectory ++ "/selections.csv"

/-- The file of the shares. -/
def summaryPath : String := outputDirectory ++ "/summary.json"

/-- A text with blanks behind it up to a width. -/
def padded (width : Nat) (text : String) : String :=
  text ++ String.ofList (List.replicate (width - text.length) ' ')

/-- A text with blanks in front of it up to a width. -/
def aligned (width : Nat) (text : String) : String :=
  String.ofList (List.replicate (width - text.length) ' ') ++ text

/-- The lines before the run. -/
def openingLines (config : Config) (tours : List Tour) : List String :=
  [ "=== commute — rust_dmc mode choice ===",
    s!"Agents: {travellerCount}  |  Seed: {config.seed.toNat}  |  Fallback: " ++
      config.fallback.label,
    "",
    s!"Tours: {tours.length}  |  Trips: {(tours.flatMap Tour.trips).length}" ]

/-- The lines above the table of trips. -/
def headingLines : List String :=
  [ padded 8 "Agent" ++ " " ++ padded 6 "Trip" ++ " " ++ padded 8 "Depart" ++ " " ++
      padded 14 "Mode" ++ " " ++ aligned 10 "Minutes",
    String.ofList (List.replicate 50 '-') ]

/-- The line of a trip; the label of the mode is not padded. -/
def tripLine (agent : AgentId) (trip : Trip) (candidate : Candidate) : String :=
  padded 8 (toString agent.number.toNat) ++ " " ++ padded 6 (toString trip.index) ++ " " ++
    padded 8 ((trip.departureTime.map clockText).getD "") ++ " " ++ candidate.mode.label ++ " " ++
    aligned 10 (Number.fixed 1 candidate.minutes)

/-- The candidates of a tour, none if it has no selection. -/
def chosen (result : TourResult) : List Candidate :=
  match result.outcome with
  | .ok candidates => candidates
  | .error _ => []

/-- The lines of a tour. -/
def tourLines (result : TourResult) : List String :=
  (result.tour.trips.zip (chosen result)).map fun (trip, candidate) =>
    tripLine result.tour.agent trip candidate

/-- What a tour without a selection says on the error channel. -/
def complaint? (result : TourResult) : Option String :=
  match result.outcome with
  | .ok _ => none
  | .error error => some (result.tour.agent.text ++ ": " ++ error.message)

/-- The modes in the order of their labels. -/
def modesByLabel : List Mode :=
  [.bike, .car, .carPassenger, .publicTransport, .walk]

/-- How many trips went to each mode, for the modes with any. -/
def shares (results : List TourResult) : List (Mode × Nat) :=
  let modes := results.flatMap fun result =>
    ((result.tour.trips.zip (chosen result)).map Prod.snd).map Candidate.mode
  (modesByLabel.map fun mode => (mode, modes.count mode)).filter fun share => share.2 != 0

/-- The lines after the table of trips. -/
def closingLines (shares : List (Mode × Nat)) (failed : Nat) : List String :=
  ["", "Mode shares:"] ++
    (shares.map fun (mode, count) => "  " ++ padded 14 mode.label ++ s!" {count}") ++
    (if failed = 0 then [] else [s!"  ({failed} tours without a feasible choice)"]) ++
    ["", "  " ++ rowsPath, "  " ++ summaryPath]

/-- The shares as a JSON table, a line for each. -/
def summaryText (shares : List (Mode × Nat)) : String :=
  if shares.isEmpty then "\x7b\x7d"
  else
    let members := shares.map fun (mode, count) =>
      "  \"" ++ mode.label ++ "\": " ++ toString count
    "\x7b\n" ++ String.intercalate ",\n" members ++ "\n\x7d"

/-- What a run of the scenario leaves behind. -/
structure Report where
  lines : List String
  /-- The lines on the error channel. -/
  complaints : List String
  rows : String
  summary : String

/-- The report of finished tours. -/
def Report.ofResults (results : List TourResult) (rows : String) : Report :=
  let complaints := results.filterMap complaint?
  let shares := shares results
  { lines := [""] ++ headingLines ++ results.flatMap tourLines ++
      closingLines shares complaints.length
    complaints
    rows
    summary := summaryText shares }

/-- A run of the scenario. -/
def run (config : Config) (tours : List Tour) : Except Failure Report := do
  let device := Table.Device.keeping
  let sink ← (Sink.create device "").1.mapError .sink
  let model ← (model config (Sink.auditor device)).mapError .choice
  let batch := model.selectPopulation population (Desk.fresh () sink) tours
  return Report.ofResults batch.results (batch.desk.auditor.finish device)

end ModeChoice.Commute
