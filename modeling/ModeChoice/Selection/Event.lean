import ModeChoice.Oracle.Basic
import ModeChoice.Selection.Record

/-!
# What happens during a selection

A selection leaves a list of events behind, in the order in which they
happened: the states that a trip went through, every question to the oracle,
the estimator and the constraint with its answer, and every audit record.  The
log of a run is nothing but the wording of its events.
-/

namespace ModeChoice

/-- Where a trip is in its selection. -/
inductive TripState where
  | pending
  | awaitingRecommendation
  | validating
  | retry
  | accepted
  | exhausted
  deriving DecidableEq, Repr

/-- The name of a state in the log. -/
def TripState.label : TripState → String
  | .pending => "Pending"
  | .awaitingRecommendation => "AwaitingRecommendation"
  | .validating => "Validating"
  | .retry => "Retry"
  | .accepted => "Accepted"
  | .exhausted => "Exhausted"

/-- One thing that happened during a selection. -/
inductive Event where
  /-- A trip entered a state. -/
  | entered (trip : Nat) (state : TripState)
  /-- The filter let a trip keep its initial mode. -/
  | leftOut (trip : Nat)
  /-- The constraint was asked about a mode before estimation. -/
  | screened (trip : Trip) (mode : Mode) (previous : List Mode) (accepted : Bool)
  /-- The oracle was asked, and said this while it worked. -/
  | asked (context : TripContext) (answer : Except OracleError Mode) (log : List LogLine)
  /-- The estimator was asked. -/
  | estimated (trip : Trip) (mode : Mode) (prior : List Candidate) (candidate : Candidate)
  /-- The estimate of a proposed mode was not finite. -/
  | illegalUtility (trip : Nat) (mode : Mode) (utility : Float)
  /-- The constraint was asked about a candidate after estimation. -/
  | judged (trip : Trip) (candidate : Candidate) (prior : List Candidate) (accepted : Bool)
  /-- A trip without a mode kept its initial one. -/
  | fellBack (trip : Nat) (initial : Mode)
  /-- A trip without a mode sent the whole tour back to its initial modes. -/
  | reverted (trip : Nat)
  /-- The auditor was told of a decision. -/
  | recorded (record : SelectionRecord) (answer : Except AuditError Unit)

namespace Event

/-- The modes in a list for the log. -/
def modeTitles (modes : List Mode) : String :=
  "[" ++ String.intercalate ", " (modes.map Mode.title) ++ "]"

/-- The last log line of a question to the oracle: what it proposed, or why the
answer is of no use. -/
def proposalLine (place oracle : String) (context : TripContext)
    (answer : Except OracleError Mode) : LogLine :=
  match answer with
  | .error failure => ⟨.warn, place ++ oracle ++ " failed: " ++ failure.message⟩
  | .ok mode =>
      if context.validModes.contains mode then
        ⟨.debug, place ++ oracle ++ " proposed " ++ mode.label⟩
      else
        ⟨.warn, place ++ oracle ++ " proposed " ++ mode.label ++ " outside " ++
          modeTitles context.validModes.modes⟩

/-- The log lines of an event of a traveller's tour; `oracle` is the name of the
oracle. -/
def lines (agent : AgentId) (oracle : String) : Event → List LogLine
  | .entered trip state => [⟨.trace, place trip ++ state.label⟩]
  | .leftOut trip => [⟨.trace, place trip ++ "filtered, keeping initial mode"⟩]
  | .screened _ _ _ _ => []
  | .asked context answer log =>
      log ++ [proposalLine (place context.trip.index) oracle context answer]
  | .estimated _ _ _ _ => []
  | .illegalUtility trip mode utility =>
      [⟨.warn, place trip ++ "illegal utility " ++ Number.shortest utility ++ " for " ++
        mode.label⟩]
  | .judged _ _ _ _ => []
  | .fellBack trip initial =>
      [⟨.warn, place trip ++ "no feasible choice, falling back to initial mode " ++
        initial.label⟩]
  | .reverted trip =>
      [⟨.warn, place trip ++ "no feasible choice, reverting the tour to initial modes"⟩]
  | .recorded record answer =>
      match answer with
      | .ok () => []
      | .error failure =>
          [⟨.warn, record.agent.text ++
            s!": could not record selection {record.selection.number.toNat}: " ++
            failure.message⟩]
where
  /-- The traveller and the trip that a line is about. -/
  place (trip : Nat) : String := agent.text ++ s!" trip {trip}: "

/-- The state that the event enters. -/
def state? : Event → Option TripState
  | .entered _ state => some state
  | _ => none

/-- The record that the auditor was told of. -/
def record? : Event → Option SelectionRecord
  | .recorded record _ => some record
  | _ => none

/-- What the oracle was shown. -/
def context? : Event → Option TripContext
  | .asked context _ _ => some context
  | _ => none

end Event

/-- The states entered, in order. -/
def statesOf (events : List Event) : List TripState :=
  events.filterMap Event.state?

/-- The records told to the auditor, in order. -/
def recordsOf (events : List Event) : List SelectionRecord :=
  events.filterMap Event.record?

/-- What the oracle was shown, in order. -/
def contextsOf (events : List Event) : List TripContext :=
  events.filterMap Event.context?

/-- The log of a traveller's tour. -/
def logOf (agent : AgentId) (oracle : String) (events : List Event) : List LogLine :=
  events.flatMap (Event.lines agent oracle)

end ModeChoice
