import ModeChoice.Estimator
import ModeChoice.Log
import ModeChoice.ModeSet
import ModeChoice.Random
import ModeChoice.Text.Quoted

/-!
# Oracles

An oracle proposes one mode for one trip.  It sees the traveller, the trip with
its departure set, the modes that are still open, the candidates kept for the
earlier trips, and the estimator.  It may keep a state of its own between
proposals and draw from the tour's random stream; a proposal is the step that
takes both along.  It may also fail.
-/

namespace ModeChoice

/-- Why an oracle proposes nothing. -/
inductive OracleError where
  | noValidModes
  /-- The answer names no mode that it was allowed to name. -/
  | unmapped (response : String)
  | timeout
  | transport (reason : String)
  | config (reason : String)
  deriving DecidableEq, Repr

/-- The wording of an oracle's failure. -/
def OracleError.message : OracleError → String
  | .noValidModes => "no valid modes to choose from"
  | .unmapped response =>
      "response " ++ Text.quoted response ++ " does not name any allowed mode"
  | .timeout => "oracle request timed out"
  | .transport reason => "oracle transport error: " ++ reason
  | .config reason => "oracle configuration error: " ++ reason

/-- What an oracle is shown for one proposal. -/
structure TripContext where
  agent : Agent
  trip : Trip
  validModes : OpenModes
  /-- The candidates kept for the earlier trips, in order. -/
  prior : List Candidate
  estimator : Estimator

/-- The estimates of the trip by every open mode, in the order of the modes. -/
def TripContext.estimates (context : TripContext) : List Candidate :=
  context.validModes.modes.map fun mode =>
    context.estimator.estimate context.agent mode context.trip context.prior

/-- An oracle's answer, and everything that is different after it. -/
structure Proposal (σ : Type) where
  answer : Except OracleError Mode
  state : σ
  random : Random
  log : List LogLine

/-- A source of proposals with a state of its own. -/
structure Oracle (σ : Type) where
  name : String
  propose : σ → Random → TripContext → Proposal σ

end ModeChoice
