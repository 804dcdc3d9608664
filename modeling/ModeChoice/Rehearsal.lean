import ModeChoice.Audit.Table
import ModeChoice.Oracle.Chat
import ModeChoice.Selection.Constraint
import ModeChoice.Selection.Record

/-!
# Rehearsals

Prepared collaborators with which a model is tried out before real ones are at
hand: oracles that answer as they were told, estimators that look at everything
an estimator is shown, rules that refuse on demand, and auditors and devices
that break.
-/

namespace ModeChoice

namespace Estimator

/-- Another estimator for every index of a trip; beyond them all modes are
infeasible. -/
def byIndex (estimators : List Estimator) : Estimator where
  estimate agent mode trip prior :=
    match estimators[trip.index]? with
    | some estimator => estimator.estimate agent mode trip prior
    | none => Candidate.infeasible mode

/-- A mode is worth one less for every earlier trip by it, and takes a minute
longer for every earlier trip by any. -/
def tiring (base : Estimator) : Estimator where
  estimate agent mode trip prior :=
    let rested := base.estimate agent mode trip prior
    let used := (prior.filter fun candidate => candidate.mode == mode).length
    Candidate.make mode (rested.utility - Float.ofNat used)
      (rested.duration + 60 * Float.ofNat prior.length)

/-- Trips that depart within a span take twice as long. -/
def peak (base : Estimator) (first last : Float) : Estimator where
  estimate agent mode trip prior :=
    let calm := base.estimate agent mode trip prior
    if trip.departureTime.any fun departure => first ≤ departure && departure < last then
      Candidate.make mode calm.utility (calm.duration * 2)
    else calm

end Estimator

namespace Constraint

/-- The rule that refuses some modes on some trips before they are estimated. -/
def refusingModes (refuses : Trip → Mode → Bool) : Constraint :=
  { accepting with acceptsMode := fun trip mode _ => !refuses trip mode }

/-- The rule that refuses candidates of some modes on some trips. -/
def refusingCandidates (refuses : Trip → Mode → Bool) : Constraint :=
  { accepting with acceptsCandidate := fun trip candidate _ => !refuses trip candidate.mode }

/-- The rule that refuses a mode of an earlier trip before it is estimated. -/
def freshModes : Constraint :=
  { accepting with acceptsMode := fun _ mode previous => !previous.contains mode }

/-- The rule that refuses a candidate whose mode an earlier trip has. -/
def freshCandidates : Constraint :=
  { accepting with
    acceptsCandidate := fun _ candidate previous =>
      !(previous.map Candidate.mode).contains candidate.mode }

end Constraint

namespace Oracle

/-- The oracle that proposes the first open mode of an order. -/
def ofOrder (order : List Mode) : Oracle Unit where
  name := "oracle"
  propose state random context :=
    let answer := match order.find? context.validModes.contains with
      | some mode => .ok mode
      | none => .error .noValidModes
    { answer, state, random, log := [] }

/-- The oracle that answers with what was prepared, one step after the other. -/
def ofScript : Oracle (List (Except OracleError Mode)) where
  name := "script"
  propose state random _ :=
    match state with
    | [] => { answer := .error .noValidModes, state, random, log := [] }
    | step :: rest => { answer := step, state := rest, random, log := [] }

/-- The oracle with its state as a part of a larger one. -/
def within {σ τ : Type} (oracle : Oracle σ) (part : τ → σ) (put : σ → τ → τ) : Oracle τ where
  name := oracle.name
  propose state random context :=
    let proposal := oracle.propose (part state) random context
    { proposal with state := put proposal.state state }

end Oracle

/-- A conversation: the replies that are still to come, and what has been sent,
instruction and request. -/
structure Conversation where
  replies : List (Except OracleError String)
  sent : List (String × String)

/-- The transport that answers with prepared replies. -/
def ChatTransport.ofReplies : ChatTransport Conversation where
  chat conversation system user :=
    let sent := conversation.sent ++ [(system, user)]
    match conversation.replies with
    | [] => (.error (.transport "script exhausted"), ⟨[], sent⟩)
    | reply :: rest => (reply, ⟨rest, sent⟩)

/-- The auditor that takes no record. -/
def Auditor.refusing {τ : Type} (reason : String) : Auditor τ where
  record state _ := (.error ⟨reason⟩, state)

/-- The text behind a device that can be broken. -/
structure FragileText where
  text : String
  isBroken : Bool

/-- The device that refuses every text while it is broken. -/
def Table.Device.fragile : Table.Device FragileText where
  write state more :=
    if state.isBroken then (.error "broken writer", state)
    else (.ok (), { state with text := state.text ++ more })

end ModeChoice
