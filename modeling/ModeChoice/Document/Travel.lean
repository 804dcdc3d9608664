import ModeChoice.Agent.Basic
import ModeChoice.Candidate
import ModeChoice.Document.Record
import ModeChoice.Plan.Tour
import ModeChoice.Selection.Fallback

/-!
# Travellers and plans in documents

How travellers, their tours and what is said about them are read from
documents.  Modes, interpretations of time and fallback policies are written as
labels; what may stand beside a label that is written as a name is a matter of
the notation.
-/

namespace ModeChoice

open Document (Record required optional)

/-- A mode by its label. -/
def Mode.ofDocument? (void : Document → Bool) (document : Document) : Option Mode :=
  (document.label? void).bind Mode.ofLabel?

/-- An interpretation of time by its label. -/
def TimeInterpretation.ofDocument? (void : Document → Bool) (document : Document) :
    Option TimeInterpretation :=
  (document.label? void).bind TimeInterpretation.ofLabel?

/-- A fallback policy by its label. -/
def Fallback.ofDocument? (void : Document → Bool) (document : Document) : Option Fallback :=
  (document.label? void).bind Fallback.ofLabel?

/-- The identity of a traveller. -/
def AgentId.ofDocument? (document : Document) : Option AgentId :=
  (document.natural? Number.count32).map fun number => ⟨number.toUInt32⟩

/-- The number of a selection. -/
def SelectionId.ofDocument? (document : Document) : Option SelectionId :=
  (document.natural? Number.count64).map fun number => ⟨number.toUInt64⟩

/-- An attribute; a whole number that does not fit counts as real. -/
def AttributeValue.ofDocument? : Document → Option AttributeValue
  | .truth value => some (.flag value)
  | .whole value =>
      if Number.fitsSigned value then some (.whole (Int64.ofInt value))
      else (Document.whole value).real?.map .real
  | .real value => some (.real value)
  | .text value => some (.text value)
  | _ => none

/-- Attributes by name; of attributes with one name the last counts. -/
def Attributes.ofDocument? (document : Document) : Option Attributes :=
  (document.table? AttributeValue.ofDocument?).map Attributes.ofList

/-- A traveller. -/
def Agent.ofDocument? (document : Document) : Option Agent := do
  match ← (Record.ofNames ["id", "attributes"]).fields document with
  | [id, attributes] =>
      return ⟨← required AgentId.ofDocument? id, ← required Attributes.ofDocument? attributes⟩
  | _ => none

/-- A place. -/
def Location.ofDocument? (document : Document) : Option Location := do
  match ← (Record.ofNames ["x", "y"]).fields document with
  | [x, y] => return ⟨← required Document.real? x, ← required Document.real? y⟩
  | _ => none

/-- The times of an activity. -/
def ActivityTiming.ofDocument? (document : Document) : Option ActivityTiming := do
  match ← (Record.ofNames ["end_time", "max_duration"]).fields document with
  | [endTime, maxDuration] =>
      return ⟨← optional Document.real? endTime, ← optional Document.real? maxDuration⟩
  | _ => none

/-- An activity. -/
def Activity.ofDocument? (document : Document) : Option Activity := do
  let names := ["activity_type", "coord", "end_time", "max_duration"]
  match ← (Record.ofNames names).fields document with
  | [kind, place, endTime, maxDuration] =>
      return {
        kind := ← required Document.text? kind
        place := ← required Location.ofDocument? place
        endTime := ← optional Document.real? endTime
        maxDuration := ← optional Document.real? maxDuration }
  | _ => none

/-- A candidate; its duration is put right as that of any candidate. -/
def Candidate.ofDocument? (void : Document → Bool) (document : Document) : Option Candidate := do
  match ← (Record.ofNames ["mode", "utility", "duration"]).fields document with
  | [mode, utility, duration] =>
      return Candidate.make (← required (Mode.ofDocument? void) mode)
        (← required Document.real? utility) (← required Document.real? duration)
  | _ => none

/-- A trip. -/
def Trip.ofDocument? (void : Document → Bool) (document : Document) : Option Trip := do
  let names := ["index", "origin", "destination", "initial_mode", "departure_time"]
  match ← (Record.ofNames names).fields document with
  | [index, origin, destination, initialMode, departureTime] =>
      return {
        index := ← required (Document.natural? Number.count64) index
        origin := ← required Activity.ofDocument? origin
        destination := ← required Activity.ofDocument? destination
        initialMode := ← required (Mode.ofDocument? void) initialMode
        departureTime := ← optional Document.real? departureTime }
  | _ => none

/-- A tour. -/
def Tour.ofDocument? (void : Document → Bool) (document : Document) : Option Tour := do
  match ← (Record.ofNames ["agent", "trips"]).fields document with
  | [agent, trips] =>
      return {
        agent := ← required AgentId.ofDocument? agent
        trips := ← required (Document.list? (Trip.ofDocument? void)) trips }
  | _ => none

end ModeChoice
