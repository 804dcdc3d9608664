import ModeChoice.Number.Decimal
import ModeChoice.Selection.Record

/-!
# Audit rows

One evaluated candidate of one audit record, as plain data, and the fields of
its line in the audit file.
-/

namespace ModeChoice

/-- One evaluated candidate of one audited decision. -/
structure AuditRow where
  agent : UInt32
  /-- The indices of the trips that the decision covers, with commas between. -/
  tripIndices : String
  selection : UInt64
  mode : Mode
  utility : Float
  /-- Seconds. -/
  duration : Float
  selected : Bool
  deriving DecidableEq

namespace AuditRow

/-- The rows of candidates, the first of which stands at a place of the record. -/
def ofCandidates (record : SelectionRecord) (tripIndices : String) (place : Nat) :
    List Candidate → List AuditRow
  | [] => []
  | candidate :: rest =>
      { agent := record.agent.number
        tripIndices
        selection := record.selection.number
        mode := candidate.mode
        utility := candidate.utility
        duration := candidate.duration
        selected := record.isSelected place } ::
        ofCandidates record tripIndices (place + 1) rest

/-- The rows of a record: one for every candidate, in order. -/
def ofRecord (record : SelectionRecord) : List AuditRow :=
  ofCandidates record (String.intercalate "," (record.tripIndices.map toString)) 0
    record.candidates

/-- The names of the fields. -/
def header : List String :=
  ["agent_id", "trip_indices", "selection_id", "mode", "utility", "duration", "selected"]

/-- The fields of the row's line; the utility has six places. -/
def fields (row : AuditRow) : List String :=
  [ toString row.agent.toNat,
    row.tripIndices,
    toString row.selection.toNat,
    row.mode.label,
    Number.fixed 6 row.utility,
    Number.shortest row.duration,
    if row.selected then "true" else "false" ]

/-- The row of a candidate at a place of the record. -/
def ofEntry (record : SelectionRecord) (entry : Candidate × Nat) : AuditRow where
  agent := record.agent.number
  tripIndices := String.intercalate "," (record.tripIndices.map toString)
  selection := record.selection.number
  mode := entry.1.mode
  utility := entry.1.utility
  duration := entry.1.duration
  selected := record.isSelected entry.2

theorem ofRecord_eq (record : SelectionRecord) :
    ofRecord record = record.candidates.zipIdx.map (ofEntry record) := by
  have from_place (place : Nat) (candidates : List Candidate) :
      ofCandidates record (String.intercalate "," (record.tripIndices.map toString)) place
          candidates =
        (candidates.zipIdx place).map (ofEntry record) := by
    induction candidates generalizing place with
    | nil => rfl
    | cons candidate rest ih =>
        rw [ofCandidates, ih, List.zipIdx_cons, List.map_cons]
        rfl
  exact from_place 0 record.candidates

@[simp]
theorem length_ofRecord (record : SelectionRecord) :
    (ofRecord record).length = record.candidates.length := by
  rw [ofRecord_eq, List.length_map, List.length_zipIdx]

end AuditRow

/-- The auditor that keeps the rows of every record, in order. -/
def Auditor.collecting : Auditor (List AuditRow) where
  record rows record := (.ok (), rows ++ AuditRow.ofRecord record)

end ModeChoice
