import ModeChoice.Candidate
import ModeChoice.Identifier

/-!
# Audit records

What an auditor is told about every decision.  A record for one trip has every
candidate that was estimated for it, rejected ones included and in the order of
estimation, and says which one was kept.  A record for a whole tour that went
back to its initial modes has one candidate for every trip, and all are kept.
-/

namespace ModeChoice

/-- Which candidates of a record were kept. -/
inductive Selected where
  /-- The candidate at this place, for the record's trip. -/
  | at (place : Nat)
  /-- Every candidate, each for its trip. -/
  | all
  deriving DecidableEq, Repr

/-- One audited decision. -/
structure SelectionRecord where
  agent : AgentId
  tripIndices : List Nat
  selection : SelectionId
  candidates : List Candidate
  selected : Selected
  deriving DecidableEq

namespace SelectionRecord

/-- Whether the candidate at a place was kept. -/
def isSelected (record : SelectionRecord) (place : Nat) : Bool :=
  match record.selected with
  | .at kept => kept == place
  | .all => place < record.candidates.length

/-- The candidate kept by a record for one trip. -/
def selectedCandidate? (record : SelectionRecord) : Option Candidate :=
  match record.selected with
  | .at kept => record.candidates[kept]?
  | .all => none

end SelectionRecord

/-- Why an auditor did not take a record. -/
structure AuditError where
  reason : String
  deriving DecidableEq, Repr

/-- The wording of an auditor's failure. -/
def AuditError.message (error : AuditError) : String :=
  "audit sink error: " ++ error.reason

/-- Takes records, one after the other, with a state of its own.  What it
answers changes nothing about a selection. -/
structure Auditor (τ : Type) where
  record : τ → SelectionRecord → Except AuditError Unit × τ

/-- The auditor that drops every record. -/
def Auditor.silent : Auditor Unit where
  record state _ := (.ok (), state)

/-- The auditor that keeps every record, in order. -/
def Auditor.keeping : Auditor (List SelectionRecord) where
  record records record := (.ok (), records ++ [record])

end ModeChoice
