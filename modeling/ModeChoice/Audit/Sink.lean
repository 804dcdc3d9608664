import ModeChoice.Audit.Row
import ModeChoice.Audit.Table

/-!
# The audit file

A sink opens with the header line, takes records until it is closed, and never
opens again.  Every record is flushed at once.  Closing hands over what still
waits and lets go of the device, whether the device takes it or not.
-/

namespace ModeChoice

open Table (Buffer Device)

/-- Why the audit file did not take a record. -/
inductive SinkError where
  /-- The device refused a flush. -/
  | io (reason : String)
  /-- A row could not be written. -/
  | row (cause : Table.RowError)
  | closed
  deriving DecidableEq, Repr

/-- The wording of an error of the audit file. -/
def SinkError.message : SinkError → String
  | .io reason => "I/O error: " ++ reason
  | .row cause => "CSV write error: " ++ cause.message
  | .closed => "audit sink is closed"

/-- An audit file: the state of its device, and the buffer while it is open. -/
structure Sink (δ : Type) where
  state : δ
  buffer : Option Buffer

namespace Sink

variable {δ : Type}

/-- How many fields a row has. -/
def width : Nat := AuditRow.header.length

/-- Puts rows into the buffer and flushes it. -/
def deliver (device : Device δ) (rows : List (List String)) (buffer : Buffer) (state : δ) :
    Except SinkError Unit × Buffer × δ :=
  match Buffer.putRows device width rows buffer state with
  | (.error cause, buffer, state) => (.error (.row cause), buffer, state)
  | (.ok (), buffer, state) =>
      match buffer.flush device state with
      | (.ok (), buffer, state) => (.ok (), buffer, state)
      | (.error reason, buffer, state) => (.error (.io reason), buffer, state)

/-- Lets go of the device, after one more attempt to hand over what waits. -/
def release (device : Device δ) (buffer : Buffer) (state : δ) : δ :=
  (buffer.flush device state).2.2

/-- A sink with its header line written, and the device if it refuses it. -/
def create (device : Device δ) (state : δ) : Except SinkError (Sink δ) × δ :=
  match deliver device [AuditRow.header] Buffer.empty state with
  | (.ok (), buffer, state) => (.ok ⟨state, some buffer⟩, state)
  | (.error cause, buffer, state) => (.error cause, release device buffer state)

/-- Appends the rows of a record. -/
def write (device : Device δ) (sink : Sink δ) (record : SelectionRecord) :
    Except SinkError Unit × Sink δ :=
  match sink.buffer with
  | none => (.error .closed, sink)
  | some buffer =>
      let rows := (AuditRow.ofRecord record).map AuditRow.fields
      let (answer, buffer, state) := deliver device rows buffer sink.state
      (answer, ⟨state, some buffer⟩)

/-- Closes the sink; a sink that is closed stays as it is. -/
def close (device : Device δ) (sink : Sink δ) : Except SinkError Unit × Sink δ :=
  match sink.buffer with
  | none => (.ok (), sink)
  | some buffer =>
      match buffer.flush device sink.state with
      | (.ok (), _, state) => (.ok (), ⟨state, none⟩)
      | (.error reason, buffer, state) =>
          (.error (.io reason), ⟨release device buffer state, none⟩)

/-- The device after the sink is gone: an open sink hands over what waits. -/
def finish (device : Device δ) (sink : Sink δ) : δ :=
  match sink.buffer with
  | none => sink.state
  | some buffer => release device buffer sink.state

/-- Whether the sink has been closed. -/
def isClosed (sink : Sink δ) : Bool :=
  sink.buffer.isNone

/-- The sink as an auditor. -/
def auditor (device : Device δ) : Auditor (Sink δ) where
  record sink record :=
    let (answer, sink) := sink.write device record
    (answer.mapError fun cause => ⟨cause.message⟩, sink)

end Sink

/-- The device that takes every text and keeps it. -/
def Table.Device.keeping : Device String where
  write text more := (.ok (), text ++ more)

end ModeChoice
