import ModeChoice.Proofs.Audit.Lines
import ModeChoice.Proofs.Audit.Populations

/-!
# The life of an audit file

An audit file begins with its header line and is then called upon, to write records or to
close.  Over a device that takes everything the first call to close parts the others: what
came before it is in the file, row by row as a collecting auditor has it, and what comes
after it is refused and changes nothing any more.

The tours of a population come to the same whether the audit file is closed between two of
their records or not.  That a record is written while another call is under way does not
occur here.
-/

namespace ModeChoice

open Table (Device Buffer)

/-- A call on an audit file. -/
inductive SinkCall where
  | write (record : SelectionRecord)
  | close
  deriving DecidableEq

namespace SinkCall

/-- What the call is answered, before or after the first call to close. -/
def answer (closed : Bool) : SinkCall → Except SinkError Unit
  | .write _ => if closed then .error .closed else .ok ()
  | .close => .ok ()

/-- The records that are to be written before the first call to close. -/
def early : List SinkCall → List SelectionRecord
  | .write record :: rest => record :: early rest
  | _ => []

/-- The rows that a collecting auditor has of these records. -/
def rows (calls : List SinkCall) : List AuditRow :=
  (early calls).foldl Auditor.collecting.hear []

/-- The calls that write some records, the first of which has the number `place`, with calls
to close before those whose numbers are told. -/
def scheduled (closes : Nat → Bool) : Nat → List SelectionRecord → List SinkCall
  | _, [] => []
  | place, record :: rest =>
      (if closes place then [.close, .write record] else [.write record]) ++
        scheduled closes (place + 1) rest

/-- Before the first call to close there are as many records as its number tells. -/
theorem early_scheduled {closes : Nat → Bool} {place moment : Nat}
    (closing : closes (place + moment) = true)
    (first : ∀ before < moment, closes (place + before) = false)
    (records : List SelectionRecord) :
    early (scheduled closes place records) = records.take moment := by
  induction records generalizing place moment with
  | nil => simp [scheduled, early]
  | cons record rest ih =>
      cases moment with
      | zero =>
          rw [Nat.add_zero] at closing
          simp [scheduled, closing, early]
      | succ moment =>
          have open_yet : closes place = false := first 0 (Nat.succ_pos _)
          have closing_later : closes (place + 1 + moment) = true := by
            rwa [Nat.add_right_comm, Nat.add_assoc]
          have first_later : ∀ before < moment, closes (place + 1 + before) = false := by
            intro before less
            rw [Nat.add_right_comm, Nat.add_assoc]
            exact first (before + 1) (Nat.succ_lt_succ less)
          simp [scheduled, open_yet, early, ih closing_later first_later]

end SinkCall

/-! ## Rows and lines -/

theorem Auditor.foldl_hear_collecting (rows : List AuditRow) (records : List SelectionRecord) :
    records.foldl Auditor.collecting.hear rows = rows ++ records.flatMap AuditRow.ofRecord := by
  induction records generalizing rows with
  | nil => simp
  | cons record rest ih =>
      have heard : Auditor.collecting.hear rows record = rows ++ AuditRow.ofRecord record := rfl
      rw [List.foldl_cons, ih, heard, List.append_assoc, List.flatMap_cons]

namespace AuditRow

/-- The header line, its line feed apart. -/
def headerLine : List Char :=
  List.intercalate [';'] (header.map String.toList)

theorem rowText_header : Table.rowText header = headerLine ++ ['\n'] :=
  Table.rowText_of_plain (by decide)

theorem flatMap_text (records : List SelectionRecord) :
    records.flatMap SelectionRecord.text =
      ((records.flatMap ofRecord).map line).flatMap (· ++ ['\n']) := by
  induction records with
  | nil => rfl
  | cons record rest ih =>
      rw [List.flatMap_cons, List.flatMap_cons, ih, SelectionRecord.text_eq, List.map_append,
        List.flatMap_append]

end AuditRow

namespace Sink

variable {δ : Type}

/-! ## Calls one after the other -/

def call (device : Device δ) (sink : Sink δ) : SinkCall → Except SinkError Unit × Sink δ
  | .write record => sink.write device record
  | .close => sink.close device

/-- Calls one after the other: what they are answered, and the sink after them. -/
def run (device : Device δ) (sink : Sink δ) :
    List SinkCall → List (Except SinkError Unit) × Sink δ
  | [] => ([], sink)
  | first :: rest =>
      let (answer, sink) := sink.call device first
      let (answers, sink) := sink.run device rest
      (answer :: answers, sink)

theorem length_run (device : Device δ) (sink : Sink δ) (calls : List SinkCall) :
    (sink.run device calls).1.length = calls.length := by
  induction calls generalizing sink with
  | nil => rfl
  | cons call rest ih => exact congrArg (· + 1) (ih _)

theorem run_append (device : Device δ) (sink : Sink δ) (before after : List SinkCall) :
    sink.run device (before ++ after) =
      let first := sink.run device before
      let second := first.2.run device after
      (first.1 ++ second.1, second.2) := by
  induction before generalizing sink with
  | nil => rfl
  | cons call rest ih => simp only [List.cons_append, run, ih]

theorem answer_run (device : Device δ) (sink : Sink δ) (before : List SinkCall)
    (call : SinkCall) (after : List SinkCall) :
    (sink.run device (before ++ call :: after)).1[before.length]? =
      some ((sink.run device before).2.call device call).1 := by
  simp [run_append, run, ← length_run device sink before]

variable {device : Device δ} {seen : δ → String} {sink : Sink δ}

theorem run_of_closed (closed : sink.buffer = none) (calls : List SinkCall) :
    (sink.run device calls).2 = sink := by
  induction calls with
  | nil => rfl
  | cons call rest ih =>
      cases call with
      | write record => simpa only [run, Sink.call, write_of_closed closed] using ih
      | close => simpa only [run, Sink.call, close_of_closed closed] using ih

/-- After calls an open sink at rest has added the records up to the first call to close,
and is closed if there was one. -/
theorem run_of_rest (takes : device.Takes seen) (rest : sink.buffer = some Buffer.empty)
    (calls : List SinkCall) :
    ∃ after, (sink.run device calls).2 =
        ⟨after, if .close ∈ calls then none else some Buffer.empty⟩ ∧
      seen after = seen sink.state ++
        String.ofList ((SinkCall.early calls).flatMap SelectionRecord.text) := by
  induction calls generalizing sink with
  | nil => exact ⟨sink.state, by rw [run, ← rest]; rfl, by simp [SinkCall.early]⟩
  | cons call later ih =>
      cases call with
      | write record =>
          rcases write_eq takes rest record with ⟨between, written, shows⟩
          have still : (Sink.mk between (some Buffer.empty)).buffer = some Buffer.empty := rfl
          rcases ih still with ⟨after, ran, shown⟩
          refine ⟨after, by simpa [run, Sink.call, written] using ran, ?_⟩
          rw [shown, shows, SinkCall.early, List.flatMap_cons, String.ofList_append,
            String.append_assoc]
      | close =>
          -- Behind a call to close the state stays, so the induction is not needed.
          have same : (run device ⟨sink.state, none⟩ later).2 = ⟨sink.state, none⟩ :=
            run_of_closed rfl later
          exact ⟨sink.state, by simpa [run, Sink.call, close_of_rest rest] using same,
            by simp [SinkCall.early]⟩

/-- What becomes of a sink that was opened on a device that showed `begun`. -/
structure LifeCycle (device : Device δ) (seen : δ → String) (begun : String) (sink : Sink δ)
    (calls : List SinkCall) : Prop where
  /-- The header line and the lines of the rows that a collecting auditor has of the records
  before the first call to close. -/
  shown : ∃ text, seen (sink.run device calls).2.state = begun ++ String.ofList text ∧
    linesOf text = AuditRow.headerLine :: (SinkCall.rows calls).map AuditRow.line ∧
    (linesOf text).flatMap (· ++ ['\n']) = text
  /-- Each of these records has one row for every candidate, in order. -/
  rows : SinkCall.rows calls = (SinkCall.early calls).flatMap fun record =>
    record.candidates.zipIdx.map (AuditRow.ofEntry record)
  length_answers : (sink.run device calls).1.length = calls.length
  answers : ∀ before call after, calls = before ++ call :: after →
    (sink.run device calls).1[before.length]? = some (call.answer (.close ∈ before))
  /-- After a call to close nothing changes any more. -/
  shut : ∀ before after, calls = before ++ after → .close ∈ before →
    (sink.run device calls).2 = (sink.run device before).2
  closed_iff : (sink.run device calls).2.isClosed = true ↔ .close ∈ calls
  /-- Nothing comes out late, when the sink is gone. -/
  finish : (sink.run device calls).2.finish device = (sink.run device calls).2.state

theorem answer_of_rest (takes : device.Takes seen) (rest : sink.buffer = some Buffer.empty)
    (before : List SinkCall) (call : SinkCall) :
    ((sink.run device before).2.call device call).1 = call.answer (.close ∈ before) := by
  rcases run_of_rest takes rest before with ⟨after, ran, _⟩
  rw [ran]
  by_cases closed : .close ∈ before
  · cases call with
    | write record => simp [Sink.call, SinkCall.answer, closed, write_of_closed]
    | close => simp [Sink.call, SinkCall.answer, closed, close_of_closed]
  · simp only [closed, if_false]
    cases call with
    | write record =>
        have still : (Sink.mk after (some Buffer.empty)).buffer = some Buffer.empty := rfl
        rcases write_eq takes still record with ⟨later, written, _⟩
        simp [Sink.call, SinkCall.answer, written]
    | close =>
        simp [Sink.call, SinkCall.answer, close_of_rest]

theorem lifeCycle_of_rest (takes : device.Takes seen) (rest : sink.buffer = some Buffer.empty)
    {begun : String}
    (header : seen sink.state = begun ++ String.ofList (Table.rowText AuditRow.header))
    (calls : List SinkCall) : sink.LifeCycle device seen begun calls := by
  rcases run_of_rest takes rest calls with ⟨after, ran, shows⟩
  have collected : SinkCall.rows calls = (SinkCall.early calls).flatMap AuditRow.ofRecord :=
    Auditor.foldl_hear_collecting [] _
  let expected := AuditRow.headerLine :: (SinkCall.rows calls).map AuditRow.line
  have lines : linesOf (expected.flatMap (· ++ ['\n'])) = expected := by
    apply linesOf_flatMap
    rw [List.forall_mem_cons]
    refine ⟨by decide, ?_⟩
    intro line member
    rcases List.mem_map.1 member with ⟨row, among, rfl⟩
    rw [collected] at among
    rcases List.mem_flatMap.1 among with ⟨record, _, among⟩
    exact (AuditRow.harmless_line (AuditRow.isAbout_ofRecord among)).2
  exact {
    shown := by
      refine ⟨expected.flatMap (· ++ ['\n']), ?_, lines, by rw [lines]⟩
      rw [ran, shows, header, AuditRow.flatMap_text, ← collected, AuditRow.rowText_header,
        String.append_assoc, ← String.ofList_append, List.flatMap_cons]
    rows := by
      rw [collected]
      exact List.flatMap_congr fun record _ => AuditRow.ofRecord_eq record
    length_answers := length_run device sink calls
    answers := by
      rintro before call after rfl
      rw [answer_run, answer_of_rest takes rest]
    shut := by
      rintro before later rfl closed
      rcases run_of_rest takes rest before with ⟨between, ran, _⟩
      rw [if_pos closed] at ran
      rw [run_append, run_of_closed]
      rw [ran]
    closed_iff := by
      rw [ran, isClosed]
      split <;> simp_all
    finish := by
      rw [ran, finish]
      split
      · rfl
      · rename_i buffer waits
        split at waits
        · cases waits
        · cases waits
          rfl }

/-! ## While tours are selected -/

/-- The audit file as an auditor that counts the records, where someone else closes the file
before those whose numbers are told. -/
def closedAuditor (device : Device δ) (closes : Nat → Bool) : Auditor (Nat × Sink δ) where
  record state record :=
    let sink := if closes state.1 then (state.2.close device).2 else state.2
    let (answer, sink) := (auditor device).record sink record
    (answer, state.1 + 1, sink)

theorem foldl_hear_auditor (device : Device δ) (sink : Sink δ)
    (records : List SelectionRecord) :
    records.foldl (auditor device).hear sink =
      (sink.run device (records.map SinkCall.write)).2 := by
  induction records generalizing sink with
  | nil => rfl
  | cons record rest ih => exact ih _

theorem foldl_hear_closedAuditor (device : Device δ) (closes : Nat → Bool) (place : Nat)
    (sink : Sink δ) (records : List SelectionRecord) :
    records.foldl (closedAuditor device closes).hear (place, sink) =
      (place + records.length,
        (sink.run device (SinkCall.scheduled closes place records)).2) := by
  induction records generalizing place sink with
  | nil => rfl
  | cons record rest ih =>
      have heard : (closedAuditor device closes).hear (place, sink) record =
          (place + 1, (sink.run device
            (if closes place then [.close, .write record] else [.write record])).2) := by
        cases closes_now : closes place <;>
          simp [Auditor.hear, closedAuditor, closes_now, auditor, run, Sink.call]
      rw [List.foldl_cons, heard, ih, SinkCall.scheduled, run_append, List.length_cons,
        Nat.add_assoc, Nat.add_comm 1]

end Sink

/-- The life of an audit file that is opened on a device that takes everything.  It holds the
header line and what was written before the first call to close, the calls after that are
of no effect, and the tours of a population come to the same wherever among their records
the file is closed. -/
theorem Sink.created_lifeCycle {δ : Type} {device : Device δ} {seen : δ → String}
    (takes : device.Takes seen) (state : δ) :
    ∃ sink, (create device state).1 = .ok sink ∧
      (∀ calls, sink.LifeCycle device seen (seen state) calls) ∧
      ∀ (σ τ : Type) (model : Model σ τ) (oracle : σ) (number : SelectionId)
        (population : Population) (tours : List Tour) (closes : Nat → Bool),
        let undisturbed := (model.audited (auditor device)).selectPopulation population
          ⟨oracle, sink, number⟩ tours
        let disturbed := (model.audited (closedAuditor device closes)).selectPopulation
          population ⟨oracle, (0, sink), number⟩ tours
        let records := recordsOf (undisturbed.results.flatMap TourResult.events)
        let calls := SinkCall.scheduled closes 0 records
        disturbed.SameSelections undisturbed ∧
          undisturbed.desk.auditor = (sink.run device (records.map SinkCall.write)).2 ∧
          disturbed.desk.auditor.2 = (sink.run device calls).2 ∧
          ∀ moment, closes moment = true → (∀ before < moment, closes before = false) →
            SinkCall.early calls = records.take moment := by
  rcases create_eq takes state with ⟨opened, created, header⟩
  refine ⟨_, created, fun calls => lifeCycle_of_rest takes rfl header calls, ?_⟩
  intro σ τ model oracle number population tours closes undisturbed disturbed records calls
  have same : disturbed.SameSelections undisturbed :=
    (model.audited (auditor device)).selectPopulation_audited (closedAuditor device closes)
      population rfl rfl tours
  refine ⟨same, ?_, ?_, ?_⟩
  · have heard := ((model.audited (auditor device)).tells_selectPopulation population
      ⟨oracle, ⟨opened, some Buffer.empty⟩, number⟩ tours).heard
    exact heard.trans (foldl_hear_auditor device _ records)
  · have heard : disturbed.desk.auditor =
        (recordsOf (disturbed.results.flatMap TourResult.events)).foldl
          (closedAuditor device closes).hear (0, ⟨opened, some Buffer.empty⟩) :=
      ((model.audited (closedAuditor device closes)).tells_selectPopulation population _
        tours).heard
    rw [foldl_hear_closedAuditor, same.records] at heard
    exact congrArg Prod.snd heard
  · intro moment closing first
    exact SinkCall.early_scheduled (by rwa [Nat.zero_add])
      (fun before less => by rw [Nat.zero_add]; exact first before less) records

/-- A record is refused when the file was closed before it, and two tours come to the same
where someone closes the file between them. -/
theorem Sink.created_on_text_lifeCycle :
    let record : SelectionRecord :=
      ⟨⟨7⟩, [2, 5], ⟨1⟩, [Candidate.make .walk (-1.5) 600.25], .at 0⟩
    let calls : List SinkCall := [.write record, .close, .write record, .close]
    let population := Population.ofList [Agent.bare ⟨7⟩]
    let tour : Tour := ⟨⟨7⟩, [errand 2 .bike]⟩
    ∃ sink, (create Device.keeping "").1 = .ok sink ∧
      (sink.run Device.keeping calls).1[2]? = some (.error .closed) ∧
      (sink.run Device.keeping calls).2.isClosed = true ∧
      (((Model.strict .exception).audited (closedAuditor Device.keeping (· == 1))).selectPopulation
          population ⟨(), (0, sink), ⟨0⟩⟩ [tour, tour]).SameSelections
        (((Model.strict .exception).audited (auditor Device.keeping)).selectPopulation population
          ⟨(), sink, ⟨0⟩⟩ [tour, tour]) := by
  intro record calls population tour
  rcases created_lifeCycle Table.Device.takes_keeping "" with ⟨sink, created, life, tours⟩
  refine ⟨sink, created, ?_, ?_, ?_⟩
  · exact (life calls).answers [.write record, .close] (.write record) [.close] rfl
  · exact (life calls).closed_iff.2 (by decide)
  · exact (tours Unit Unit (Model.strict .exception) () ⟨0⟩ population [tour, tour] (· == 1)).1

end ModeChoice
