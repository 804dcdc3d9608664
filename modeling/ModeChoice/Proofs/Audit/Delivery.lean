import ModeChoice.Audit.Sink

/-!
# Text on its way to a device

What a device shows and what still waits in the buffer make up one text.  Where the device
takes everything, every step succeeds and only adds to the end of that text, whatever the
size of the buffer is and whenever it is flushed.  So the rows of a table come out whole
and in order, and after a flush nothing waits any more.
-/

namespace ModeChoice.Table

variable {δ : Type}

/-- The device takes every text, and `seen` shows what it has taken. -/
structure Device.Takes (device : Device δ) (seen : δ → String) : Prop where
  accepts : ∀ state text, (device.write state text).1 = .ok ()
  keeps : ∀ state text, seen (device.write state text).2 = seen state ++ text

theorem Device.takes_keeping : Device.keeping.Takes id where
  accepts _ _ := rfl
  keeps _ _ := rfl

theorem Device.Takes.write_eq {device : Device δ} {seen : δ → String}
    (takes : device.Takes seen) (state : δ) (text : String) :
    ∃ after, device.write state text = (.ok (), after) ∧ seen after = seen state ++ text :=
  ⟨_, Prod.ext (takes.accepts state text) rfl, takes.keeps state text⟩

namespace Buffer

/-- What a device shows, and what waits for it behind that. -/
def handed (seen : δ → String) (buffer : Buffer) (state : δ) : List Char :=
  (seen state).toList ++ buffer.pending.toList

/-- A step succeeds with `fields` fields of the current row complete, and adds a text to
what was handed over before. -/
def Delivers {ε : Type} (seen : δ → String) (buffer : Buffer) (state : δ) (text : List Char)
    (fields : Nat) (step : Except ε Unit × Buffer × δ) : Prop :=
  ∃ filled after, step = (.ok (), filled, after) ∧ filled.fields = fields ∧
    filled.handed seen after = buffer.handed seen state ++ text

/-- What a later step adds stands behind what an earlier one has added. -/
theorem Delivers.behind {ε : Type} {seen : δ → String} {buffer between : Buffer}
    {state later : δ} {text more : List Char} {fields : Nat}
    {step : Except ε Unit × Buffer × δ} (delivers : Delivers seen between later more fields step)
    (before : between.handed seen later = buffer.handed seen state ++ text) :
    Delivers seen buffer state (text ++ more) fields step := by
  rcases delivers with ⟨filled, after, done, complete, handed⟩
  exact ⟨filled, after, done, complete, by rw [handed, before, List.append_assoc]⟩

variable {device : Device δ} {seen : δ → String} (takes : device.Takes seen)

@[simp]
theorem handed_push (buffer : Buffer) (state : δ) (c : Char) :
    handed seen { buffer with pending := buffer.pending.push c } state =
      buffer.handed seen state ++ [c] := by
  simp [handed]

include takes

theorem flush_eq (buffer : Buffer) (state : δ) :
    ∃ after, buffer.flush device state = (.ok (), ⟨#[], buffer.fields⟩, after) ∧
      (seen after).toList = buffer.handed seen state := by
  rcases buffer with ⟨pending, fields⟩
  by_cases nothing : pending = #[]
  · subst nothing
    exact ⟨state, rfl, by simp [handed]⟩
  · rcases takes.write_eq state (String.ofList pending.toList) with ⟨after, written, shows⟩
    refine ⟨after, ?_, by simp [handed, shows]⟩
    simp [flush, nothing, written]

theorem put_delivers (characters : List Char) (buffer : Buffer) (state : δ) :
    Delivers seen buffer state characters buffer.fields
      (put device characters buffer state) := by
  induction characters generalizing buffer state with
  | nil => exact ⟨buffer, state, rfl, rfl, (List.append_nil _).symm⟩
  | cons c rest ih =>
      unfold put
      split
      · exact (ih { buffer with pending := buffer.pending.push c } state).behind
          (handed_push buffer state c)
      · rcases flush_eq takes buffer state with ⟨between, flushed, shows⟩
        rw [flushed]
        have pushed : handed seen ⟨#[].push c, buffer.fields⟩ between =
            handed seen buffer state ++ [c] := by
          rw [← shows]
          simp [handed]
        exact (ih ⟨#[].push c, buffer.fields⟩ between).behind pushed

end Buffer

/-- Fields as they stand in a row behind as many as are complete already. -/
def fieldsText : Nat → List String → List Char
  | _, [] => []
  | complete, field :: rest =>
      (if complete = 0 then [] else [';']) ++ fieldText field ++ fieldsText (complete + 1) rest

theorem fieldsText_succ (complete : Nat) (fields : List String) :
    fieldsText (complete + 1) fields = fields.flatMap fun field => ';' :: fieldText field := by
  induction fields generalizing complete with
  | nil => rfl
  | cons field rest ih => simp [fieldsText, ih]

theorem rowText_eq (fields : List String) : rowText fields = fieldsText 0 fields ++ ['\n'] := by
  have joined (first : String) (rest : List String) :
      List.intercalate [';'] ((first :: rest).map fieldText) =
        fieldText first ++ rest.flatMap fun field => ';' :: fieldText field := by
    induction rest generalizing first with
    | nil => simp
    | cons second rest ih => simpa using ih second
  cases fields with
  | nil => rfl
  | cons first rest =>
      rw [rowText, joined, fieldsText, fieldsText_succ]
      rfl

namespace Buffer

variable {device : Device δ} {seen : δ → String} (takes : device.Takes seen)

include takes

theorem putFields_delivers (fields : List String) (buffer : Buffer) (state : δ) :
    Delivers seen buffer state (fieldsText buffer.fields fields)
      (buffer.fields + fields.length) (putFields device fields buffer state) := by
  induction fields generalizing buffer state with
  | nil => exact ⟨buffer, state, rfl, rfl, (List.append_nil _).symm⟩
  | cons field rest ih =>
      rcases put_delivers takes ((if buffer.fields = 0 then [] else [';']) ++ fieldText field)
        buffer state with ⟨filled, after, done, complete, handed⟩
      have later := ih { filled with fields := filled.fields + 1 } after
      rw [complete] at later
      have counts : buffer.fields + (field :: rest).length =
          buffer.fields + 1 + rest.length := by
        simp only [List.length_cons]
        omega
      rw [counts]
      unfold putFields
      simp only [done, complete]
      exact later.behind handed

/-- A row of the right width comes out as it should, and the next one starts afresh. -/
theorem putRow_delivers (fields : List String) {buffer : Buffer} (fresh : buffer.fields = 0)
    (state : δ) :
    Delivers seen buffer state (rowText fields) 0
      (putRow device fields.length fields buffer state) := by
  rcases putFields_delivers takes fields buffer state with
    ⟨filled, between, done, complete, handed⟩
  rcases put_delivers takes ['\n'] filled between with ⟨ended, after, closed, _, more⟩
  refine ⟨{ ended with fields := 0 }, after, ?_, rfl, ?_⟩
  · unfold putRow
    simp only [done]
    rw [if_pos (by omega)]
    simp only [closed]
  · rw [rowText_eq, ← fresh, ← List.append_assoc, ← handed, ← more]
    rfl

theorem putRows_delivers {width : Nat} {rows : List (List String)}
    (even : ∀ row ∈ rows, row.length = width) {buffer : Buffer} (fresh : buffer.fields = 0)
    (state : δ) :
    Delivers seen buffer state (rows.flatMap rowText) 0
      (putRows device width rows buffer state) := by
  induction rows generalizing buffer state with
  | nil => exact ⟨buffer, state, rfl, fresh, (List.append_nil _).symm⟩
  | cons row rest ih =>
      rcases List.forall_mem_cons.1 even with ⟨here, even⟩
      rcases putRow_delivers takes row fresh state with
        ⟨filled, between, done, complete, handed⟩
      rw [here] at done
      unfold putRows
      simp only [done]
      exact (ih even complete between).behind handed

end Buffer

end ModeChoice.Table

namespace ModeChoice

open Table (Device Buffer rowText)

/-- The text of a record in the audit file. -/
def SelectionRecord.text (record : SelectionRecord) : List Char :=
  (AuditRow.ofRecord record).flatMap fun row => rowText row.fields

namespace Sink

variable {δ : Type} {device : Device δ} {seen : δ → String} (takes : device.Takes seen)

include takes

theorem deliver_eq {rows : List (List String)} (even : ∀ row ∈ rows, row.length = width)
    (state : δ) :
    ∃ after, deliver device rows Buffer.empty state = (.ok (), Buffer.empty, after) ∧
      seen after = seen state ++ String.ofList (rows.flatMap rowText) := by
  have fresh : Buffer.empty.fields = 0 := rfl
  rcases Buffer.putRows_delivers takes even fresh state with
    ⟨filled, between, put, fields, handed⟩
  rcases Buffer.flush_eq takes filled between with ⟨after, flushed, shows⟩
  refine ⟨after, ?_, ?_⟩
  · unfold deliver
    simp only [put, flushed, fields]
    rfl
  · rw [← String.toList_inj, shows, handed]
    simp [Buffer.handed, Buffer.empty]

theorem create_eq (state : δ) :
    ∃ after, (create device state).1 = .ok ⟨after, some Buffer.empty⟩ ∧
      seen after = seen state ++ String.ofList (rowText AuditRow.header) := by
  have even : ∀ row ∈ [AuditRow.header], row.length = width := by
    simp [width]
  rcases deliver_eq takes even state with ⟨after, delivered, shows⟩
  refine ⟨after, ?_, by simpa using shows⟩
  simp only [create, delivered]

variable {sink : Sink δ}

/-- An open sink at rest takes a record and is at rest again. -/
theorem write_eq (rest : sink.buffer = some Buffer.empty) (record : SelectionRecord) :
    ∃ after, sink.write device record = (.ok (), ⟨after, some Buffer.empty⟩) ∧
      seen after = seen sink.state ++ String.ofList record.text := by
  have even : ∀ row ∈ (AuditRow.ofRecord record).map AuditRow.fields, row.length = width := by
    intro fields member
    rcases List.mem_map.1 member with ⟨row, _, rfl⟩
    rfl
  rcases deliver_eq takes even sink.state with ⟨after, delivered, shows⟩
  refine ⟨after, ?_, by rw [shows, List.flatMap_map]; rfl⟩
  simp only [write, rest, delivered]

omit takes in
theorem close_of_rest (rest : sink.buffer = some Buffer.empty) :
    sink.close device = (.ok (), ⟨sink.state, none⟩) := by
  simp [close, rest, Buffer.flush, Buffer.empty]

omit takes in
theorem write_of_closed (closed : sink.buffer = none) (record : SelectionRecord) :
    sink.write device record = (.error .closed, sink) := by
  simp only [write, closed]

omit takes in
theorem close_of_closed (closed : sink.buffer = none) :
    sink.close device = (.ok (), sink) := by
  simp only [close, closed]

end Sink

end ModeChoice
