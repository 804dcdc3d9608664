/-!
# Tables in a text file

Rows of fields with a semicolon between two fields and a line feed after every
row.  A field with a semicolon, a quotation mark or a line end in it is put
between quotation marks, and a mark inside is written twice.

Rows go to a device that may refuse a text.  They wait in a buffer of limited
size until they are flushed, or until the buffer is full; what a device refuses
stays in the buffer.  All rows of a table have the same number of fields, and a
row that broke off counts with the fields of the next one.
-/

namespace ModeChoice.Table

/-- Whether a field has to be put between quotation marks. -/
def needsQuotes (field : List Char) : Bool :=
  field.any fun c => c == ';' || c == '"' || c == '\n' || c == '\r'

/-- A field as it stands in its row. -/
def fieldText (field : String) : List Char :=
  if needsQuotes field.toList then
    '"' :: field.toList.flatMap (fun c => if c = '"' then ['"', '"'] else [c]) ++ ['"']
  else field.toList

/-- A row as it stands in the file, with its line feed. -/
def rowText (fields : List String) : List Char :=
  List.intercalate [';'] (fields.map fieldText) ++ ['\n']

/-- Where text goes: a text is taken whole, or refused for a reason. -/
structure Device (δ : Type) where
  write : δ → String → Except String Unit × δ

/-- Why a row cannot be written. -/
inductive RowError where
  /-- The device refused the buffer. -/
  | refused (reason : String)
  /-- The row has not as many fields as the first one. -/
  | ragged (expected found : Nat)
  deriving DecidableEq, Repr

/-- The wording of a row's error. -/
def RowError.message : RowError → String
  | .refused reason => reason
  | .ragged expected found =>
      s!"CSV error: found record with {found} fields, but the previous record has " ++
        s!"{expected} fields"

/-- Text on its way to a device. -/
structure Buffer where
  pending : Array Char
  /-- How many fields of the current row are complete. -/
  fields : Nat
  deriving DecidableEq

namespace Buffer

/-- How many characters wait at most. -/
def capacity : Nat := 8192

/-- A buffer without text. -/
def empty : Buffer := ⟨#[], 0⟩

variable {δ : Type}

/-- Hands the waiting text to the device; if there is none, the device is left
alone. -/
def flush (buffer : Buffer) (device : Device δ) (state : δ) : Except String Unit × Buffer × δ :=
  if buffer.pending.isEmpty then (.ok (), buffer, state)
  else
    match device.write state (String.ofList buffer.pending.toList) with
    | (.ok (), state) => (.ok (), { buffer with pending := #[] }, state)
    | (.error reason, state) => (.error reason, buffer, state)

/-- Puts characters into the buffer, flushing it whenever it is full. -/
def put (device : Device δ) : List Char → Buffer → δ → Except String Unit × Buffer × δ
  | [], buffer, state => (.ok (), buffer, state)
  | c :: rest, buffer, state =>
      if buffer.pending.size < capacity then
        put device rest { buffer with pending := buffer.pending.push c } state
      else
        match buffer.flush device state with
        | (.ok (), flushed, state) =>
            put device rest { flushed with pending := flushed.pending.push c } state
        | (.error reason, buffer, state) => (.error reason, buffer, state)

/-- Puts the fields of a row into the buffer. -/
def putFields (device : Device δ) :
    List String → Buffer → δ → Except String Unit × Buffer × δ
  | [], buffer, state => (.ok (), buffer, state)
  | field :: rest, buffer, state =>
      let separator := if buffer.fields = 0 then [] else [';']
      match put device (separator ++ fieldText field) buffer state with
      | (.ok (), buffer, state) =>
          putFields device rest { buffer with fields := buffer.fields + 1 } state
      | (.error reason, buffer, state) => (.error reason, buffer, state)

/-- Puts a row of `width` fields into the buffer. -/
def putRow (device : Device δ) (width : Nat) (fields : List String) (buffer : Buffer) (state : δ) :
    Except RowError Unit × Buffer × δ :=
  match putFields device fields buffer state with
  | (.error reason, buffer, state) => (.error (.refused reason), buffer, state)
  | (.ok (), buffer, state) =>
      if buffer.fields = width then
        match put device ['\n'] buffer state with
        | (.ok (), buffer, state) => (.ok (), { buffer with fields := 0 }, state)
        | (.error reason, buffer, state) => (.error (.refused reason), buffer, state)
      else (.error (.ragged width buffer.fields), buffer, state)

/-- Puts rows of `width` fields into the buffer, up to the first that fails. -/
def putRows (device : Device δ) (width : Nat) :
    List (List String) → Buffer → δ → Except RowError Unit × Buffer × δ
  | [], buffer, state => (.ok (), buffer, state)
  | row :: rest, buffer, state =>
      match putRow device width row buffer state with
      | (.ok (), buffer, state) => putRows device width rest buffer state
      | (.error cause, buffer, state) => (.error cause, buffer, state)

end Buffer

end ModeChoice.Table
