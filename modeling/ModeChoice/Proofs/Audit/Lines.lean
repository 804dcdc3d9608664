import ModeChoice.Proofs.Audit.Delivery
import ModeChoice.Proofs.Number.Places

/-!
# Reading the audit file

No field of an audit row has a character in it that would have to be put between
quotation marks, so the semicolons of a line are all between fields, and every line feed
is at the end of a line.  What a record says can be read off its lines: who travelled,
which trips were decided under which number, and for each candidate the mode, the
utility to six places, the duration and the mark.

The duration is read with the reader of doubles, and comes back where the shortest text of
a double reads back as the same double; that it always does is not shown here.
-/

namespace ModeChoice

namespace Table

theorem needsQuotes_eq_false_iff {field : List Char} :
    needsQuotes field = false ↔ ∀ c ∈ field, c ≠ ';' ∧ c ≠ '"' ∧ c ≠ '\n' ∧ c ≠ '\r' := by
  simp [needsQuotes, and_assoc]

/-- A field has nothing in it that has to be quoted. -/
def IsPlain (field : String) : Prop :=
  needsQuotes field.toList = false

instance (field : String) : Decidable (IsPlain field) :=
  inferInstanceAs (Decidable (needsQuotes field.toList = false))

/-- A row of plain fields is the fields with semicolons between, and a line feed. -/
theorem rowText_of_plain {fields : List String} (plain : ∀ field ∈ fields, IsPlain field) :
    rowText fields = List.intercalate [';'] (fields.map String.toList) ++ ['\n'] := by
  have same : fields.map fieldText = fields.map String.toList := by
    apply List.map_congr_left
    intro field among
    rw [fieldText, if_neg (by rw [plain field among]; exact Bool.false_ne_true)]
  rw [rowText, same]

end Table

open Table (IsPlain)

/-! ## Plain fields -/

theorem isPlain_of_forall {field : String} (allowed : Char → Bool)
    (all : ∀ c ∈ field.toList, allowed c = true)
    (harmless : allowed ';' = false ∧ allowed '"' = false ∧ allowed '\n' = false ∧
      allowed '\r' = false) : IsPlain field := by
  apply Table.needsQuotes_eq_false_iff.2
  intro c among
  have fine := all c among
  refine ⟨?_, ?_, ?_, ?_⟩ <;> rintro rfl <;> simp_all

theorem isPlain_of_isNumeral {field : String}
    (all : ∀ c ∈ field.toList, Number.isNumeral c = true) : IsPlain field :=
  isPlain_of_forall Number.isNumeral all (by decide)

theorem isPlain_toString (count : Nat) : IsPlain (toString count) := by
  apply isPlain_of_isNumeral
  intro c among
  rw [Nat.toString_eq_repr, Nat.toList_repr] at among
  exact Number.isNumeral_of_isDigit (Number.isDigit_of_mem_toDigits among)

theorem isPlain_label (mode : Mode) : IsPlain mode.label := by
  cases mode <;> rfl

/-- Nothing is in a joined text that is not in its parts or between them. -/
theorem mem_of_mem_intercalate {c : Char} {separator : List Char} {parts : List (List Char)}
    (among : c ∈ List.intercalate separator parts) :
    c ∈ separator ∨ ∃ part ∈ parts, c ∈ part := by
  induction parts with
  | nil => simp at among
  | cons first rest ih =>
      cases rest with
      | nil => exact .inr ⟨first, List.mem_singleton_self _, by simpa using among⟩
      | cons second rest =>
          rw [List.intercalate_cons_cons, List.mem_append, List.mem_append] at among
          rcases among with (here | between) | later
          · exact .inr ⟨first, List.mem_cons_self, here⟩
          · exact .inl between
          · rcases ih later with between | ⟨part, member, there⟩
            · exact .inl between
            · exact .inr ⟨part, List.mem_cons_of_mem _ member, there⟩

theorem toList_joined (indices : List Nat) :
    (String.intercalate "," (indices.map toString)).toList =
      List.intercalate [','] (indices.map (Nat.toDigits 10)) := by
  rw [String.toList_intercalate, List.map_map]
  congr 1
  exact List.map_congr_left fun index _ => Nat.toList_repr

/-- The row is about the trips with these indices. -/
def AuditRow.IsAbout (row : AuditRow) (indices : List Nat) : Prop :=
  row.tripIndices = String.intercalate "," (indices.map toString)

theorem isPlain_joined (indices : List Nat) :
    IsPlain (String.intercalate "," (indices.map toString)) := by
  apply isPlain_of_forall (fun c => c == ',' || c.isDigit) _ (by decide)
  intro c among
  rw [toList_joined] at among
  rcases mem_of_mem_intercalate among with comma | ⟨digits, member, digit⟩
  · simp [List.mem_singleton.1 comma]
  · rcases List.mem_map.1 member with ⟨index, _, rfl⟩
    simp [Number.isDigit_of_mem_toDigits digit]

/-! ## The line of a row -/

/-- What a line of the audit file tells. -/
structure AuditLine where
  agent : AgentId
  tripIndices : List Nat
  selection : SelectionId
  mode : Mode
  /-- The utility to six places. -/
  utility : Number.Rounded
  duration : Float
  selected : Bool
  deriving DecidableEq

namespace AuditLine

def readCount? (field : List Char) : Option Nat :=
  (Number.readInt? field).map Int.toNat

def readMark? (field : List Char) : Option Bool :=
  if field = "true".toList then some true
  else if field = "false".toList then some false
  else none

/-- What a line tells, its line feed apart. -/
def read? (line : List Char) : Option AuditLine :=
  match line.splitOn ';' with
  | [agent, tripIndices, selection, mode, utility, duration, selected] => do
      let agent ← readCount? agent
      let tripIndices ← (tripIndices.splitOn ',').mapM readCount?
      let selection ← readCount? selection
      let mode ← Mode.ofLabel? (String.ofList mode)
      let utility ← Number.Rounded.read? (String.ofList utility)
      let duration ← Number.readFloat? (String.ofList duration)
      let selected ← readMark? selected
      return {
        agent := ⟨UInt32.ofNat agent⟩
        tripIndices
        selection := ⟨UInt64.ofNat selection⟩
        mode
        utility
        duration
        selected }
  | _ => none

theorem readCount?_toDigits (count : Nat) : readCount? (Nat.toDigits 10 count) = some count := by
  simp [readCount?, Number.readInt?_toDigits]

theorem readMark?_mark (mark : Bool) :
    readMark? (if mark then "true" else "false").toList = some mark := by
  cases mark <;> rfl

theorem mapM_readCount?_toDigits (indices : List Nat) :
    (indices.map (Nat.toDigits 10)).mapM readCount? = some indices := by
  induction indices with
  | nil => rfl
  | cons index rest ih => simp [readCount?_toDigits, ih]

theorem mapM_readCount?_joined {indices : List Nat} (some_trip : indices ≠ []) :
    (((String.intercalate "," (indices.map toString)).toList).splitOn ',').mapM readCount? =
      some indices := by
  have digits : ∀ field ∈ indices.map (Nat.toDigits 10), ',' ∉ field := by
    intro field member comma
    rcases List.mem_map.1 member with ⟨index, _, rfl⟩
    exact absurd (Number.isDigit_of_mem_toDigits comma) (by decide)
  rw [toList_joined, List.splitOn_intercalate ',' digits (by simpa using some_trip),
    mapM_readCount?_toDigits]

end AuditLine

/-- The lines of a text in which every line ends with a line feed. -/
def linesOf (text : List Char) : List (List Char) :=
  (text.splitOn '\n').dropLast

theorem linesOf_flatMap {lines : List (List Char)} (plain : ∀ line ∈ lines, '\n' ∉ line) :
    linesOf (lines.flatMap (· ++ ['\n'])) = lines := by
  have parts : (lines.flatMap (· ++ ['\n'])).splitOn '\n' = lines ++ [[]] := by
    induction lines with
    | nil => rfl
    | cons line rest ih =>
        rcases List.forall_mem_cons.1 plain with ⟨here, plain⟩
        rw [List.flatMap_cons, List.append_assoc, List.singleton_append,
          List.splitOn_append_cons_self_of_not_mem here, ih plain]
        rfl
  rw [linesOf, parts, List.dropLast_concat]

namespace AuditRow

/-- The line of the row, its line feed apart. -/
def line (row : AuditRow) : List Char :=
  List.intercalate [';'] (row.fields.map String.toList)

/-- What the line of a row about some trips tells. -/
def told (indices : List Nat) (row : AuditRow) : AuditLine where
  agent := ⟨row.agent⟩
  tripIndices := indices
  selection := ⟨row.selection⟩
  mode := row.mode
  utility := Number.rounded 6 row.utility
  duration := row.duration
  selected := row.selected

variable {row : AuditRow} {indices : List Nat}

theorem isPlain_fields (about : row.IsAbout indices) : ∀ field ∈ row.fields, IsPlain field := by
  simp only [fields, List.forall_mem_cons]
  refine ⟨isPlain_toString _, ?_, isPlain_toString _, isPlain_label _,
    isPlain_of_isNumeral (Number.isNumeral_fixed 6 _),
    isPlain_of_isNumeral (Number.isNumeral_shortest _), ?_, by simp⟩
  · rw [about]
    exact isPlain_joined indices
  · cases row.selected <;> rfl

theorem rowText_fields (about : row.IsAbout indices) :
    Table.rowText row.fields = row.line ++ ['\n'] :=
  Table.rowText_of_plain (isPlain_fields about)

theorem splitOn_line (about : row.IsAbout indices) :
    row.line.splitOn ';' = row.fields.map String.toList := by
  apply List.splitOn_intercalate
  · intro part member
    rcases List.mem_map.1 member with ⟨field, among, rfl⟩
    intro semicolon
    exact (Table.needsQuotes_eq_false_iff.1 (isPlain_fields about field among) _ semicolon).1 rfl
  · simp [fields]

theorem harmless_line (about : row.IsAbout indices) : '"' ∉ row.line ∧ '\n' ∉ row.line := by
  have harmless : ∀ c ∈ row.line, c ≠ '"' ∧ c ≠ '\n' := by
    intro c among
    rcases mem_of_mem_intercalate among with semicolon | ⟨part, member, there⟩
    · rcases List.mem_singleton.1 semicolon with rfl
      decide
    · rcases List.mem_map.1 member with ⟨field, among, rfl⟩
      have plain := Table.needsQuotes_eq_false_iff.1 (isPlain_fields about field among) c there
      exact ⟨plain.2.1, plain.2.2.1⟩
  exact ⟨fun mark => (harmless _ mark).1 rfl, fun feed => (harmless _ feed).2 rfl⟩

theorem read?_line (about : row.IsAbout indices) (some_trip : indices ≠ [])
    (back : Number.ReadsBack row.duration) :
    AuditLine.read? row.line = some (row.told indices) := by
  have parts := splitOn_line about
  simp only [fields, List.map_cons, List.map_nil] at parts
  rw [about] at parts
  have agent : AuditLine.readCount? (toString row.agent.toNat).toList = some row.agent.toNat := by
    rw [Nat.toString_eq_repr, Nat.toList_repr, AuditLine.readCount?_toDigits]
  have selection : AuditLine.readCount? (toString row.selection.toNat).toList =
      some row.selection.toNat := by
    rw [Nat.toString_eq_repr, Nat.toList_repr, AuditLine.readCount?_toDigits]
  have utility : Number.Rounded.read? (Number.fixed 6 row.utility) =
      some (Number.rounded 6 row.utility) :=
    Number.read?_fixed (by decide) _
  have duration : Number.readFloat? (Number.shortest row.duration) = some row.duration := back
  simp only [AuditLine.read?, parts, agent, selection, AuditLine.mapM_readCount?_joined some_trip,
    String.ofList_toList, Mode.ofLabel?_label, utility, duration, AuditLine.readMark?_mark,
    Option.bind_eq_bind, Option.bind_some, UInt32.ofNat_toNat, UInt64.ofNat_toNat]
  rfl

/-! ## The lines of a record -/

theorem exists_entry {record : SelectionRecord} (among : row ∈ ofRecord record) :
    ∃ entry, entry.1 ∈ record.candidates ∧ ofEntry record entry = row := by
  rw [ofRecord_eq] at among
  rcases List.mem_map.1 among with ⟨entry, member, same⟩
  exact ⟨entry, List.fst_mem_of_mem_zipIdx member, same⟩

theorem isAbout_ofRecord {record : SelectionRecord} (among : row ∈ ofRecord record) :
    row.IsAbout record.tripIndices := by
  rcases exists_entry among with ⟨entry, _, rfl⟩
  rfl

end AuditRow

namespace SelectionRecord

/-- What the line of a candidate at a place of the record tells. -/
def toldOf (record : SelectionRecord) (entry : Candidate × Nat) : AuditLine where
  agent := record.agent
  tripIndices := record.tripIndices
  selection := record.selection
  mode := entry.1.mode
  utility := Number.rounded 6 entry.1.utility
  duration := entry.1.duration
  selected := record.isSelected entry.2

/-- What the lines of a record tell, one for each candidate. -/
def told (record : SelectionRecord) : List AuditLine :=
  record.candidates.zipIdx.map record.toldOf

/-- A line tells about the candidate at a place of the record. -/
structure Tells (record : SelectionRecord) (place : Nat) (candidate : Candidate)
    (told : AuditLine) : Prop where
  agent : told.agent = record.agent
  tripIndices : told.tripIndices = record.tripIndices
  selection : told.selection = record.selection
  mode : told.mode = candidate.mode
  duration : told.duration = candidate.duration
  utility : told.utility.IsNear 6 candidate.utility
  flag : told.selected = record.isSelected place
  selected : told.selected = true ↔ record.selected = .at place ∨ record.selected = .all

/-- The text has one line for each candidate of the record, and every line can be read. -/
structure Legible (record : SelectionRecord) (text : List Char) : Prop where
  length_lines : (linesOf text).length = record.candidates.length
  /-- Nothing is between or behind the lines but a line feed after each. -/
  ended : (linesOf text).flatMap (· ++ ['\n']) = text
  unquoted : '"' ∉ text
  reads : ∀ (place : Nat) (candidate : Candidate),
    record.candidates[place]? = some candidate →
    ∃ line told, (linesOf text)[place]? = some line ∧ (line.splitOn ';').length = 7 ∧
      AuditLine.read? line = some told ∧ record.Tells place candidate told

/-- The records agree in everything that their lines tell. -/
structure SameReport (first second : SelectionRecord) : Prop where
  agent : first.agent = second.agent
  tripIndices : first.tripIndices = second.tripIndices
  selection : first.selection = second.selection
  modes : first.candidates.map Candidate.mode = second.candidates.map Candidate.mode
  utilities : first.candidates.map (Number.rounded 6 ·.utility) =
    second.candidates.map (Number.rounded 6 ·.utility)
  durations : first.candidates.map Candidate.duration = second.candidates.map Candidate.duration
  flags : ∀ place < first.candidates.length, first.isSelected place = second.isSelected place

/-- The durations of the record's candidates come back from their texts. -/
def DurationsReadBack (record : SelectionRecord) : Prop :=
  ∀ candidate ∈ record.candidates, Number.ReadsBack candidate.duration

variable {record : SelectionRecord}

theorem tells_toldOf {place : Nat} {candidate : Candidate}
    (there : record.candidates[place]? = some candidate) :
    record.Tells place candidate (record.toldOf (candidate, place)) where
  agent := rfl
  tripIndices := rfl
  selection := rfl
  mode := rfl
  duration := rfl
  utility := Number.rounded_isNear 6 candidate.utility
  flag := rfl
  selected := by
    rcases List.getElem?_eq_some_iff.1 there with ⟨inside, _⟩
    show record.isSelected place = true ↔ _
    unfold isSelected
    split
    · rename_i kept same
      simp [same]
    · rename_i same
      simp [same, inside]

theorem map_told_ofRecord (record : SelectionRecord) :
    (AuditRow.ofRecord record).map (AuditRow.told record.tripIndices) = record.told := by
  rw [AuditRow.ofRecord_eq, List.map_map]
  rfl

theorem readsBack_of_mem_ofRecord (back : record.DurationsReadBack) {row : AuditRow}
    (among : row ∈ AuditRow.ofRecord record) : Number.ReadsBack row.duration := by
  rcases AuditRow.exists_entry among with ⟨entry, member, rfl⟩
  exact back entry.1 member

theorem text_eq (record : SelectionRecord) :
    record.text = ((AuditRow.ofRecord record).map AuditRow.line).flatMap (· ++ ['\n']) := by
  rw [text, List.flatMap_map]
  exact List.flatMap_congr fun row among =>
    AuditRow.rowText_fields (AuditRow.isAbout_ofRecord among)

theorem linesOf_text (record : SelectionRecord) :
    linesOf record.text = (AuditRow.ofRecord record).map AuditRow.line := by
  rw [text_eq, linesOf_flatMap]
  intro line member
  rcases List.mem_map.1 member with ⟨row, among, rfl⟩
  exact (AuditRow.harmless_line (AuditRow.isAbout_ofRecord among)).2

/-- Reading the lines of a record gives what they were written from. -/
theorem map_read?_linesOf_text (some_trip : record.tripIndices ≠ [])
    (back : record.DurationsReadBack) :
    (linesOf record.text).map AuditLine.read? = record.told.map some := by
  rw [linesOf_text, ← map_told_ofRecord, List.map_map, List.map_map]
  apply List.map_congr_left
  intro row among
  exact AuditRow.read?_line (AuditRow.isAbout_ofRecord among) some_trip
    (readsBack_of_mem_ofRecord back among)

theorem legible_text (some_trip : record.tripIndices ≠ []) (back : record.DurationsReadBack) :
    record.Legible record.text where
  length_lines := by rw [linesOf_text, List.length_map, AuditRow.length_ofRecord]
  ended := by rw [linesOf_text, ← text_eq]
  unquoted := by
    rw [text_eq, List.mem_flatMap]
    rintro ⟨line, member, mark⟩
    rcases List.mem_map.1 member with ⟨row, among, rfl⟩
    rcases List.mem_append.1 mark with inside | feed
    · exact (AuditRow.harmless_line (AuditRow.isAbout_ofRecord among)).1 inside
    · exact absurd feed (by decide)
  reads place candidate there := by
    have told : record.told[place]? = some (record.toldOf (candidate, place)) := by
      simp [SelectionRecord.told, there]
    have read := congrArg (·[place]?) (map_read?_linesOf_text some_trip back)
    simp only [List.getElem?_map, told, Option.map_some] at read
    rcases Option.map_eq_some_iff.1 read with ⟨line, here, reads⟩
    refine ⟨line, _, here, ?_, reads, tells_toldOf there⟩
    rw [linesOf_text] at here
    rcases List.mem_map.1 (List.mem_of_getElem? here) with ⟨row, among, rfl⟩
    rw [AuditRow.splitOn_line (AuditRow.isAbout_ofRecord among)]
    rfl

theorem map_told {α : Type} {part : AuditLine → α} {of : Candidate → α}
    (tells : ∀ entry, part (record.toldOf entry) = of entry.1) :
    record.told.map part = record.candidates.map of := by
  calc record.told.map part
      = record.candidates.zipIdx.map (of ∘ Prod.fst) := by
        rw [told, List.map_map]
        exact List.map_congr_left fun entry _ => tells entry
    _ = record.candidates.map of := by
        rw [← List.map_map, List.zipIdx_map_fst]

/-- Where the lines tell the same of two records with candidates, the records agree in it. -/
theorem sameReport_of_told {other : SelectionRecord} (some_candidate : record.candidates ≠ [])
    (same : record.told = other.told) : record.SameReport other := by
  have of_candidates {α : Type} (part : AuditLine → α) (of : Candidate → α)
      (tells : ∀ (record : SelectionRecord) entry, part (record.toldOf entry) = of entry.1) :
      record.candidates.map of = other.candidates.map of := by
    rw [← map_told (tells record), same, map_told (tells other)]
  have length : record.candidates.length = other.candidates.length := by
    simpa [told] using congrArg List.length same
  have at_place (place : Nat) (inside : place < record.candidates.length) :
      record.toldOf (record.candidates[place], place) =
        other.toldOf (other.candidates[place], place) := by
    have here := congrArg (·[place]?) same
    simpa [told, inside, length ▸ inside] using here
  have first := at_place 0 (List.length_pos_iff.2 some_candidate)
  exact {
    agent := congrArg AuditLine.agent first
    tripIndices := congrArg AuditLine.tripIndices first
    selection := congrArg AuditLine.selection first
    modes := of_candidates AuditLine.mode Candidate.mode fun _ _ => rfl
    utilities := of_candidates AuditLine.utility _ fun _ _ => rfl
    durations := of_candidates AuditLine.duration Candidate.duration fun _ _ => rfl
    flags := fun place inside => congrArg AuditLine.selected (at_place place inside) }

end SelectionRecord

/-! ## The audit file -/

/-- What an open sink writes of a record can be read: each candidate has a line from which
everything about it comes back, the utility to six places.  So records that are not alike in
all of this are never written alike. -/
theorem Sink.write_legible {δ : Type} {device : Table.Device δ} {seen : δ → String}
    (takes : device.Takes seen) {sink : Sink δ} (rest : sink.buffer = some Table.Buffer.empty)
    {record : SelectionRecord} (some_trip : record.tripIndices ≠ [])
    (back : record.DurationsReadBack) :
    ∃ after text, sink.write device record = (.ok (), ⟨after, some Table.Buffer.empty⟩) ∧
      seen after = seen sink.state ++ String.ofList text ∧ record.Legible text ∧
      ∀ (other : SelectionRecord) (another : Sink δ),
        other.tripIndices ≠ [] → other.DurationsReadBack → other.candidates ≠ [] →
        another.buffer = some Table.Buffer.empty →
        seen (another.write device other).2.state =
          seen another.state ++ String.ofList text → other.SameReport record := by
  rcases Sink.write_eq takes rest record with ⟨after, written, shows⟩
  refine ⟨after, record.text, written, shows, SelectionRecord.legible_text some_trip back, ?_⟩
  intro other another other_trip other_back some_candidate at_rest alike
  rcases Sink.write_eq takes at_rest other with ⟨later, wrote, emitted⟩
  rw [wrote, emitted, String.append_right_inj, String.ofList_inj] at alike
  apply SelectionRecord.sameReport_of_told some_candidate
  apply List.map_injective_iff.2 (Option.some_injective _)
  rw [← SelectionRecord.map_read?_linesOf_text other_trip other_back, alike,
    SelectionRecord.map_read?_linesOf_text some_trip back]

/-- Two trips, a walk that was kept and a car that could not be used. -/
theorem Sink.write_two_trips_legible :
    let record : SelectionRecord :=
      { agent := ⟨7⟩
        tripIndices := [2, 5]
        selection := ⟨1⟩
        candidates := [Candidate.make .walk (-1.5) 600.25, Candidate.infeasible .car]
        selected := .at 0 }
    ∃ text, record.Legible text ∧
      Sink.write Table.Device.keeping ⟨"", some Table.Buffer.empty⟩ record =
        (.ok (), ⟨String.ofList text, some Table.Buffer.empty⟩) ∧
      String.ofList text =
        "7;2,5;1;walk;-1.500000;600.25;true\n7;2,5;1;car;-inf;0;false\n" := by
  intro record
  have back : record.DurationsReadBack := by
    show ∀ candidate ∈ record.candidates, Number.ReadsBack candidate.duration
    decide +kernel
  have some_trip : record.tripIndices ≠ [] := by decide
  have rest : (Sink.mk "" (some Table.Buffer.empty)).buffer = some Table.Buffer.empty := rfl
  rcases Sink.write_legible Table.Device.takes_keeping rest some_trip back with
    ⟨after, text, written, shows, legible, _⟩
  have shown : after = String.ofList text := by simpa using shows
  have exactly : (Sink.write Table.Device.keeping ⟨"", some Table.Buffer.empty⟩ record).2.state =
      "7;2,5;1;walk;-1.500000;600.25;true\n7;2,5;1;car;-inf;0;false\n" := by
    decide +kernel
  subst shown
  rw [written] at exactly
  exact ⟨text, legible, written, exactly⟩

end ModeChoice
