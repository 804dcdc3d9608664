import ModeChoice.Text.Blank
import ModeChoice.Text.Lowercase
import ModeChoice.Text.Quoted

/-!
# Transport modes

The means by which a trip can be made, their labels in files, prompts and
audit rows, and the strict reader of a label: white space around the label and
the case of ASCII letters do not matter, and nothing else is forgiven.
-/

namespace ModeChoice

/-- The means by which a traveller makes one trip. -/
inductive Mode where
  /-- A private car, with the traveller at the wheel. -/
  | car
  /-- A private car driven by someone else. -/
  | carPassenger
  /-- Scheduled public transport. -/
  | publicTransport
  | bike
  | walk
  deriving DecidableEq, Repr, Inhabited

/-- What can go wrong with modes and sets of modes. -/
inductive ModeError where
  | emptySet
  | unknown (text : String)
  deriving DecidableEq, Repr

/-- The wording of an error about modes. -/
def ModeError.message : ModeError → String
  | .emptySet => "mode set is empty"
  | .unknown text => "unknown transport mode " ++ Text.quoted text

namespace Mode

/-- Every mode, in canonical order. -/
def all : List Mode :=
  [.car, .carPassenger, .publicTransport, .bike, .walk]

/-- The label of a mode in files, prompts and audit rows. -/
def label : Mode → String
  | .car => "car"
  | .carPassenger => "car_passenger"
  | .publicTransport => "pt"
  | .bike => "bike"
  | .walk => "walk"

/-- The name of a mode in lists of modes that go to the log. -/
def title : Mode → String
  | .car => "Car"
  | .carPassenger => "CarPassenger"
  | .publicTransport => "Pt"
  | .bike => "Bike"
  | .walk => "Walk"

/-- A mode that needs a vehicle of the traveller's own, which must be picked
up where it was left. -/
def isPrivateVehicle : Mode → Bool
  | .car | .bike => true
  | .carPassenger | .publicTransport | .walk => false

/-- The mode with exactly this label. -/
def ofLabel? (text : String) : Option Mode :=
  all.find? fun mode => mode.label == text

/-- The mode whose label is the text without outer white space, up to the case
of ASCII letters. -/
def parse (text : String) : Except ModeError Mode :=
  match ofLabel? (Text.lowercaseAscii (Text.trim text)) with
  | some mode => .ok mode
  | none => .error (.unknown text)

@[simp]
theorem mem_all (mode : Mode) : mode ∈ all := by
  cases mode <;> decide

@[simp]
theorem ofLabel?_label (mode : Mode) : ofLabel? mode.label = some mode := by
  cases mode <;> decide

theorem label_of_ofLabel? {text : String} {mode : Mode} (found : ofLabel? text = some mode) :
    mode.label = text := by
  simpa using List.find?_some found

theorem label_injective {first second : Mode} (same : first.label = second.label) :
    first = second := by
  simpa [same] using (ofLabel?_label first).symm

end Mode

end ModeChoice
