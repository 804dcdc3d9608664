import ModeChoice.Mode

/-!
# Sets of modes

`TourModes` holds the modes that one traveller has for a whole tour: at least
one, none twice, in the order they were supplied.  Every trip works on an
`OpenModes` of its own, taken fresh from the tour's modes, from which modes
can only be taken out; what one trip rejects is open again for the next.
-/

namespace ModeChoice

/-- The list with the first occurrence of every mode kept. -/
def distinct : List Mode → List Mode
  | [] => []
  | mode :: rest => mode :: (distinct rest).filter (· != mode)

@[simp]
theorem mem_distinct {mode : Mode} {modes : List Mode} :
    mode ∈ distinct modes ↔ mode ∈ modes := by
  induction modes with
  | nil => simp [distinct]
  | cons head rest ih =>
      by_cases same : mode = head <;> simp [distinct, ih, same]

theorem nodup_distinct (modes : List Mode) : (distinct modes).Nodup := by
  induction modes with
  | nil => simp [distinct]
  | cons head rest ih =>
      simp only [distinct, List.nodup_cons, List.mem_filter, bne_self_eq_false, and_false,
        not_false_eq_true, true_and, Bool.false_eq_true]
      exact ih.filter _

theorem distinct_eq_nil_iff {modes : List Mode} : distinct modes = [] ↔ modes = [] := by
  cases modes <;> simp [distinct]

/-- The modes open to one traveller for one tour. -/
structure TourModes where
  modes : List Mode
  nodup : modes.Nodup
  nonempty : modes ≠ []
  deriving DecidableEq

/-- The modes still open for one trip. -/
structure OpenModes where
  modes : List Mode
  nodup : modes.Nodup
  deriving DecidableEq

namespace TourModes

/-- The modes of a list, each once and in the order of first mention; nothing
makes no set. -/
def ofList (modes : List Mode) : Except ModeError TourModes :=
  if empty : distinct modes = [] then .error .emptySet
  else .ok ⟨distinct modes, nodup_distinct modes, empty⟩

/-- A fresh copy for one trip. -/
def candidates (tour : TourModes) : OpenModes :=
  ⟨tour.modes, tour.nodup⟩

/-- Whether the tour has this mode. -/
def contains (tour : TourModes) (mode : Mode) : Bool :=
  tour.modes.contains mode

/-- How many modes the tour has. -/
def size (tour : TourModes) : Nat :=
  tour.modes.length

/-- A tour's set is never empty. -/
def isEmpty (tour : TourModes) : Bool :=
  tour.modes.isEmpty

/-- The modes in the order they were supplied. -/
def toList (tour : TourModes) : List Mode :=
  tour.modes

@[simp]
theorem toList_candidates (tour : TourModes) : tour.candidates.modes = tour.modes := rfl

theorem ofList_eq_ok_iff {modes : List Mode} {tour : TourModes} :
    ofList modes = .ok tour ↔ tour.modes = distinct modes := by
  unfold ofList
  split
  · rename_i empty
    simp only [reduceCtorEq, false_iff]
    intro same
    exact tour.nonempty (same.trans empty)
  · cases tour
    simp [eq_comm]

theorem ofList_eq_error_iff {modes : List Mode} {error : ModeError} :
    ofList modes = .error error ↔ modes = [] ∧ error = .emptySet := by
  unfold ofList
  split
  · rename_i empty
    simp [distinct_eq_nil_iff.1 empty, eq_comm]
  · rename_i filled
    simp [mt distinct_eq_nil_iff.2 filled]

end TourModes

namespace OpenModes

/-- The set with only the modes that `keep` accepts. -/
def retain (keep : Mode → Bool) (set : OpenModes) : OpenModes :=
  ⟨set.modes.filter keep, set.nodup.filter keep⟩

/-- The set without one mode. -/
def without (set : OpenModes) (mode : Mode) : OpenModes :=
  set.retain (· != mode)

/-- Takes one mode out and tells whether the set became smaller by it. -/
def remove (set : OpenModes) (mode : Mode) : Bool × OpenModes :=
  let rest := set.without mode
  (rest.modes.length != set.modes.length, rest)

/-- Whether the mode is still open. -/
def contains (set : OpenModes) (mode : Mode) : Bool :=
  set.modes.contains mode

/-- How many modes are still open. -/
def size (set : OpenModes) : Nat :=
  set.modes.length

/-- Whether no mode is open any more. -/
def isEmpty (set : OpenModes) : Bool :=
  set.modes.isEmpty

/-- The earliest mode that is still open. -/
def first? (set : OpenModes) : Option Mode :=
  set.modes.head?

/-- The open modes in the order of the tour. -/
def toList (set : OpenModes) : List Mode :=
  set.modes

@[simp]
theorem modes_without (set : OpenModes) (mode : Mode) :
    (set.without mode).modes = set.modes.filter (· != mode) := rfl

@[simp]
theorem contains_iff {set : OpenModes} {mode : Mode} :
    set.contains mode = true ↔ mode ∈ set.modes := by
  simp [contains]

@[simp]
theorem isEmpty_iff {set : OpenModes} : set.isEmpty = true ↔ set.modes = [] := by
  simp [isEmpty]

theorem size_retain_le (keep : Mode → Bool) (set : OpenModes) :
    (set.retain keep).size ≤ set.size :=
  List.length_filter_le _ _

theorem size_without_lt {set : OpenModes} {mode : Mode} (present : mode ∈ set.modes) :
    (set.without mode).size < set.size :=
  List.length_filter_lt_length_iff_exists.2 ⟨mode, present, by simp⟩

end OpenModes

end ModeChoice
