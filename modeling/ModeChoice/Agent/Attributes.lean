import ModeChoice.Agent.Attribute

/-!
# Attributes of a traveller

Named attribute values, each name once, in the order of their names by code
point.  Setting a name again replaces its value.
-/

namespace ModeChoice

/-- An entry of an attribute map. -/
abbrev AttributeEntry := String × AttributeValue

/-- The entries with a value set for a name. -/
def setEntry (name : String) (value : AttributeValue) :
    List AttributeEntry → List AttributeEntry
  | [] => [(name, value)]
  | entry :: rest =>
      if name = entry.1 then (name, value) :: rest
      else if name < entry.1 then (name, value) :: entry :: rest
      else entry :: setEntry name value rest

/-- The value that entries hold for a name. -/
def lookupEntry (name : String) : List AttributeEntry → Option AttributeValue
  | [] => none
  | entry :: rest => if name = entry.1 then some entry.2 else lookupEntry name rest

/-- The entries stand in the order of their names, none twice. -/
def OrderedEntries (entries : List AttributeEntry) : Prop :=
  entries.Pairwise fun earlier later => earlier.1 < later.1

theorem fst_mem_setEntry {name : String} {value : AttributeValue} {entries : List AttributeEntry}
    {entry : AttributeEntry} (member : entry ∈ setEntry name value entries) :
    entry.1 = name ∨ entry ∈ entries := by
  induction entries with
  | nil => simp_all [setEntry]
  | cons head rest ih =>
      simp only [setEntry] at member
      split at member
      · rcases List.mem_cons.1 member with rfl | member
        · exact .inl rfl
        · exact .inr (List.mem_cons_of_mem _ member)
      · split at member
        · rcases List.mem_cons.1 member with rfl | member
          · exact .inl rfl
          · exact .inr member
        · rcases List.mem_cons.1 member with rfl | member
          · exact .inr (List.mem_cons_self ..)
          · exact (ih member).imp_right (List.mem_cons_of_mem _)

theorem OrderedEntries.setEntry {name : String} {value : AttributeValue}
    {entries : List AttributeEntry} (ordered : OrderedEntries entries) :
    OrderedEntries (setEntry name value entries) := by
  induction entries with
  | nil => simp [ModeChoice.setEntry, OrderedEntries]
  | cons head rest ih =>
      have ⟨below, tail⟩ := List.pairwise_cons.1 ordered
      simp only [ModeChoice.setEntry]
      split
      · rename_i same
        exact List.pairwise_cons.2 ⟨fun entry member => same ▸ below entry member, tail⟩
      · split
        · rename_i _ less
          refine List.pairwise_cons.2 ⟨fun entry member => ?_, ordered⟩
          rcases List.mem_cons.1 member with rfl | member
          · exact less
          · exact String.lt_trans less (below entry member)
        · rename_i different notLess
          refine List.pairwise_cons.2 ⟨fun entry member => ?_, ih tail⟩
          rcases fst_mem_setEntry member with same | member
          · rw [same]
            exact Decidable.byContradiction fun notGreater =>
              different (String.le_antisymm notGreater notLess)
          · exact below entry member

/-- The named attributes of one traveller. -/
structure Attributes where
  entries : List AttributeEntry
  ordered : OrderedEntries entries
  deriving DecidableEq

namespace Attributes

/-- No attributes. -/
def empty : Attributes := ⟨[], .nil⟩

instance : Inhabited Attributes := ⟨empty⟩

/-- The attributes with a value set for a name. -/
def set (attributes : Attributes) (name : String) (value : AttributeValue) : Attributes :=
  ⟨setEntry name value attributes.entries, attributes.ordered.setEntry⟩

/-- The attributes of a list of names and values; later values win. -/
def ofList (entries : List AttributeEntry) : Attributes :=
  entries.foldl (fun attributes entry => attributes.set entry.1 entry.2) empty

/-- The value of a name. -/
def get? (attributes : Attributes) (name : String) : Option AttributeValue :=
  lookupEntry name attributes.entries

/-- Whether the name has a value. -/
def contains (attributes : Attributes) (name : String) : Bool :=
  (attributes.get? name).isSome

/-- The value of a name as a truth value. -/
def flag? (attributes : Attributes) (name : String) : Option Bool :=
  (attributes.get? name).bind AttributeValue.asFlag?

/-- The value of a name as a whole number. -/
def whole? (attributes : Attributes) (name : String) : Option Int64 :=
  (attributes.get? name).bind AttributeValue.asWhole?

/-- The value of a name as a number with places. -/
def real? (attributes : Attributes) (name : String) : Option Float :=
  (attributes.get? name).bind AttributeValue.asReal?

/-- The text of a name whose value is a text. -/
def text? (attributes : Attributes) (name : String) : Option String :=
  (attributes.get? name).bind AttributeValue.asText?

/-- How many names have a value. -/
def size (attributes : Attributes) : Nat :=
  attributes.entries.length

/-- Whether no name has a value. -/
def isEmpty (attributes : Attributes) : Bool :=
  attributes.entries.isEmpty

/-- The names and values in the order of the names. -/
def toList (attributes : Attributes) : List AttributeEntry :=
  attributes.entries

theorem lookupEntry_setEntry (name other : String) (value : AttributeValue)
    (entries : List AttributeEntry) :
    lookupEntry other (setEntry name value entries) =
      if other = name then some value else lookupEntry other entries := by
  induction entries with
  | nil => simp [setEntry, lookupEntry]
  | cons head rest ih =>
      simp only [setEntry]
      split
      · rename_i same
        subst same
        simp only [lookupEntry]
        split <;> simp_all
      · rename_i different
        split
        · simp [lookupEntry]
        · simp only [lookupEntry, ih]
          by_cases same : other = head.1
          · have : ¬ other = name := fun equal => different (equal ▸ same)
            simp [same, Ne.symm different]
          · simp [same]

@[simp]
theorem get?_set (attributes : Attributes) (name other : String) (value : AttributeValue) :
    (attributes.set name value).get? other =
      if other = name then some value else attributes.get? other :=
  lookupEntry_setEntry name other value attributes.entries

@[simp]
theorem get?_empty (name : String) : empty.get? name = none := rfl

end Attributes

end ModeChoice
