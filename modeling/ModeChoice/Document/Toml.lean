import ModeChoice.Document.Toml.Value

/-!
# TOML

The text is read statement by statement: empty lines and comments, headers, and
names with their values, each on a line of its own.  A byte order mark in front
is passed over.
-/

namespace ModeChoice.Toml

/-- A statement. -/
inductive Statement where
  /-- A table from here on. -/
  | table (path : List String)
  /-- One more table of a list from here on. -/
  | element (path : List String)
  /-- A value under a name. -/
  | pair (path : List String) (value : Document)

/-- What is left behind a closing bracket. -/
def afterBracket? (input : List Char) : Option (Rest input) :=
  match input with
  | ']' :: rest => some (.tail ']' rest)
  | _ => none

/-- The path of a table's header after its opening bracket. -/
def tableHeader? : Reader Statement := fun input => do
  let (path, rest) ← path? input
  let after ← afterBracket? rest.left
  return (.table path, ⟨after.left, Nat.lt_of_le_of_lt after.le rest.lt⟩)

/-- The path of an element's header after its opening brackets. -/
def elementHeader? : Reader Statement := fun input => do
  let (path, rest) ← path? input
  let inner ← afterBracket? rest.left
  let after ← afterBracket? inner.left
  return (.element path,
    ⟨after.left, Nat.lt_of_le_of_lt (Nat.le_trans after.le inner.le) rest.lt⟩)

/-- A statement. -/
def statement? : Reader Statement
  | '[' :: '[' :: rest =>
      (elementHeader? rest).map fun (read, after) => (read, (after.behind '[').behind '[')
  | '[' :: rest => (tableHeader? rest).map fun (read, after) => (read, after.behind '[')
  | input =>
      (pair? (value? deepest) input).map fun ((path, value), after) => (.pair path value, after)

/-- The statements of a text. -/
def statements? (input : List Char) : Option (List Statement) :=
  if (skipLines.run input).isEmpty then some []
  else
    match statement? (skipLines.run input) with
    | none => none
    | some (statement, after) =>
        match restOfLine? after.left with
        | none => none
        | some next =>
            have : next.left.length < input.length :=
              Nat.lt_of_le_of_lt next.le (Nat.lt_of_lt_of_le after.lt (skipLines.le input))
            (statements? next.left).map (statement :: ·)
termination_by input.length

/-- The table so far, and the path of the header that holds. -/
structure Draft where
  members : Members
  header : List String

/-- The draft after a statement. -/
def Draft.step (draft : Draft) : Statement → Option Draft
  | .table path =>
      (draft.members.within path.dropLast (Members.beginTable (path.getLastD ""))).map
        fun members => ⟨members, path⟩
  | .element path =>
      (draft.members.within path.dropLast (Members.beginElement (path.getLastD ""))).map
        fun members => ⟨members, path⟩
  | .pair path value =>
      (draft.members.within draft.header fun inner => inner.assign path value).map
        fun members => { draft with members }

/-- The text without a byte order mark. -/
def withoutMark : List Char → List Char
  | '\ufeff' :: rest => rest
  | input => input

/-- The table that a text of this notation says. -/
def read? (text : String) : Option Document := do
  let statements ← statements? (withoutMark text.toList)
  let draft ← statements.foldlM Draft.step ⟨[], []⟩
  return draft.members.document

end ModeChoice.Toml
