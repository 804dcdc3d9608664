import ModeChoice.Document.Basic

/-!
# Tables in the making

The tables of a TOML text are filled line by line.  A table comes into being
once: by a header of its own, or by a dotted name in front of a value.  A header
may also name a table that is deeper than any table so far; the tables in
between are then implied, and each of them may still get a header of its own,
but only one.  Names are never given twice, and a value that is complete takes
no more members.

A header in double brackets adds a table to a list of tables, and whoever goes
through that list goes to its last table.
-/

namespace ModeChoice.Toml

/-- How a table came into being. -/
inductive Origin where
  /-- By a header of its own. -/
  | header
  /-- By the header of a table inside it. -/
  | implied
  /-- By a dotted name. -/
  | dotted
  deriving DecidableEq

/-- What stands under a name. -/
inductive Node where
  /-- A complete value. -/
  | value (document : Document)
  | table (origin : Origin) (members : List (String × Node))
  /-- A list of tables: the members of the last one, and the earlier ones with
  the newest first. -/
  | tables (last : List (String × Node)) (earlier : List Node)

/-- Named nodes, in the order in which they came. -/
abbrev Members := List (String × Node)

namespace Members

/-- What stands under a name. -/
def find? (members : Members) (name : String) : Option Node :=
  (List.find? (fun member => member.1 == name) members).map Prod.snd

/-- The members with a node under a name, in the place of the old one. -/
def put (members : Members) (name : String) (node : Node) : Members :=
  match members with
  | [] => [(name, node)]
  | member :: rest =>
      if member.1 == name then (name, node) :: rest else member :: put rest name node

/-- The members with a value under a dotted name. -/
def assign (members : Members) : List String → Document → Option Members
  | [], _ => none
  | [name], value =>
      match members.find? name with
      | none => some (members.put name (.value value))
      | some _ => none
  | name :: next :: rest, value =>
      match members.find? name with
      | none => (assign [] (next :: rest) value).map fun inner =>
          members.put name (.table .dotted inner)
      | some (.table origin inner) =>
          if origin = .header || (rest.isEmpty && origin != .dotted) then none
          else (assign inner (next :: rest) value).map fun inner =>
            members.put name (.table origin inner)
      | some (.tables last earlier) =>
          if rest.isEmpty then none
          else (assign last (next :: rest) value).map fun last =>
            members.put name (.tables last earlier)
      | some (.value _) => none

/-- The members with a change made inside the table of a header. -/
def within (members : Members) : List String → (Members → Option Members) → Option Members
  | [], change => change members
  | name :: rest, change =>
      match members.find? name with
      | none => (within [] rest change).map fun inner => members.put name (.table .implied inner)
      | some (.table origin inner) => (within inner rest change).map fun inner =>
          members.put name (.table origin inner)
      | some (.tables last earlier) => (within last rest change).map fun last =>
          members.put name (.tables last earlier)
      | some (.value _) => none

/-- The members with a table begun by its header. -/
def beginTable (name : String) (members : Members) : Option Members :=
  match members.find? name with
  | none => some (members.put name (.table .header []))
  | some (.table .implied inner) => some (members.put name (.table .header inner))
  | some _ => none

/-- The members with one more table begun in a list of tables. -/
def beginElement (name : String) (members : Members) : Option Members :=
  match members.find? name with
  | none => some (members.put name (.tables [] []))
  | some (.tables last earlier) =>
      some (members.put name (.tables [] (.table .header last :: earlier)))
  | some _ => none

end Members

mutual

/-- The value of a node. -/
def Node.document : Node → Document
  | .value document => document
  | .table _ members => .table (memberDocuments members)
  | .tables last earlier =>
      .list ((documents earlier).reverse ++ [.table (memberDocuments last)])

/-- The values of members. -/
def memberDocuments : List (String × Node) → List (String × Document)
  | [] => []
  | (name, node) :: rest => (name, node.document) :: memberDocuments rest

/-- The values of nodes. -/
def documents : List Node → List Document
  | [] => []
  | node :: rest => node.document :: documents rest

end

/-- The table of complete members. -/
def Members.document (members : Members) : Document :=
  .table (memberDocuments members)

end ModeChoice.Toml
