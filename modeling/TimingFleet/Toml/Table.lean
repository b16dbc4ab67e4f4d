import TimingFleet.Toml.Value

/-!
# Tables under construction

Entries are put into tables one after the other, and what may follow what depends on how a table came
about.  A table with a header of its own, or in braces, is complete in itself: no header may name it
again and no dotted key may add to it.  A table that only lies on the way of a longer header may get a
header later.  A table that lies on the way of a dotted key may be added to by dotted keys alone.
-/

namespace TimingFleet.Toml

/-- How a table came about. -/
inductive Origin where
  /-- By a header of its own, as a row, or in braces. -/
  | own
  /-- On the way of a longer header. -/
  | passed
  /-- On the way of a dotted key. -/
  | dotted
  deriving DecidableEq, Repr

/-- An entry of a table under construction. -/
inductive Node where
  /-- A finished value. -/
  | leaf (value : Value)
  | table (origin : Origin) (entries : List (String × Node))
  /-- An array of tables with headers; the last one is under construction. -/
  | rows (rows : List (List (String × Node)))

/-- The entries of a table under construction. -/
abbrev Entries := List (String × Node)

namespace Entries

/-- Changes the entry of a key, or adds one. -/
def alter (key : String) (f : Option Node → Option Node) : Entries → Option Entries
  | [] => (f none).map fun node => [(key, node)]
  | (k, node) :: rest =>
    if k = key then (f (some node)).map fun node => (k, node) :: rest
    else (alter key f rest).map ((k, node) :: ·)

/-- Changes the last row. -/
def alterLast (f : Entries → Option Entries) : List Entries → Option (List Entries)
  | [] => none
  | [row] => (f row).map ([·])
  | row :: rest => (alterLast f rest).map (row :: ·)

/-- Changes the table at the end of a path.  Tables that are missing on the way get the origin `way`,
and an array of tables leads to its last row.  A dotted key does not enter a table with an origin of
its own. -/
def reach (way : Origin) (f : Origin → Entries → Option Entries) :
    List String → Origin → Entries → Option Entries
  | [], origin, entries => f origin entries
  | key :: path, _, entries =>
    alter key (fun
      | none => (reach way f path way []).map (.table way)
      | some (.leaf _) => none
      | some (.rows rows) => (alterLast (reach way f path .own) rows).map .rows
      | some (.table origin inner) =>
        if way = .dotted ∧ origin = .own then none
        else (reach way f path origin inner).map (.table origin)) entries

/-- Adds a new entry. -/
def add (key : String) (node : Node) : Entries → Option Entries :=
  alter key fun
    | none => some node
    | some _ => none

/-- Puts a value under a key, which may be dotted.  The table at the end of a dotted key must have come
about by dotted keys. -/
def put (key : List String) (value : Value) : Entries → Option Entries :=
  match key.getLast? with
  | none => fun _ => none
  | some last =>
    let path := key.dropLast
    reach .dotted (fun origin entries =>
      if path ≠ [] ∧ origin ≠ .dotted then none else add last (.leaf value) entries) path .own

/-- Gives the table at `path` a header of its own. -/
def openTable (path : List String) : Entries → Option Entries :=
  match path.getLast? with
  | none => fun _ => none
  | some last =>
    reach .passed (fun _ => alter last fun
      | none => some (.table .own [])
      | some (.table .passed entries) => some (.table .own entries)
      | some _ => none) path.dropLast .own

/-- Adds a row to the array of tables at `path`. -/
def openRow (path : List String) : Entries → Option Entries :=
  match path.getLast? with
  | none => fun _ => none
  | some last =>
    reach .passed (fun _ => alter last fun
      | none => some (.rows [[]])
      | some (.rows rows) => some (.rows (rows ++ [[]]))
      | some _ => none) path.dropLast .own

end Entries

mutual

/-- The finished value. -/
def Node.value : Node → Value
  | .leaf value => value
  | .table _ entries => .table (Entries.values entries)
  | .rows rows => .array (rowValues rows)

/-- The finished entries. -/
def Entries.values : List (String × Node) → List (String × Value)
  | [] => []
  | (key, node) :: rest => (key, node.value) :: Entries.values rest

/-- The finished rows. -/
def rowValues : List (List (String × Node)) → List Value
  | [] => []
  | row :: rest => .table (Entries.values row) :: rowValues rest

end

end TimingFleet.Toml
