import TableState.Store.Table

/-!
# State store provider

The provider builds a table's state store on the first request for its name and keeps it: every
later request for that name gets the kept store, whatever properties it passes. A request whose
build fails keeps nothing.

Building checks the properties, and for the snapshot backend reads the snapshot location; a
location that does not parse is a configuration error. A new store starts with empty item tables
or no revision pointers. The tables of distinct names never share state.

Main definitions:

* `Provider`, `Provider.build`, `Provider.stateStore`.
* `Provider.treeName`: the database trees of a table.
-/

set_option autoImplicit false

namespace TableState

/-- The roles of the trees that a provider opens for a table in its one database. -/
inductive TreeRole where
  | partitions
  | files
  | revisions
  deriving DecidableEq, Repr

/-- The kept state stores, in the order their tables were first requested, and the number of
attempts a snapshot update makes. -/
structure Provider where
  tables : List TableStore
  maxAttempts : Nat

namespace Provider

/-- The database tree of a table's role: the item backend keeps its partitions and its files in
the first two, the snapshot backend its revision pointers in the third. Each `TableStore` holds
the item tables of its own trees. -/
def treeName (table : String) : TreeRole → String
  | .partitions => table ++ "-partitions"
  | .files => table ++ "-files"
  | .revisions => table ++ "-revisions"

/-- A provider without stores, making `maxAttempts` attempts per snapshot update. -/
def empty (maxAttempts : Nat) : Provider := ⟨[], maxAttempts⟩

/-- The number of kept stores. -/
def size (p : Provider) : Nat :=
  p.tables.length

/-- The kept store of a table. -/
def find? (p : Provider) (name : String) : Option TableStore :=
  p.tables.find? (·.name == name)

/-- Builds a new state store from valid properties. -/
def build (p : Provider) (props : TableProperties) : Except Error TableStore := do
  props.validate
  let backend ← match props.backend, props.snapshotUrl with
    | .items, _ => pure (.items ItemStore.empty)
    | .snapshot, none => throw (.missingField "snapshot_url")
    | .snapshot, some text =>
      match UrlLibrary.standard.ofText text with
      | .ok base => pure (.snapshot (SnapshotTable.ofBase .standard base p.maxAttempts) .empty)
      | .error _ => throw .invalidConfig
  pure (TableStore.build props.tableName props.schema props.scanPageSize props.gcDelayMillis backend)

/-- The state store of a table: the kept one, or a new one that is then kept. -/
def stateStore (p : Provider) (props : TableProperties) : Except Error (TableStore × Provider) :=
  match p.find? props.tableName with
  | some t => .ok (t, p)
  | none => (p.build props).map fun t => (t, { p with tables := p.tables ++ [t] })

/-- The provider with the kept store of a table replaced. -/
def replace (p : Provider) (t : TableStore) : Provider :=
  { p with tables := p.tables.map fun u => if u.name == t.name then t else u }

end Provider

end TableState
