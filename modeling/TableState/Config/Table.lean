import TableState.Schema

/-!
# Table properties

The properties of a table that its state depends on: its name, its schema, which backend holds
its state, where the snapshot backend keeps its snapshots, how long a file waits between being
marked for garbage collection and being ready for it, and how many items a scan reads per page.

Properties are valid when the name is not empty, the page size is positive, and the snapshot
backend has a snapshot location.

Main definitions:

* `BackendKind`: the item backend or the snapshot backend.
* `TableProperties`, `TableProperties.new`, `TableProperties.validate`.
-/

set_option autoImplicit false

namespace TableState

/-- Which backend holds a table's state. -/
inductive BackendKind where
  /-- One item per partition and per file record. -/
  | items
  /-- Whole-table snapshots swapped in through a revision pointer. -/
  | snapshot
  deriving DecidableEq, Repr, Inhabited

namespace BackendKind

/-- The configuration name of a backend. -/
def name : BackendKind → String
  | items => "items"
  | snapshot => "snapshot"

/-- The backend of a configuration name. -/
def ofName? : String → Option BackendKind
  | "items" => some items
  | "snapshot" => some snapshot
  | _ => none

end BackendKind

/-- The properties of a table. The garbage-collection delay is in minutes and fits 32 bits. -/
structure TableProperties where
  tableName : String
  schema : Schema
  backend : BackendKind
  snapshotUrl : Option String
  gcDelayMinutes : Nat
  consistentReads : Bool
  scanPageSize : Nat

namespace TableProperties

/-- The properties of a table with every optional property at its default: the item backend, no
snapshot location, a delay of 10 minutes, consistent reads and pages of 100 items. -/
def new (tableName : String) (schema : Schema) : TableProperties :=
  ⟨tableName, schema, .items, none, 10, true, 100⟩

/-- Checks that the properties can describe a table. -/
def validate (p : TableProperties) : Except Error Unit := do
  if p.tableName.isEmpty then throw (.missingField "table_name")
  if p.scanPageSize = 0 then throw .invalidConfig
  if p.backend = .snapshot && p.snapshotUrl.isNone then throw (.missingField "snapshot_url")

/-- The garbage-collection delay in milliseconds. -/
def gcDelayMillis (p : TableProperties) : Int :=
  p.gcDelayMinutes * 60000

end TableProperties

end TableState
