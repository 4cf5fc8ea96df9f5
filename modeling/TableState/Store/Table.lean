import TableState.Store.Items
import TableState.Store.SnapshotTable
import TableState.Config.Table

/-!
# The state of a table

A table's state store: its name, its schema, its settings, and the state of its backend. Every
operation goes to the backend that holds the table's state; both backends offer the same
operations with the same errors, and differ in the order they list records in.

A change returns the table state and object stores it leaves, with its result. Initialising a
table initialises its partitions and then its files, as two changes: when the second fails, the
first stays.

Main definitions:

* `TableBackend`, `TableStore`.
* `TableChange`, `TableStore.change`: the changes.
* `TableStore.allPartitions`, `TableStore.fileInPartitionRecords`,
  `TableStore.lifecycleRecords`, `TableStore.readyForGc`, `TableStore.partitionMap`: the reads.
-/

set_option autoImplicit false

namespace TableState

/-- The backend of a table with its state: the item tables, or the snapshot series with the
table's revision pointers. -/
inductive TableBackend where
  | items (s : ItemStore)
  | snapshot (t : SnapshotTable) (pointers : ItemTable)

/-- A table's state store. -/
structure TableStore where
  name : String
  schema : Schema
  pageSize : Nat
  gcDelayMillis : Int
  backend : TableBackend

/-- A change to a table's state. -/
inductive TableChange where
  /-- A root partition covering the whole key space, then the file records. -/
  | initialise
  /-- A given partition tree, then the file records. -/
  | initialiseWith (ps : List Partition)
  /-- The file records only. -/
  | initialiseFiles
  /-- A split of a leaf into two children. -/
  | split (parent c1 c2 : Partition)
  /-- New files, recorded at the current time. -/
  | addFiles (fs : List FileRecord)
  /-- Old file-in-partition records replaced by new files. -/
  | replaceFiles (old new : List FileRecord)
  /-- A job assigned to file-in-partition records. -/
  | assignJob (job : String) (fs : List FileRecord)
  /-- Unreferenced active files marked as pending garbage collection. -/
  | markGcPending
  /-- Lifecycle records pending garbage collection deleted. -/
  | deleteLifecycle (names : List String)

namespace TableStore

/-- The id of the root partition written by initialisation. -/
def rootId : String := "root"

/-- The state of a new table whose backend starts empty. -/
def build (name : String) (schema : Schema) (pageSize : Nat) (gcDelayMillis : Int)
    (backend : TableBackend) : TableStore :=
  ⟨name, schema, pageSize, gcDelayMillis, backend⟩

/-- Every partition, in the backend's order: by id for items, in snapshot order for snapshots. -/
def allPartitions (t : TableStore) (o : ObjectStores) : Except Error (List Partition) :=
  match t.backend with
  | .items s => s.allPartitions t.pageSize
  | .snapshot sn p => sn.partitions.records ⟨p, o⟩

/-- The leaf partitions, in the backend's order. -/
def leafPartitions (t : TableStore) (o : ObjectStores) : Except Error (List Partition) :=
  (t.allPartitions o).map (·.filter (·.isLeaf))

/-- Every file-in-partition record, in the backend's order. -/
def fileInPartitionRecords (t : TableStore) (o : ObjectStores) : Except Error (List FileRecord) :=
  match t.backend with
  | .items s => s.fileInPartitionRecords t.pageSize
  | .snapshot sn p => (sn.files.records ⟨p, o⟩).map (·.filter (!·.isLifecycle))

/-- Every lifecycle record, in the backend's order. -/
def lifecycleRecords (t : TableStore) (o : ObjectStores) : Except Error (List FileRecord) :=
  match t.backend with
  | .items s => s.lifecycleRecords t.pageSize
  | .snapshot sn p => (sn.files.records ⟨p, o⟩).map (·.filter (·.isLifecycle))

/-- The file-in-partition records without a job. -/
def unassignedRecords (t : TableStore) (o : ObjectStores) : Except Error (List FileRecord) :=
  (t.fileInPartitionRecords o).map (·.filter (·.jobId.isNone))

/-- The active lifecycle records. -/
def activeRecords (t : TableStore) (o : ObjectStores) : Except Error (List FileRecord) :=
  (t.lifecycleRecords o).map (·.filter (·.status == .active))

/-- Whether a lifecycle record has been pending garbage collection since before `cutoff`. -/
def pendingBefore (cutoff : Int) (f : FileRecord) : Bool :=
  f.status == .gcPending && match f.lastUpdateTime with
    | some time => decide (time < cutoff)
    | none => false

/-- The lifecycle records pending garbage collection for longer than the delay, at `now`. -/
def readyForGc (t : TableStore) (o : ObjectStores) (now : Int) : Except Error (List FileRecord) :=
  (t.lifecycleRecords o).map (·.filter (pendingBefore (now - t.gcDelayMillis)))

/-- Adds a filename to the group of a partition id, keeping groups in first-seen order. -/
def addToGroup (pid filename : String) : List (String × List String) → List (String × List String)
  | [] => [(pid, [filename])]
  | (q, names) :: rest =>
    if q = pid then (q, names ++ [filename]) :: rest else (q, names) :: addToGroup pid filename rest

/-- The filenames of the file-in-partition records of each partition id, in listing order. -/
def partitionMap (t : TableStore) (o : ObjectStores) :
    Except Error (List (String × List String)) :=
  (t.fileInPartitionRecords o).map fun fs =>
    fs.foldl (fun m f => addToGroup f.partitionId f.filename m) []

/-- Applies a change that is not an initialisation of both parts, returning the table state and
object stores it leaves with its result. -/
def changePart (t : TableStore) (o : ObjectStores) (now : Int) (c : TableChange) :
    (TableStore × ObjectStores) × Except Error Unit :=
  match t.backend with
  | .items s =>
    let done := fun (r : ItemStore × Except Error Unit) => (({ t with backend := .items r.1 }, o), r.2)
    match c with
    | .initialise => done (s.initialisePartitions [Partition.root rootId t.schema])
    | .initialiseWith ps => done (s.initialisePartitions ps)
    | .initialiseFiles => ((t, o), .ok ())
    | .split parent c1 c2 => done (s.split parent c1 c2)
    | .addFiles fs => done (s.addFiles now fs)
    | .replaceFiles old new => done (s.replaceFiles now old new)
    | .assignJob job fs => done (s.assignJob job fs)
    | .markGcPending => done (s.markGcPending t.pageSize now)
    | .deleteLifecycle names => done (s.deleteLifecycle names)
  | .snapshot sn p =>
    let st : SnapshotState := ⟨p, o⟩
    let done := fun (r : SnapshotState × Except Error Unit) =>
      (({ t with backend := .snapshot sn r.1.pointers }, r.1.objects), r.2)
    match c with
    | .initialise => done (sn.initialisePartitions st [Partition.root rootId t.schema])
    | .initialiseWith ps => done (sn.initialisePartitions st ps)
    | .initialiseFiles => done (sn.initialiseFiles st)
    | .split parent c1 c2 => done (sn.split st parent c1 c2)
    | .addFiles fs => done (sn.addFiles st now fs)
    | .replaceFiles old new => done (sn.replaceFiles st now old new)
    | .assignJob job fs => done (sn.assignJob st job fs)
    | .markGcPending => done (sn.markGcPending st now)
    | .deleteLifecycle names => done (sn.deleteLifecycle st names)

/-- Applies a change at time `now`. Initialising the partitions and then the files are two
changes: when the first fails the second is not made, and when the second fails the first
stays. -/
def change (t : TableStore) (o : ObjectStores) (now : Int) (c : TableChange) :
    (TableStore × ObjectStores) × Except Error Unit :=
  match c with
  | .initialise | .initialiseWith _ =>
    match t.changePart o now c with
    | (r, .error e) => (r, .error e)
    | ((t', o'), .ok ()) => t'.changePart o' now .initialiseFiles
  | _ => t.changePart o now c

end TableStore

end TableState
