import TableState.Store.ItemFormat
import TableState.Partition.Validate
import TableState.File.Validate

/-!
# The item backend

A table's state kept in two item tables: one item per partition, keyed by its id, and one item
per file record, keyed as `fileInPartitionKey` and `lifecycleKey` say. Every change checks its
request, then runs one transaction of conditional writes; the first write whose condition fails
tells which error to report, read against the table the transaction leaves. A change returns the
store it leaves with its result: the store as it was when a check fails, and the tables the
transaction returns otherwise, whether it committed or not.

Reads scan the tables page by page, `pageSize` items a page, and decode every item; the first
item that does not decode fails the read.

Main definitions:

* `ItemStore`: the two tables.
* `ItemStore.transactPartitions`, `ItemStore.transactFiles`: one transaction, and the store it
  leaves.
* `ItemStore.initialisePartitions`, `ItemStore.split`: the partition changes.
* `ItemStore.addFiles`, `ItemStore.replaceFiles`, `ItemStore.assignJob`,
  `ItemStore.markGcPending`, `ItemStore.deleteLifecycle`: the file changes.
* `ItemStore.allPartitions`, `ItemStore.fileInPartitionRecords`, `ItemStore.lifecycleRecords`:
  the reads.
-/

set_option autoImplicit false

namespace TableState

/-- The item tables of one table's state: partitions and file records. -/
structure ItemStore where
  partitionTable : ItemTable
  fileTable : ItemTable
  deriving Repr, Inhabited

namespace ItemStore

/-- The state of a new table: both item tables empty. -/
def empty : ItemStore := ⟨.empty, .empty⟩

/-- Every stored partition, in id order. -/
def allPartitions (s : ItemStore) (pageSize : Nat) : Except Error (List Partition) :=
  (s.partitionTable.scanAll "" pageSize).mapM (Partition.ofItem ·.2)

/-- A transaction on the partition table: the store with the table the transaction leaves, with
no error when it commits, and otherwise the error `refused` gives for the index and key of the
refused write, read against the store left. -/
def transactPartitions (s : ItemStore) (ops : List WriteOp)
    (refused : ItemStore → Nat → String → Error) : ItemStore × Except Error Unit :=
  match s.partitionTable.transact ops with
  | (.committed, t) => ({ s with partitionTable := t }, .ok ())
  | (.conditionFailed i key, t) =>
    ({ s with partitionTable := t }, .error (refused { s with partitionTable := t } i key))

/-- A transaction on the file table, as `transactPartitions` on the partition table. -/
def transactFiles (s : ItemStore) (ops : List WriteOp)
    (refused : ItemStore → Nat → String → Error) : ItemStore × Except Error Unit :=
  match s.fileTable.transact ops with
  | (.committed, t) => ({ s with fileTable := t }, .ok ())
  | (.conditionFailed i key, t) =>
    ({ s with fileTable := t }, .error (refused { s with fileTable := t } i key))

/-- Stores a valid partition tree; a partition whose id is already stored fails the whole
write. -/
def initialisePartitions (s : ItemStore) (ps : List Partition) : ItemStore × Except Error Unit :=
  match Partition.validateList ps with
  | .error e => (s, .error e)
  | .ok () =>
    s.transactPartitions (ps.map fun p => .put p.id p.toItem .absent) fun _ _ key =>
      .partitionAlreadyExists key

/-- The writes of a split: the parent becomes its split form if it is still a leaf with the
same region, and the children are created where no partition has their ids. -/
def splitWrites (parent c1 c2 : Partition) : List WriteOp :=
  [.update parent.id parent.splitUpdate []
      (.all [.attributeEquals "isLeaf" (.bool true),
        .attributeEquals "region" (.string parent.region.json)]),
    .put c1.id c1.toItem .absent,
    .put c2.id c2.toItem .absent]

/-- Why the update of a split's parent was refused: no such partition, a parent that is no
longer a leaf, or a parent whose region differs. -/
def splitRejected (s : ItemStore) (parent : Partition) : Except Error Error := do
  let some item := s.partitionTable.get? parent.id | pure (.unknownPartition parent.id)
  let stored ← Partition.ofItem item
  if !stored.isLeaf then pure (.concurrentModification ("partition '" ++ parent.id ++ "'"))
  else if stored.region ≠ parent.region then pure (.parentRegionMismatch parent.id)
  else pure (.concurrentModification ("partition '" ++ parent.id ++ "'"))

/-- Splits a stored leaf into the two given children. A refused update of the parent is
explained by reading the parent again; a read that fails gives its own error. -/
def split (s : ItemStore) (parent c1 c2 : Partition) : ItemStore × Except Error Unit :=
  match Partition.validateSplit parent c1 c2 with
  | .error e => (s, .error e)
  | .ok () =>
    s.transactPartitions (splitWrites parent c1 c2) fun s' i key =>
      if i = 0 then
        match s'.splitRejected parent with
        | .ok e | .error e => e
      else .partitionAlreadyExists key

/-- Every stored record under a key prefix, in key order. -/
def records (s : ItemStore) (pageSize : Nat) (pfx : String) : Except Error (List FileRecord) :=
  (s.fileTable.scanAll pfx pageSize).mapM (FileRecord.ofItem ·.2)

/-- The file-in-partition records, in key order. -/
def fileInPartitionRecords (s : ItemStore) (pageSize : Nat) : Except Error (List FileRecord) :=
  s.records pageSize fileInPartitionPrefix

/-- The lifecycle records, in key order. -/
def lifecycleRecords (s : ItemStore) (pageSize : Nat) : Except Error (List FileRecord) :=
  s.records pageSize lifecyclePrefix

/-- The writes creating the records of new files at time `now`: a file-in-partition record per
file, then a lifecycle record per filename, each where no record has its key. -/
def newFileWrites (now : Int) (fs : List FileRecord) : List WriteOp :=
  fs.map (fun f => .put (fileInPartitionKey f.filename f.partitionId)
      (f.toFileInPartition now).toItem .absent) ++
    (FileRecord.newLifecycleRecords fs now).map fun l => .put (lifecycleKey l.filename) l.toItem .absent

/-- The filename of the record a write creates. -/
def writtenFilename : WriteOp → String
  | .put _ i _ => (i.getString? "fileName").getD ""
  | op => op.key

/-- The filename of the record the write at a position creates. -/
def filenameAt (ops : List WriteOp) (index : Nat) : String :=
  (ops[index]?.map writtenFilename).getD ""

/-- Records new files at time `now`. -/
def addFiles (s : ItemStore) (now : Int) (fs : List FileRecord) : ItemStore × Except Error Unit :=
  match FileRecord.validateNew fs with
  | .error e => (s, .error e)
  | .ok () =>
    let ops := newFileWrites now fs
    s.transactFiles ops fun _ i _ => .fileAlreadyExists (filenameAt ops i)

/-- The error for a named file-in-partition record that is not stored. -/
def missingRecord (f : FileRecord) : Error :=
  .fileInPartitionMissing f.filename f.partitionId

/-- The writes of a replacement: a delete of each old record where it is stored, then the
records of the new files. -/
def replaceWrites (now : Int) (old new : List FileRecord) : List WriteOp :=
  old.map (fun f => .delete (fileInPartitionKey f.filename f.partitionId) .present) ++
    newFileWrites now new

/-- Removes the file-in-partition records `old` and records the files `new` at time `now`. -/
def replaceFiles (s : ItemStore) (now : Int) (old new : List FileRecord) :
    ItemStore × Except Error Unit :=
  match FileRecord.validateExisting old with
  | .error e => (s, .error e)
  | .ok () =>
    match FileRecord.validateNew new with
    | .error e => (s, .error e)
    | .ok () =>
      s.transactFiles (replaceWrites now old new) fun _ i _ =>
        match old[i]? with
        | some f => missingRecord f
        | none => .fileAlreadyExists (filenameAt (replaceWrites now old new) i)

/-- The writes of a job assignment: the job set on each record that has none. -/
def assignWrites (job : String) (fs : List FileRecord) : List WriteOp :=
  fs.map fun f => .update (fileInPartitionKey f.filename f.partitionId)
    (Item.empty.set "jobId" (.string job)) [] (.attributeMissing "jobId")

/-- Assigns a job to file-in-partition records that have none. A refused write is explained by
looking up its record again: present, it has a job; absent, it is missing. -/
def assignJob (s : ItemStore) (job : String) (fs : List FileRecord) : ItemStore × Except Error Unit :=
  if job.isEmpty then (s, .error (.missingField "jobId")) else
  match FileRecord.validateExisting fs with
  | .error e => (s, .error e)
  | .ok () =>
    s.transactFiles (assignWrites job fs) fun s' i key =>
      match fs[i]? with
      | some f =>
        if (s'.fileTable.get? key).isSome then .jobAlreadyAssigned f.filename f.partitionId
        else missingRecord f
      | none => .fileAlreadyExists key

/-- The write marking an active lifecycle record as pending garbage collection at `now`. -/
def markWrite (now : Int) (f : FileRecord) : WriteOp :=
  .update (lifecycleKey f.filename)
    (Item.empty.set "status" (.string FileStatus.gcPending.name)
      |>.set "lastStateStoreUpdateTime" (.number (Int64.ofInt now)))
    [] (.attributeEquals "status" (.string FileStatus.active.name))

/-- Marks as pending garbage collection, at `now`, every active lifecycle record whose file has
no file-in-partition record, one write at a time; a read that fails comes before any write. -/
def markGcPending (s : ItemStore) (pageSize : Nat) (now : Int) : ItemStore × Except Error Unit :=
  match s.lifecycleRecords pageSize, s.fileInPartitionRecords pageSize with
  | .error e, _ => (s, .error e)
  | .ok _, .error e => (s, .error e)
  | .ok lifecycle, .ok fips =>
    let inPartition := fips.map (·.filename)
    let unreferenced := lifecycle.filter fun f =>
      f.status == .active && !inPartition.contains f.filename
    ({ s with fileTable := unreferenced.foldl (fun t f => (t.transact [markWrite now f]).2) s.fileTable },
      .ok ())

/-- Deletes lifecycle records that are pending garbage collection. -/
def deleteLifecycle (s : ItemStore) (names : List String) : ItemStore × Except Error Unit :=
  s.transactFiles (names.map fun n => .delete (lifecycleKey n)
      (.attributeEquals "status" (.string FileStatus.gcPending.name)))
    fun _ i key => .fileNotReadyForDeletion (names[i]?.getD key)

end ItemStore

end TableState
