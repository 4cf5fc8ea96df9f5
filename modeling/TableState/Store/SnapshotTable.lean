import TableState.Store.Snapshot
import TableState.Partition.Validate
import TableState.File.Validate

/-!
# The snapshot backend

A table's state kept as two snapshot series: the partition tree as one list of partitions, and
the file records as one list holding both the file-in-partition records and the lifecycle
records, told apart by their status. Every change reads the current list, computes the new one
and commits it as the next revision, so a change that fails leaves the current revision as it
was. Each operation returns the state it leaves with its result.

New records are appended at the end of a list; removed records leave the rest in order; a split
turns its parent into its split form where it stands and appends the two children.

Main definitions:

* `Partition.applySplit`: a split of a list of partitions.
* `FileRecord.insertFiles`, `FileRecord.removeRecords`, `FileRecord.claim`,
  `FileRecord.markUnreferenced`, `FileRecord.removeLifecycle`: the file changes on a list.
* `SnapshotTable` and its operations.
-/

set_option autoImplicit false

namespace TableState

namespace Partition

/-- The list with its first partition of `parent`'s id turned into `parent`'s split form: no
longer a leaf, with `parent`'s children and split dimension. -/
def markSplit (parent : Partition) : List Partition → List Partition
  | [] => []
  | p :: ps =>
    if p.id = parent.id then
      { p with isLeaf := false, childIds := parent.childIds, splitDimension := parent.splitDimension } :: ps
    else p :: markSplit parent ps

/-- Splits the stored partition with `parent`'s id into the two children: it must be stored, be
a leaf and have `parent`'s region, and no partition may have a child's id. -/
def applySplit (ps : List Partition) (parent c1 c2 : Partition) : Except Error (List Partition) := do
  let some stored := ps.find? (·.id == parent.id) | throw (.unknownPartition parent.id)
  if !stored.isLeaf then throw (.concurrentModification ("partition '" ++ parent.id ++ "'"))
  if stored.region ≠ parent.region then throw (.parentRegionMismatch parent.id)
  if ps.any (·.id == c1.id) then throw (.partitionAlreadyExists c1.id)
  if ps.any (·.id == c2.id) then throw (.partitionAlreadyExists c2.id)
  pure (markSplit parent ps ++ [c1, c2])

end Partition

namespace FileRecord

/-- Whether `r` is the file-in-partition record of `f`'s file and partition. -/
def recordOf (f r : FileRecord) : Bool :=
  r.status == .fileInPartition && r.sameFileInPartition f

/-- Whether a file has a lifecycle record in the list. -/
def hasLifecycle (rs : List FileRecord) (filename : String) : Bool :=
  rs.any fun r => r.isLifecycle && r.filename == filename

/-- Appends the records of new files at time `now`: their file-in-partition records, then a
lifecycle record per filename. A file whose record exists, or whose filename has a lifecycle
record, is refused. -/
def insertFiles (rs fs : List FileRecord) (now : Int) : Except Error (List FileRecord) := do
  for f in fs do
    if rs.any (recordOf f) || hasLifecycle rs f.filename then throw (.fileAlreadyExists f.filename)
  pure (rs ++ fs.map (·.toFileInPartition now) ++ newLifecycleRecords fs now)

/-- The list without the first element satisfying `p`, if there is one. -/
def removeFirst (p : FileRecord → Bool) : List FileRecord → Option (List FileRecord)
  | [] => none
  | r :: rs => if p r then some rs else (removeFirst p rs).map (r :: ·)

/-- Removes the file-in-partition record of each file in turn. -/
def removeRecords (rs : List FileRecord) : List FileRecord → Except Error (List FileRecord)
  | [] => .ok rs
  | f :: fs =>
    match removeFirst (recordOf f) rs with
    | some rs' => removeRecords rs' fs
    | none => .error (.fileInPartitionMissing f.filename f.partitionId)

/-- The list with the job set on the first file-in-partition record of `f`. -/
def setJob (job : String) (f : FileRecord) : List FileRecord → List FileRecord
  | [] => []
  | r :: rs => if recordOf f r then { r with jobId := some job } :: rs else r :: setJob job f rs

/-- Assigns a job to the file-in-partition records of the files, each of which must be stored
without a job. -/
def claim (rs : List FileRecord) (job : String) (fs : List FileRecord) :
    Except Error (List FileRecord) := do
  for f in fs do
    match rs.find? (recordOf f) with
    | none => throw (.fileInPartitionMissing f.filename f.partitionId)
    | some r => if r.jobId.isSome then throw (.jobAlreadyAssigned f.filename f.partitionId)
  pure (fs.foldl (fun rs f => setJob job f rs) rs)

/-- Marks as pending garbage collection at `now` every active lifecycle record whose file has no
file-in-partition record; `none` when no record is marked. -/
def markUnreferenced (rs : List FileRecord) (now : Int) : Option (List FileRecord) :=
  let inPartition := (rs.filter (!·.isLifecycle)).map (·.filename)
  let marks := fun (r : FileRecord) => r.status == .active && !inPartition.contains r.filename
  if rs.any marks then
    some (rs.map fun r => if marks r then { r with status := .gcPending, lastUpdateTime := some now } else r)
  else none

/-- Removes, for each name in turn, the first lifecycle record of that name pending garbage
collection. -/
def removeLifecycle (rs : List FileRecord) : List String → Except Error (List FileRecord)
  | [] => .ok rs
  | n :: ns =>
    match removeFirst (fun r => r.status == .gcPending && r.filename == n) rs with
    | some rs' => removeLifecycle rs' ns
    | none => .error (.fileNotReadyForDeletion n)

end FileRecord

/-- The two snapshot series of a table. -/
structure SnapshotTable where
  partitions : SnapshotSeries Partition
  files : SnapshotSeries FileRecord

namespace SnapshotTable

/-- The snapshot series of a table under a base location, read with the libraries `urls`. -/
def ofBase (urls : UrlLibrary) (base : Url) (maxAttempts : Nat) : SnapshotTable :=
  ⟨⟨partitionFormat, base, urls, maxAttempts⟩, ⟨fileFormat, base, urls, maxAttempts⟩⟩

/-- Stores a valid partition tree as the first partition snapshot. -/
def initialisePartitions (t : SnapshotTable) (st : SnapshotState) (ps : List Partition) :
    SnapshotState × Except Error Unit :=
  match Partition.validateList ps with
  | .error e => (st, .error e)
  | .ok () => t.partitions.initialise st ps

/-- Starts the file records with an empty snapshot. -/
def initialiseFiles (t : SnapshotTable) (st : SnapshotState) : SnapshotState × Except Error Unit :=
  t.files.initialise st []

/-- Splits a stored leaf into the two given children. -/
def split (t : SnapshotTable) (st : SnapshotState) (parent c1 c2 : Partition) :
    SnapshotState × Except Error Unit :=
  match Partition.validateSplit parent c1 c2 with
  | .error e => (st, .error e)
  | .ok () => t.partitions.update st fun ps => some <$> Partition.applySplit ps parent c1 c2

/-- Records new files at time `now`. -/
def addFiles (t : SnapshotTable) (st : SnapshotState) (now : Int) (fs : List FileRecord) :
    SnapshotState × Except Error Unit :=
  match FileRecord.validateNew fs with
  | .error e => (st, .error e)
  | .ok () => t.files.update st fun rs => some <$> FileRecord.insertFiles rs fs now

/-- Removes the file-in-partition records `old` and records the files `new` at time `now`. -/
def replaceFiles (t : SnapshotTable) (st : SnapshotState) (now : Int) (old new : List FileRecord) :
    SnapshotState × Except Error Unit :=
  match FileRecord.validateExisting old, FileRecord.validateNew new with
  | .error e, _ => (st, .error e)
  | .ok (), .error e => (st, .error e)
  | .ok (), .ok () => t.files.update st fun rs => do
    let rs ← FileRecord.removeRecords rs old
    some <$> FileRecord.insertFiles rs new now

/-- Assigns a job to file-in-partition records that have none. -/
def assignJob (t : SnapshotTable) (st : SnapshotState) (job : String) (fs : List FileRecord) :
    SnapshotState × Except Error Unit :=
  if job.isEmpty then (st, .error (.missingField "jobId")) else
  match FileRecord.validateExisting fs with
  | .error e => (st, .error e)
  | .ok () => t.files.update st fun rs => some <$> FileRecord.claim rs job fs

/-- Marks unreferenced active files as pending garbage collection at `now`. -/
def markGcPending (t : SnapshotTable) (st : SnapshotState) (now : Int) :
    SnapshotState × Except Error Unit :=
  t.files.update st fun rs => pure (FileRecord.markUnreferenced rs now)

/-- Deletes lifecycle records that are pending garbage collection. -/
def deleteLifecycle (t : SnapshotTable) (st : SnapshotState) (names : List String) :
    SnapshotState × Except Error Unit :=
  t.files.update st fun rs => do
    let rs ← FileRecord.removeLifecycle rs names
    pure (if names.isEmpty then none else some rs)

end SnapshotTable

end TableState
