import TableState.Key.Basic
import TableState.Error

/-!
# File records

A table's data lives in files. Two kinds of record describe them. A file-in-partition record
says that a file holds data of a partition; a file may have one per partition it spans, and a
job may be assigned to it. A lifecycle record, one per file, says whether the file is in use
(`active`) or waits for garbage collection (`gcPending`). Every record stamps the time of its
last change, in milliseconds since the Unix epoch; a time is an instant from the first millisecond
of the year -262143 to the last millisecond of the year 262142 (UTC), and a stored time outside
them does not read back.

Main definitions:

* `earliestInstant`, `latestInstant`, `isInstant`.
* `FileStatus`, with `FileStatus.name` and `FileStatus.parse`.
* `FileRecord`, `FileRecord.toFileInPartition`, `FileRecord.toActiveLifecycle`,
  `FileRecord.isLifecycle`.
-/

set_option autoImplicit false

namespace TableState

/-- The earliest instant, in milliseconds since the epoch: -262143-01-01T00:00:00Z. -/
def earliestInstant : Int := -8334601228800000

/-- The latest instant, in milliseconds since the epoch: 262142-12-31T23:59:59.999Z. -/
def latestInstant : Int := 8210266876799999

/-- Whether a time in milliseconds is an instant. -/
def isInstant (t : Int) : Bool :=
  earliestInstant ≤ t && t ≤ latestInstant

/-- The status of a file record. -/
inductive FileStatus where
  | fileInPartition
  | active
  | gcPending
  deriving DecidableEq, Repr, Inhabited

namespace FileStatus

/-- The stored name of a status. -/
def name : FileStatus → String
  | fileInPartition => "FILE_IN_PARTITION"
  | active => "ACTIVE"
  | gcPending => "GARBAGE_COLLECTION_PENDING"

/-- Reads a status from its stored name. -/
def parse (text : String) : Except Error FileStatus :=
  if text = "FILE_IN_PARTITION" then .ok fileInPartition
  else if text = "ACTIVE" then .ok active
  else if text = "GARBAGE_COLLECTION_PENDING" then .ok gcPending
  else .error (.unknownFileStatus text)

end FileStatus

/-- A record of a file: where its data is, how many rows it holds, its key bounds, its status,
the job it is assigned to and the time of its last change. -/
structure FileRecord where
  filename : String
  partitionId : String
  numberOfRecords : UInt64
  minRowKey : Option Key
  maxRowKey : Option Key
  status : FileStatus
  jobId : Option String
  lastUpdateTime : Option Int
  deriving DecidableEq, Repr, Inhabited

namespace FileRecord

/-- The file-in-partition record of a file, stamped at `time`, without a job. -/
def toFileInPartition (f : FileRecord) (time : Int) : FileRecord :=
  { f with status := .fileInPartition, jobId := none, lastUpdateTime := some time }

/-- The active lifecycle record of a file, stamped at `time`, without a job. -/
def toActiveLifecycle (f : FileRecord) (time : Int) : FileRecord :=
  { f with status := .active, jobId := none, lastUpdateTime := some time }

/-- Lifecycle records are those whose status is not file-in-partition. -/
def isLifecycle (f : FileRecord) : Bool :=
  f.status != .fileInPartition

/-- A file-in-partition record is identified by its file and partition. -/
def sameFileInPartition (f g : FileRecord) : Bool :=
  f.filename == g.filename && f.partitionId == g.partitionId

end FileRecord

end TableState
