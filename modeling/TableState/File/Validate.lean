import TableState.File.Record
import TableState.Partition.Validate

/-!
# Checks on batches of file records

A batch of new files, or of existing file-in-partition records, is checked file by file in
order: the filename and the partition id must not be empty, must not hold NUL (filename first),
and the pair of them must not have come earlier in the batch. A repeated pair is reported as an
existing file for new files, and as a record named twice for existing records.

New files get one lifecycle record per distinct filename, from the first file of that name.

Main definitions:

* `FileRecord.validateNew`, `FileRecord.validateExisting`.
* `FileRecord.newLifecycleRecords`.
-/

set_option autoImplicit false

namespace TableState

namespace FileRecord

/-- The checks on one file that do not look at the rest of the batch. -/
def validateOne (f : FileRecord) : Except Error Unit := do
  if f.filename.isEmpty then throw (.missingField "filename")
  if f.partitionId.isEmpty then throw (.missingField "partitionId")
  validateIdentifier f.filename
  validateIdentifier f.partitionId

/-- Checks a batch file by file; `repeated` names the error of a pair seen earlier, and `seen`
holds the pairs of the files before. -/
def validateBatch (repeated : FileRecord → Error) (seen : List (String × String)) :
    List FileRecord → Except Error Unit
  | [] => .ok ()
  | f :: fs => do
    validateOne f
    if seen.contains (f.filename, f.partitionId) then throw (repeated f)
    validateBatch repeated ((f.filename, f.partitionId) :: seen) fs

/-- The checks on a batch of new files. -/
def validateNew (fs : List FileRecord) : Except Error Unit :=
  validateBatch (fun f => .fileAlreadyExists f.filename) [] fs

/-- The checks on a batch of existing file-in-partition records. -/
def validateExisting (fs : List FileRecord) : Except Error Unit :=
  validateBatch (fun f => .duplicateFileInPartition f.filename f.partitionId) [] fs

/-- The files of a batch whose filename is neither in `seen` nor came earlier, in order. -/
def firstPerFilename (seen : List String) : List FileRecord → List FileRecord
  | [] => []
  | f :: fs =>
    if seen.contains f.filename then firstPerFilename seen fs
    else f :: firstPerFilename (f.filename :: seen) fs

/-- The active lifecycle records of a batch of new files, stamped at `time`: one per filename,
from the first file of that name. -/
def newLifecycleRecords (fs : List FileRecord) (time : Int) : List FileRecord :=
  (firstPerFilename [] fs).map (·.toActiveLifecycle time)

end FileRecord

end TableState
