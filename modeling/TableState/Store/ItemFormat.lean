import TableState.Item.Table
import TableState.Partition.Basic
import TableState.File.Record

/-!
# Records as items

The item backend stores each partition as an item under its id, and each file record as an
item under a key that tells the kind of record: `fip/`, the filename, NUL and the partition id
for a file-in-partition record, and `lifecycle/` and the filename for a lifecycle record. Ids
hold no NUL, so the key of a file-in-partition record names its pair unambiguously.

Regions, keys and child ids keep their JSON text or a list; numbers are stored as 64-bit
integers. A record count is stored as the 64-bit integer with the same bits, so a count of
2^63 or more reads back as negative and is refused; a split dimension is stored the same way,
with -1 for none, and a negative stored dimension reads back as none. A time is stored as its
milliseconds, and reads back only if it is an instant.

Main definitions:

* `fileInPartitionKey`, `lifecycleKey`, `fileInPartitionPrefix`, `lifecyclePrefix`.
* `Partition.toItem`, `Partition.splitUpdate`, `Partition.ofItem`.
* `FileRecord.toItem`, `FileRecord.readTime`, `FileRecord.ofItem`.
-/

set_option autoImplicit false

namespace TableState

/-- The prefix of the keys of file-in-partition records. -/
def fileInPartitionPrefix : String := "fip/"

/-- The prefix of the keys of lifecycle records. -/
def lifecyclePrefix : String := "lifecycle/"

/-- The key of the file-in-partition record of a file in a partition. -/
def fileInPartitionKey (filename partitionId : String) : String :=
  fileInPartitionPrefix ++ filename ++ "\x00" ++ partitionId

/-- The key of the lifecycle record of a file. -/
def lifecycleKey (filename : String) : String :=
  lifecyclePrefix ++ filename

/-- Reads a whole text as the JSON text of a key. -/
def Key.ofJson? (s : String) : Option Key :=
  match Text.readArray KeyValue.readJson s.toList with
  | some (vs, []) => some ⟨vs⟩
  | _ => none

/-- The stored number of a split dimension: the dimension with its bits read as a signed 64-bit
integer, or -1 for none. -/
def splitDimensionNumber : Option Nat → Int64
  | some d => Int64.ofInt d
  | none => -1

namespace Partition

/-- The item of a partition. -/
def toItem (p : Partition) : Item :=
  let i := Item.empty
    |>.set "partitionId" (.string p.id)
    |>.set "isLeaf" (.bool p.isLeaf)
    |>.set "childPartitionIds" (.stringList p.childIds)
    |>.set "region" (.string p.region.json)
    |>.set "splitDimension" (.number (splitDimensionNumber p.splitDimension))
  match p.parentId with
  | some q => i.set "parentPartitionId" (.string q)
  | none => i

/-- The attributes a split changes: the split form's leaf flag, children and dimension. -/
def splitUpdate (p : Partition) : Item :=
  Item.empty
    |>.set "isLeaf" (.bool false)
    |>.set "childPartitionIds" (.stringList p.childIds)
    |>.set "splitDimension" (.number (splitDimensionNumber p.splitDimension))

/-- Reads a partition from its item. -/
def ofItem (i : Item) : Except Error Partition := do
  let some id := i.getString? "partitionId" | throw (.deserialize "partition")
  let some regionText := i.getString? "region" | throw (.deserialize "partition")
  let some region := Region.ofJson? regionText | throw (.deserialize "partition region")
  let some dimension := i.getNumber? "splitDimension" | throw (.deserialize "partition")
  let some isLeaf := i.getBool? "isLeaf" | throw (.deserialize "partition")
  pure ⟨id, region, isLeaf, i.getString? "parentPartitionId",
    (i.getStringList? "childPartitionIds").getD [],
    if dimension.toInt < 0 then none else some dimension.toInt.toNat⟩

end Partition

namespace FileRecord

/-- The item of a file record. -/
def toItem (f : FileRecord) : Item :=
  let i := Item.empty
    |>.set "fileName" (.string f.filename)
    |>.set "partitionId" (.string f.partitionId)
    |>.set "numberOfRecords" (.number f.numberOfRecords.toInt64)
    |>.set "status" (.string f.status.name)
  let opt := fun (i : Item) (name : String) (v : Option AttrValue) =>
    match v with
    | some v => i.set name v
    | none => i
  let i := opt i "minRowKey" (f.minRowKey.map fun k => .string k.json)
  let i := opt i "maxRowKey" (f.maxRowKey.map fun k => .string k.json)
  let i := opt i "jobId" (f.jobId.map .string)
  opt i "lastStateStoreUpdateTime" (f.lastUpdateTime.map fun t => .number (Int64.ofInt t))

/-- Reads an optional key from its JSON text. -/
def readKey (text : Option String) : Except Error (Option Key) :=
  match text with
  | some s =>
    match Key.ofJson? s with
    | some k => .ok (some k)
    | none => .error (.deserialize "row key")
  | none => .ok none

/-- Reads an optional stored time, which must be an instant. -/
def readTime : Option Int64 → Except Error (Option Int)
  | some n => if isInstant n.toInt then .ok (some n.toInt) else .error (.deserialize "update time")
  | none => .ok none

/-- Reads a file record from its item. -/
def ofItem (i : Item) : Except Error FileRecord := do
  let some filename := i.getString? "fileName" | throw (.deserialize "file info")
  let some statusText := i.getString? "status" | throw (.deserialize "file info")
  let status ← match FileStatus.parse statusText with
    | .ok s => pure s
    | .error _ => throw (.deserialize "file status")
  let some count := i.getNumber? "numberOfRecords" | throw (.deserialize "file info")
  let some partitionId := i.getString? "partitionId" | throw (.deserialize "file info")
  if count.toInt < 0 then throw (.deserialize "file info")
  let minRowKey ← readKey (i.getString? "minRowKey")
  let maxRowKey ← readKey (i.getString? "maxRowKey")
  let time ← readTime (i.getNumber? "lastStateStoreUpdateTime")
  pure ⟨filename, partitionId, count.toInt.toNat.toUInt64, minRowKey, maxRowKey, status,
    i.getString? "jobId", time⟩

end FileRecord

end TableState
