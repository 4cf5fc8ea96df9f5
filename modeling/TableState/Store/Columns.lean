import TableState.Store.ItemFormat

/-!
# Records as columns

The snapshot backend writes each revision of a record list as a table of columns, one value per
record in each. Partitions have columns of ids, leaf flags (`true` or `false`), optional parent
ids, child id lists and regions (both as JSON text) and split dimensions as 32-bit integers, -1
for none. File records have columns of filenames, statuses, partition ids, record counts as
64-bit integers, optional key bounds as JSON text, optional job ids and optional update times.

Writing fails for a split dimension above 2^31 - 1 and for a record count above 2^63 - 1, which
the columns cannot hold. Reading takes the rows back in order, and refuses a stored time that is
not an instant.

Main definitions:

* `PartitionColumns`, `PartitionColumns.ofPartitions`, `PartitionColumns.toPartitions`.
* `FileColumns`, `FileColumns.ofFiles`, `FileColumns.toFiles`.
-/

set_option autoImplicit false

namespace TableState

/-- The columns of a list of partitions. -/
structure PartitionColumns where
  ids : List String
  leaves : List String
  parents : List (Option String)
  children : List String
  regions : List String
  splitDimensions : List Int32
  deriving Repr

/-- The JSON text of a list of ids. -/
def idsJson (ids : List String) : String :=
  Text.jsonArray Text.jsonString ids

/-- Reads the JSON text of a list of ids. -/
def idsOfJson? (s : String) : Option (List String) :=
  match Text.readArray Text.readJsonString s.toList with
  | some (ids, []) => some ids
  | _ => none

namespace PartitionColumns

/-- The stored split dimension: -1 for none, refused above 2^31 - 1. -/
def dimensionCell : Option Nat → Except Error Int32
  | none => .ok (-1)
  | some d => if d ≤ 2147483647 then .ok (Int32.ofNat d) else .error (.serialize "split dimension")

/-- The columns of a list of partitions. -/
def ofPartitions (ps : List Partition) : Except Error PartitionColumns := do
  let dims ← ps.mapM (dimensionCell ·.splitDimension)
  pure ⟨ps.map (·.id), ps.map (fun p => if p.isLeaf then "true" else "false"), ps.map (·.parentId),
    ps.map (idsJson ·.childIds), ps.map (·.region.json), dims⟩

/-- Reads the rows of partition columns. -/
def rows : List String → List String → List (Option String) → List String → List String →
    List Int32 → Except Error (List Partition)
  | i :: is, l :: ls, p :: ps, c :: cs, r :: rs, d :: ds => do
    let some region := Region.ofJson? r | throw (.deserialize "partition region")
    let some children := idsOfJson? c | throw (.deserialize "child partition ids")
    let rest ← rows is ls ps cs rs ds
    pure (⟨i, region, l == "true", p, children,
      if d.toInt < 0 then none else some d.toInt.toNat⟩ :: rest)
  | _, _, _, _, _, _ => .ok []

/-- The partitions of columns, row by row. -/
def toPartitions (c : PartitionColumns) : Except Error (List Partition) :=
  rows c.ids c.leaves c.parents c.children c.regions c.splitDimensions

end PartitionColumns

/-- The columns of a list of file records. -/
structure FileColumns where
  names : List String
  statuses : List String
  partitions : List String
  counts : List Int64
  minKeys : List (Option String)
  maxKeys : List (Option String)
  jobIds : List (Option String)
  times : List (Option Int64)
  deriving Repr

namespace FileColumns

/-- The stored record count, refused above 2^63 - 1. -/
def countCell (n : UInt64) : Except Error Int64 :=
  if n.toNat < Nat.pow 2 63 then .ok n.toInt64 else .error (.serialize "number of records")

/-- The columns of a list of file records. -/
def ofFiles (fs : List FileRecord) : Except Error FileColumns := do
  let counts ← fs.mapM (countCell ·.numberOfRecords)
  pure ⟨fs.map (·.filename), fs.map (·.status.name), fs.map (·.partitionId), counts,
    fs.map (·.minRowKey.map Key.json), fs.map (·.maxRowKey.map Key.json), fs.map (·.jobId),
    fs.map (·.lastUpdateTime.map Int64.ofInt)⟩

/-- Reads the rows of file columns. -/
def rows : List String → List String → List String → List Int64 → List (Option String) →
    List (Option String) → List (Option String) → List (Option Int64) →
    Except Error (List FileRecord)
  | n :: ns, s :: ss, p :: ps, c :: cs, lo :: los, hi :: his, j :: js, t :: ts => do
    let status ← match FileStatus.parse s with
      | .ok st => pure st
      | .error _ => throw (.deserialize "file status")
    let time ← FileRecord.readTime t
    if c.toInt < 0 then throw (.deserialize "number of records")
    let minKey ← match lo with
      | some text => match Key.ofJson? text with
        | some k => pure (some k)
        | none => throw (.deserialize "row key")
      | none => pure none
    let maxKey ← match hi with
      | some text => match Key.ofJson? text with
        | some k => pure (some k)
        | none => throw (.deserialize "row key")
      | none => pure none
    let rest ← rows ns ss ps cs los his js ts
    pure (⟨n, p, c.toInt.toNat.toUInt64, minKey, maxKey, status, j, time⟩ :: rest)
  | _, _, _, _, _, _, _, _ => .ok []

/-- The file records of columns, row by row. -/
def toFiles (c : FileColumns) : Except Error (List FileRecord) :=
  rows c.names c.statuses c.partitions c.counts c.minKeys c.maxKeys c.jobIds c.times

end FileColumns

end TableState
