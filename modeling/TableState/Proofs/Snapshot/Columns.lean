import TableState.Proofs.Partition.SplitOutcome
import TableState.Proofs.Session.FileChanges

/-!
# Records through columns and back

A snapshot is written as columns, one value per record in each, and read back row by row. Writing
refuses a split dimension above 2^31 - 1 and a record count above 2^63 - 1, which the columns
cannot hold (`ofPartitions_isOk_iff`, `ofFiles_isOk_iff`); where writing succeeds, reading gives
the records back exactly, in order.

Each column cell reads back as the field it was written from:

* a leaf flag as `true` or `false`, and a parent id as itself or no value;
* child ids and regions through their JSON text (`idsOfJson_idsJson`, `Region.ofJson_json`);
* a split dimension through its 32-bit cell, -1 for none (`PartitionColumns.dimension_of_cell`);
* a status through its name, key bounds through their JSON text;
* a record count through its 64-bit cell, which is never negative
  (`FileColumns.count_of_cell`), and a time through the 64-bit integer of its milliseconds,
  which holds every instant the clock can show.

So the rows read back as the records by one induction over the list, with the cells of the
numbers related to the records by the map that wrote them (`PartitionColumns.rows_of_cells`,
`FileColumns.rows_of_cells`). Main statement: `columns_round_trip`.
-/

set_option autoImplicit false

namespace TableState

open Text

/-- A list of ids reads back from its JSON text. -/
@[simp] theorem idsOfJson_idsJson (ids : List String) : idsOfJson? (idsJson ids) = some ids := by
  have harray : readArray readJsonString ((jsonArray jsonString ids).toList ++ []) =
      some (ids, []) := by
    apply readArray_jsonArray
    · -- every id's text starts with its opening quote
      intro s _
      exact ⟨'"', s.toList.flatMap jsonChar ++ ['"'], by simp [jsonChars], by decide⟩
    · intro s _ c cs _
      rw [toList_jsonString]
      exact readJsonString_jsonChars s (c :: cs)
  rw [List.append_nil] at harray
  simp [idsOfJson?, idsJson, harray]

namespace PartitionColumns

/-- The split dimension a cell holds reads back as the one it was written from. -/
theorem dimension_of_cell {sd : Option Nat} {d : Int32} (h : dimensionCell sd = .ok d) :
    (if d.toInt < 0 then none else some d.toInt.toNat) = sd := by
  cases sd with
  | none =>
    cases h
    rfl
  | some n =>
    simp only [dimensionCell] at h
    split at h
    · rename_i hn
      cases h
      rw [Int32.toInt_ofNat_of_lt (by omega)]
      simp
    · cases h

/-- Rows written from partitions, with split dimension cells written from theirs, read back as
the partitions. -/
theorem rows_of_cells {ps : List Partition} {dims : List Int32}
    (h : List.Forall₂ (fun p d => dimensionCell p.splitDimension = .ok d) ps dims) :
    rows (ps.map (·.id)) (ps.map fun p => if p.isLeaf then "true" else "false")
      (ps.map (·.parentId)) (ps.map (idsJson ·.childIds)) (ps.map (·.region.json)) dims =
      .ok ps := by
  induction h with
  | nil => rfl
  | @cons p d ps dims hd _ ih =>
    simp only [List.map_cons, rows, Region.ofJson_json, idsOfJson_idsJson, ih,
      dimension_of_cell hd]
    -- the leaf flag reads back from its text
    have hleaf : ((if p.isLeaf then "true" else "false") == "true") = p.isLeaf := by
      cases p.isLeaf <;> decide
    rw [hleaf]
    rfl

/-- Columns written from partitions read back as the partitions, in order. -/
theorem toPartitions_ofPartitions {ps : List Partition} {c : PartitionColumns}
    (h : ofPartitions ps = .ok c) : c.toPartitions = .ok ps := by
  obtain ⟨dims, hdims, hc⟩ := Except.bind_eq_ok.1 h
  cases Except.pure_eq_ok.1 hc
  exact rows_of_cells (List.forall₂_of_mapM_eq_ok hdims)

end PartitionColumns

namespace FileColumns

/-- A record count a cell holds is not negative and reads back as the count written. -/
theorem count_of_cell {n : UInt64} {c : Int64} (h : countCell n = .ok c) :
    ¬c.toInt < 0 ∧ c.toInt.toNat.toUInt64 = n := by
  simp only [countCell] at h
  split at h
  · rename_i hn
    cases h
    rw [FileRecord.toInt_toInt64, if_pos hn]
    exact ⟨by omega, by simp⟩
  · cases h

/-- Rows written from file records stamped at instants, with count cells written from theirs,
read back as the records. -/
theorem rows_of_cells {fs : List FileRecord} {counts : List Int64}
    (h : List.Forall₂ (fun f c => countCell f.numberOfRecords = .ok c) fs counts)
    (htimes : ∀ f ∈ fs, f.lastUpdateTime.all isInstant = true) :
    rows (fs.map (·.filename)) (fs.map (·.status.name)) (fs.map (·.partitionId)) counts
      (fs.map (·.minRowKey.map Key.json)) (fs.map (·.maxRowKey.map Key.json)) (fs.map (·.jobId))
      (fs.map (·.lastUpdateTime.map Int64.ofInt)) = .ok fs := by
  induction h with
  | nil => rfl
  | @cons f c fs counts hc _ ih =>
    simp only [List.mem_cons, forall_eq_or_imp] at htimes
    obtain ⟨hpos, hcount⟩ := count_of_cell hc
    -- the time reads back through its 64-bit integer, which is an instant
    have htime : FileRecord.readTime (f.lastUpdateTime.map Int64.ofInt) = .ok f.lastUpdateTime := by
      cases ht : f.lastUpdateTime with
      | none => rfl
      | some t =>
        rw [ht] at htimes
        have hi : isInstant t = true := by simpa using htimes.1
        simp [FileRecord.readTime, toInt_ofInt_of_isInstant hi, hi]
    simp only [List.map_cons, rows, FileStatus.parse_name, hpos, if_false, ih htimes.2, hcount,
      htime, bind, Except.bind, pure, Except.pure]
    -- each key bound reads back from its JSON text, or is absent
    rcases f with ⟨name, partition, n, lo, hi, status, job, time⟩
    cases lo <;> cases hi <;> simp [Key.ofJson_json]

/-- Columns written from file records stamped at instants read back as the records, in
order. -/
theorem toFiles_ofFiles {fs : List FileRecord} {c : FileColumns} (h : ofFiles fs = .ok c)
    (htimes : ∀ f ∈ fs, f.lastUpdateTime.all isInstant = true) : c.toFiles = .ok fs := by
  obtain ⟨counts, hcounts, hc⟩ := Except.bind_eq_ok.1 h
  cases Except.pure_eq_ok.1 hc
  exact rows_of_cells (List.forall₂_of_mapM_eq_ok hcounts) htimes

end FileColumns

/-- **Snapshot columns round-trip exactly where they can be written.** Partitions can be written
as columns exactly when every split dimension is none or at most 2^31 - 1, and file records
exactly when every record count is at most 2^63 - 1; columns so written read back as the records,
in order and with their number, the empty list included. File records are stamped, if at all, at
instants of the clock, as every stored time is. -/
theorem columns_round_trip (ps : List Partition) (fs : List FileRecord)
    (htimes : ∀ f ∈ fs, f.lastUpdateTime.all isInstant = true) :
    ((∃ c, PartitionColumns.ofPartitions ps = .ok c) ↔ ∀ p ∈ ps, p.DimensionFits) ∧
      (∀ c, PartitionColumns.ofPartitions ps = .ok c → c.toPartitions = .ok ps) ∧
      ((∃ c, FileColumns.ofFiles fs = .ok c) ↔ ∀ f ∈ fs, f.CountFits) ∧
      (∀ c, FileColumns.ofFiles fs = .ok c → c.toFiles = .ok fs) :=
  ⟨Partition.ofPartitions_isOk_iff, fun _ h => PartitionColumns.toPartitions_ofPartitions h,
    ofFiles_isOk_iff, fun _ h => FileColumns.toFiles_ofFiles h htimes⟩

/-- The root partition, and two records of one file, one with key bounds and a time, one active
with a job: both lists go through their columns and back. -/
theorem root_and_file_records_round_trip :
    let ps := [Partition.root "root" (.single "key" .long)]
    let fs : List FileRecord :=
      [⟨"a.parquet", "root", 10, some ⟨[.long 0]⟩, some ⟨[.long 9]⟩, .fileInPartition, none,
          some 1685620800500⟩,
        ⟨"a.parquet", "root", 10, none, none, .active, some "job", none⟩]
    (∀ f ∈ fs, f.lastUpdateTime.all isInstant = true) ∧
      (∀ c, PartitionColumns.ofPartitions ps = .ok c → c.toPartitions = .ok ps) ∧
      (∀ c, FileColumns.ofFiles fs = .ok c → c.toFiles = .ok fs) := by
  intro ps fs
  have htimes : ∀ f ∈ fs, f.lastUpdateTime.all isInstant = true := by decide
  obtain ⟨-, hps, -, hfs⟩ := columns_round_trip ps fs htimes
  exact ⟨htimes, hps, hfs⟩

end TableState
