import TableState.Proofs.Session.Reachable
import TableState.Proofs.Item.FileReads
import TableState.Proofs.Snapshot.Files

/-!
# Consistent file records in every reachable session

Every reachable session keeps the file records of all its tables consistent
(`Session.Reachable.fileRecords_wf`): whenever the file-in-partition records and the lifecycle
records of a kept table can be read, at most one file-in-partition record names each file and
partition, at most one lifecycle record names each file, every file a partition references has
an active lifecycle record (so no file pending garbage collection is still referenced), no
lifecycle record has a job, and every record is stamped (`FileRecordsWF`).

The invariant behind it (`Session.FilesWF`) is about the stores themselves: the file table of
every item backend is consistent (`ItemFilesWF`), every snapshot table stores records in their
own formats, and every record list in the shared object stores is consistent
(`ObjectStores.FilesWF`). One change of a table keeps it (`TableStore.changePart_filesWF`), so
it is an invariant of the stores of sessions (`Session.filesWF_invariant`).
-/

set_option autoImplicit false

namespace TableState

namespace TableStore

/-- The store of a table keeps its own part of the file records consistent: the file table of
the item backend, or the formats of the snapshot backend. -/
def FilesWF (t : TableStore) : Prop :=
  match t.backend with
  | .items s => ItemFilesWF s.fileTable
  | .snapshot sn _ => sn.Formatted

variable {t t' : TableStore} {o o' : ObjectStores} {now : Int}

/-- Every call of a table's store, whether it succeeds or fails, keeps its file records and those
of the object stores consistent. -/
theorem changePart_filesWF (ht : t.FilesWF) (ho : o.FilesWF) (c : TableChange) :
    (t.changePart o now c).1.1.FilesWF ∧ (t.changePart o now c).1.2.FilesWF := by
  unfold FilesWF at ht
  unfold changePart
  cases hb : t.backend with
  | items s =>
    rw [hb] at ht
    simp only
    -- the item backend leaves the object stores alone
    have hdone : ∀ {r : ItemStore × Except Error Unit}, ItemFilesWF r.1.fileTable →
        ({ t with backend := .items r.1 } : TableStore).FilesWF ∧ o.FilesWF :=
      fun hr => ⟨hr, ho⟩
    cases c with
    | initialise => exact hdone (by rw [ItemStore.initialisePartitions_fileTable]; exact ht)
    | initialiseWith ps => exact hdone (by rw [ItemStore.initialisePartitions_fileTable]; exact ht)
    | initialiseFiles => exact ⟨by simp only [FilesWF, hb]; exact ht, ho⟩
    | split parent c1 c2 => exact hdone (by rw [ItemStore.split_fileTable]; exact ht)
    | addFiles fs => exact hdone (ItemStore.addFiles_filesWF ht)
    | replaceFiles old new => exact hdone (ItemStore.replaceFiles_filesWF ht)
    | assignJob job fs => exact hdone (ItemStore.assignJob_filesWF ht)
    | markGcPending => exact hdone (ItemStore.markGcPending_filesWF ht)
    | deleteLifecycle names => exact hdone (ItemStore.deleteLifecycle_filesWF ht)
  | snapshot sn p =>
    rw [hb] at ht
    simp only
    -- the snapshot backend keeps its series and changes the object stores
    have hdone : ∀ {r : SnapshotState × Except Error Unit}, r.1.objects.FilesWF →
        ({ t with backend := .snapshot sn r.1.pointers } : TableStore).FilesWF ∧
          r.1.objects.FilesWF :=
      fun hr => ⟨ht, hr⟩
    cases c with
    | initialise => exact hdone (SnapshotTable.initialisePartitions_filesWF ht ho)
    | initialiseWith ps => exact hdone (SnapshotTable.initialisePartitions_filesWF ht ho)
    | initialiseFiles => exact hdone (SnapshotTable.initialiseFiles_filesWF ht ho)
    | split parent c1 c2 => exact hdone (SnapshotTable.split_filesWF ht ho)
    | addFiles fs => exact hdone (SnapshotTable.addFiles_filesWF ht ho)
    | replaceFiles old new => exact hdone (SnapshotTable.replaceFiles_filesWF ht ho)
    | assignJob job fs => exact hdone (SnapshotTable.assignJob_filesWF ht ho)
    | markGcPending => exact hdone (SnapshotTable.markGcPending_filesWF ht ho)
    | deleteLifecycle names => exact hdone (SnapshotTable.deleteLifecycle_filesWF ht ho)

/-- A change of a table, in one call or in two, keeps its file records and those of the object
stores consistent. -/
theorem change_filesWF (ht : t.FilesWF) (ho : o.FilesWF) (c : TableChange) :
    (t.change o now c).1.1.FilesWF ∧ (t.change o now c).1.2.FilesWF :=
  change_keeps (R := fun t o => t.FilesWF ∧ o.FilesWF) (fun c h => changePart_filesWF h.1 h.2 c)
    ⟨ht, ho⟩ c

/-- A new store keeps its file records consistent: its item tables are empty, or its series
are those of a base location. -/
theorem filesWF_of_build {p : Provider} {props : TableProperties} (h : p.build props = .ok t) :
    t.FilesWF := by
  obtain ⟨b, rfl, hb⟩ := Provider.build_eq_ok h
  rcases hb with rfl | ⟨base, rfl⟩
  · exact ItemFilesWF.empty
  · exact SnapshotTable.formatted_ofBase .standard base p.maxAttempts

end TableStore

namespace Session

/-- Every store of the session and the shared object stores keep their file records
consistent. -/
structure FilesWF (s : Session) : Prop where
  objects : s.objects.FilesWF
  stores : ∀ t ∈ s.provider.tables, t.FilesWF

variable {s : Session}

/-- Consistent file records are an invariant of the stores: a change keeps the changed table's
records and the objects consistent, and the other tables' records are their own. -/
theorem filesWF_invariant : StoresInvariant ObjectStores.FilesWF fun t _ => t.FilesWF where
  empty := ObjectStores.FilesWF.empty
  build _ _ hb _ := TableStore.filesWF_of_build hb
  change _ c ht ho := TableStore.change_filesWF ht ho c
  frame _ _ _ _ hu := hu

theorem Reachable.filesWF (h : s.Reachable) : s.FilesWF := by
  obtain ⟨ho, hstores⟩ := filesWF_invariant.reachable h
  exact ⟨ho, hstores⟩

/-- **Consistent file records.** In every reachable session, the file-in-partition records and
the lifecycle records of a kept table, whenever both can be read, name each file and partition in
at most one file-in-partition record and each file in at most one lifecycle record; every file a
partition references has an active lifecycle record, so no file pending garbage collection is
still referenced; no lifecycle record has a job; and every record is stamped with the time of
its last change. -/
theorem Reachable.fileRecords_wf (hs : s.Reachable) {t : TableStore}
    (ht : t ∈ s.provider.tables) {fips lcs : List FileRecord}
    (hf : t.fileInPartitionRecords s.objects = .ok fips)
    (hl : t.lifecycleRecords s.objects = .ok lcs) : FileRecordsWF fips lcs := by
  have hw := hs.filesWF
  have htw := hw.stores t ht
  unfold TableStore.FilesWF at htw
  cases hb : t.backend with
  | items store =>
    simp only [TableStore.fileInPartitionRecords, TableStore.lifecycleRecords, hb] at hf hl
    rw [hb] at htw
    exact htw.records_wf hf hl
  | snapshot sn p =>
    simp only [TableStore.fileInPartitionRecords, TableStore.lifecycleRecords, hb] at hf hl
    rw [hb] at htw
    -- both reads read the same record list
    obtain ⟨rs, hrs, rfl⟩ := Except.map_eq_ok.1 hf
    obtain ⟨rs', hrs', rfl⟩ := Except.map_eq_ok.1 hl
    obtain ⟨⟨r, rs₁⟩, hread, rfl⟩ := Except.map_eq_ok.1 hrs
    obtain ⟨⟨r', rs₂⟩, hread', rfl⟩ := Except.map_eq_ok.1 hrs'
    rw [hread] at hread'
    cases hread'
    exact SnapshotSeries.read_files_wf htw.2 hw.objects hread

/-- One file added to a freshly initialised table of a fresh session: the table reads one
file-in-partition record and one active lifecycle record for it, both stamped with the session's
time. -/
theorem one_file_records_wf :
    let s := ((((Session.start 0).step (.openTable (.new "files" (.single "key" .long)))).2.step
      (.onTable none (.change .initialise))).2.step (.onTable none
        (.change (.addFiles [⟨"a.parquet", "root", 10, none, none, .active, none, none⟩])))).2
    let fip : FileRecord := ⟨"a.parquet", "root", 10, none, none, .fileInPartition, none, some 0⟩
    let lc : FileRecord := ⟨"a.parquet", "root", 10, none, none, .active, none, some 0⟩
    s.Reachable ∧ ∃ t ∈ s.provider.tables, t.fileInPartitionRecords s.objects = .ok [fip] ∧
      t.lifecycleRecords s.objects = .ok [lc] ∧ FileRecordsWF [fip] [lc] := by
  intro s fip lc
  have hs : s.Reachable := (((Reachable.start 0).step _).step _).step _
  have hreads : s.provider.tables.map (fun t =>
      (t.fileInPartitionRecords s.objects, t.lifecycleRecords s.objects)) =
      [(.ok [fip], .ok [lc])] := by
    decide +kernel
  obtain ⟨t, hts, hread⟩ := List.map_eq_singleton_iff.1 hreads
  obtain ⟨hf, hl⟩ := Prod.mk.inj hread
  have ht : t ∈ s.provider.tables := hts ▸ List.mem_singleton_self t
  exact ⟨hs, t, ht, hf, hl, hs.fileRecords_wf ht hf hl⟩

end Session

end TableState
