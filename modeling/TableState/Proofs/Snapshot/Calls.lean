import TableState.Store.SnapshotTable
import TableState.Proofs.Snapshot.Series

/-!
# The calls of the snapshot backend

Every change of the snapshot backend checks its request and then initialises or updates one of
the table's two series, with the list change of the call. One lemma per call says what a call
that succeeds did: its checks passed and its series committed (`SnapshotTable.split_eq_ok`,
`SnapshotTable.addFiles_eq_ok`, ...).

Every call checks its request and then makes one call of one of the two series
(`SnapshotTable.CallsSeries`, one lemma per call). A check that fails comes before any write, and
a series that fails leaves the pointers and at most prunes the stores
(`SnapshotState.LeftAfterFailure`), so every call of the snapshot backend that fails does the
same (`SnapshotTable.split_error` and the lemmas beside it).
-/

set_option autoImplicit false

namespace TableState

namespace SnapshotTable

variable {t : SnapshotTable} {st st' : SnapshotState} {ps : List Partition}
  {parent c1 c2 : Partition} {now : Int} {fs old new : List FileRecord} {job : String}
  {names : List String}

/-! ## Calls that succeed -/

theorem initialisePartitions_eq_ok :
    t.initialisePartitions st ps = (st', .ok ()) ↔
      Partition.validateList ps = .ok () ∧ t.partitions.initialise st ps = (st', .ok ()) := by
  unfold initialisePartitions
  rcases Partition.validateList ps with e | ⟨⟩ <;> simp

theorem split_eq_ok :
    t.split st parent c1 c2 = (st', .ok ()) ↔ Partition.validateSplit parent c1 c2 = .ok () ∧
      t.partitions.update st (fun ps => some <$> Partition.applySplit ps parent c1 c2) =
        (st', .ok ()) := by
  unfold split
  rcases Partition.validateSplit parent c1 c2 with e | ⟨⟩ <;> simp

theorem addFiles_eq_ok :
    t.addFiles st now fs = (st', .ok ()) ↔ FileRecord.validateNew fs = .ok () ∧
      t.files.update st (fun rs => some <$> FileRecord.insertFiles rs fs now) = (st', .ok ()) := by
  unfold addFiles
  rcases FileRecord.validateNew fs with e | ⟨⟩ <;> simp

theorem replaceFiles_eq_ok :
    t.replaceFiles st now old new = (st', .ok ()) ↔ FileRecord.validateExisting old = .ok () ∧
      FileRecord.validateNew new = .ok () ∧
      t.files.update st (fun rs => do
        let rs ← FileRecord.removeRecords rs old
        some <$> FileRecord.insertFiles rs new now) = (st', .ok ()) := by
  unfold replaceFiles
  rcases FileRecord.validateExisting old with e | ⟨⟩
  · simp
  · rcases FileRecord.validateNew new with e | ⟨⟩ <;> simp

theorem assignJob_eq_ok :
    t.assignJob st job fs = (st', .ok ()) ↔ job.isEmpty = false ∧
      FileRecord.validateExisting fs = .ok () ∧
      t.files.update st (fun rs => some <$> FileRecord.claim rs job fs) = (st', .ok ()) := by
  unfold assignJob
  cases job.isEmpty
  · rcases FileRecord.validateExisting fs with e | ⟨⟩ <;> simp
  · simp

/-! ## What a call does -/

/-- A call of a snapshot table fails a check and leaves the state, or makes one call of one of the
table's two series: an initialisation or an update. -/
def CallsSeries (t : SnapshotTable) (st : SnapshotState) (r : SnapshotState × Except Error Unit) :
    Prop :=
  (∃ e, r = (st, .error e)) ∨ (∃ rs, r = t.partitions.initialise st rs) ∨
    (∃ change, r = t.partitions.update st change) ∨ (∃ rs, r = t.files.initialise st rs) ∨
    (∃ change, r = t.files.update st change)

theorem initialisePartitions_calls : t.CallsSeries st (t.initialisePartitions st ps) := by
  unfold initialisePartitions
  rcases Partition.validateList ps with e | ⟨⟩
  · exact .inl ⟨e, rfl⟩
  · exact .inr (.inl ⟨ps, rfl⟩)

theorem initialiseFiles_calls : t.CallsSeries st (t.initialiseFiles st) :=
  .inr (.inr (.inr (.inl ⟨[], rfl⟩)))

theorem split_calls : t.CallsSeries st (t.split st parent c1 c2) := by
  unfold split
  rcases Partition.validateSplit parent c1 c2 with e | ⟨⟩
  · exact .inl ⟨e, rfl⟩
  · exact .inr (.inr (.inl ⟨_, rfl⟩))

theorem addFiles_calls : t.CallsSeries st (t.addFiles st now fs) := by
  unfold addFiles
  rcases FileRecord.validateNew fs with e | ⟨⟩
  · exact .inl ⟨e, rfl⟩
  · exact .inr (.inr (.inr (.inr ⟨_, rfl⟩)))

theorem replaceFiles_calls : t.CallsSeries st (t.replaceFiles st now old new) := by
  unfold replaceFiles
  rcases FileRecord.validateExisting old with e | ⟨⟩
  · exact .inl ⟨e, rfl⟩
  · rcases FileRecord.validateNew new with e | ⟨⟩
    · exact .inl ⟨e, rfl⟩
    · exact .inr (.inr (.inr (.inr ⟨_, rfl⟩)))

theorem assignJob_calls : t.CallsSeries st (t.assignJob st job fs) := by
  unfold assignJob
  split
  · exact .inl ⟨_, rfl⟩
  · rcases FileRecord.validateExisting fs with e | ⟨⟩
    · exact .inl ⟨e, rfl⟩
    · exact .inr (.inr (.inr (.inr ⟨_, rfl⟩)))

theorem markGcPending_calls : t.CallsSeries st (t.markGcPending st now) :=
  .inr (.inr (.inr (.inr ⟨_, rfl⟩)))

theorem deleteLifecycle_calls : t.CallsSeries st (t.deleteLifecycle st names) :=
  .inr (.inr (.inr (.inr ⟨_, rfl⟩)))

/-! ## Calls that fail -/

/-- A call that fails leaves the pointers and at most prunes the stores. -/
theorem CallsSeries.leftAfterFailure {r : SnapshotState × Except Error Unit}
    (h : t.CallsSeries st r) : st.LeftAfterFailure r := by
  rcases h with ⟨e, rfl⟩ | ⟨rs, rfl⟩ | ⟨change, rfl⟩ | ⟨rs, rfl⟩ | ⟨change, rfl⟩
  · exact SnapshotState.leftAfterFailure_of_atomic (Except.atomic_error _ _)
  · exact SnapshotSeries.initialise_error
  · exact SnapshotSeries.update_error
  · exact SnapshotSeries.initialise_error
  · exact SnapshotSeries.update_error

theorem initialisePartitions_error : st.LeftAfterFailure (t.initialisePartitions st ps) :=
  initialisePartitions_calls.leftAfterFailure

theorem initialiseFiles_error : st.LeftAfterFailure (t.initialiseFiles st) :=
  initialiseFiles_calls.leftAfterFailure

theorem split_error : st.LeftAfterFailure (t.split st parent c1 c2) :=
  split_calls.leftAfterFailure

theorem addFiles_error : st.LeftAfterFailure (t.addFiles st now fs) :=
  addFiles_calls.leftAfterFailure

theorem replaceFiles_error : st.LeftAfterFailure (t.replaceFiles st now old new) :=
  replaceFiles_calls.leftAfterFailure

theorem assignJob_error : st.LeftAfterFailure (t.assignJob st job fs) :=
  assignJob_calls.leftAfterFailure

theorem markGcPending_error : st.LeftAfterFailure (t.markGcPending st now) :=
  markGcPending_calls.leftAfterFailure

theorem deleteLifecycle_error : st.LeftAfterFailure (t.deleteLifecycle st names) :=
  deleteLifecycle_calls.leftAfterFailure

end SnapshotTable

end TableState
