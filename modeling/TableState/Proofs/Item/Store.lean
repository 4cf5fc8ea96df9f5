import TableState.Store.Items
import TableState.Proofs.Item.Transact
import TableState.Proofs.Except

/-!
# The calls of the item backend

Every change of the item backend checks its request and then runs one transaction of
conditional writes on one of its two tables; marking files for garbage collection reads both
kinds of records first and then writes one mark at a time. A call returns the store it leaves.

A refused transaction returns its table as it was (`ItemTable.transact_refused`), and a check or
a read that fails comes before any write, so every call of the item backend that fails leaves
the store exactly as it was (`ItemStore.split_atomic`, `ItemStore.addFiles_atomic` and the lemmas
beside them). A call touches one of the two tables only, whether it succeeds or not
(`ItemStore.split_fileTable`, `ItemStore.addFiles_partitionTable`, ...).

When a call succeeds, its checks passed and its transaction committed; one lemma per call says
so (`ItemStore.split_eq_ok`, `ItemStore.addFiles_eq_ok`, ...). Later proofs cite these lemmas
and do not open the calls.
-/

set_option autoImplicit false

namespace TableState

namespace ItemStore

variable {s s' : ItemStore} {ops : List WriteOp} {refused : ItemStore → Nat → String → Error}

/-! ## One transaction -/

theorem transactPartitions_eq_ok :
    s.transactPartitions ops refused = (s', .ok ()) ↔
      ∃ t, s.partitionTable.transact ops = (.committed, t) ∧ s' = { s with partitionTable := t } := by
  unfold transactPartitions
  rcases ht : s.partitionTable.transact ops with ⟨_ | ⟨i, k⟩, t⟩ <;> simp [eq_comm]

theorem transactFiles_eq_ok :
    s.transactFiles ops refused = (s', .ok ()) ↔
      ∃ t, s.fileTable.transact ops = (.committed, t) ∧ s' = { s with fileTable := t } := by
  unfold transactFiles
  rcases ht : s.fileTable.transact ops with ⟨_ | ⟨i, k⟩, t⟩ <;> simp [eq_comm]

/-- A refused transaction on the partition table leaves the store as it was. -/
theorem transactPartitions_atomic : Except.Atomic s (s.transactPartitions ops refused) := by
  intro e h
  unfold transactPartitions at h ⊢
  rcases ht : s.partitionTable.transact ops with ⟨_ | ⟨i, k⟩, t⟩ <;> simp only [ht] at h ⊢
  · cases h
  · rw [ItemTable.transact_refused ht]

/-- A refused transaction on the file table leaves the store as it was. -/
theorem transactFiles_atomic : Except.Atomic s (s.transactFiles ops refused) := by
  intro e h
  unfold transactFiles at h ⊢
  rcases ht : s.fileTable.transact ops with ⟨_ | ⟨i, k⟩, t⟩ <;> simp only [ht] at h ⊢
  · cases h
  · rw [ItemTable.transact_refused ht]

@[simp] theorem fileTable_transactPartitions :
    (s.transactPartitions ops refused).1.fileTable = s.fileTable := by
  unfold transactPartitions
  split <;> rfl

@[simp] theorem partitionTable_transactFiles :
    (s.transactFiles ops refused).1.partitionTable = s.partitionTable := by
  unfold transactFiles
  split <;> rfl

/-! ## The partition changes -/

variable {ps : List Partition} {parent c1 c2 : Partition}

theorem initialisePartitions_eq_ok :
    s.initialisePartitions ps = (s', .ok ()) ↔ Partition.validateList ps = .ok () ∧
      ∃ t, s.partitionTable.transact (ps.map fun p => .put p.id p.toItem .absent) = (.committed, t) ∧
        s' = { s with partitionTable := t } := by
  unfold initialisePartitions
  rcases Partition.validateList ps with e | ⟨⟩ <;> simp [transactPartitions_eq_ok]

theorem initialisePartitions_atomic : Except.Atomic s (s.initialisePartitions ps) := by
  unfold initialisePartitions
  rcases Partition.validateList ps with e | ⟨⟩
  · exact Except.atomic_error s e
  · exact transactPartitions_atomic

@[simp] theorem initialisePartitions_fileTable : (s.initialisePartitions ps).1.fileTable = s.fileTable := by
  unfold initialisePartitions
  split <;> simp

theorem split_eq_ok :
    s.split parent c1 c2 = (s', .ok ()) ↔ Partition.validateSplit parent c1 c2 = .ok () ∧
      ∃ t, s.partitionTable.transact (splitWrites parent c1 c2) = (.committed, t) ∧
        s' = { s with partitionTable := t } := by
  unfold split
  rcases Partition.validateSplit parent c1 c2 with e | ⟨⟩ <;> simp [transactPartitions_eq_ok]

theorem split_atomic : Except.Atomic s (s.split parent c1 c2) := by
  unfold split
  rcases Partition.validateSplit parent c1 c2 with e | ⟨⟩
  · exact Except.atomic_error s e
  · exact transactPartitions_atomic

@[simp] theorem split_fileTable : (s.split parent c1 c2).1.fileTable = s.fileTable := by
  unfold split
  split <;> simp

/-! ## The file changes -/

variable {now : Int} {fs old new : List FileRecord} {job : String} {names : List String} {n : Nat}

theorem addFiles_eq_ok :
    s.addFiles now fs = (s', .ok ()) ↔ FileRecord.validateNew fs = .ok () ∧
      ∃ t, s.fileTable.transact (newFileWrites now fs) = (.committed, t) ∧
        s' = { s with fileTable := t } := by
  unfold addFiles
  rcases FileRecord.validateNew fs with e | ⟨⟩ <;> simp [transactFiles_eq_ok]

theorem addFiles_atomic : Except.Atomic s (s.addFiles now fs) := by
  unfold addFiles
  rcases FileRecord.validateNew fs with e | ⟨⟩
  · exact Except.atomic_error s e
  · exact transactFiles_atomic

@[simp] theorem addFiles_partitionTable : (s.addFiles now fs).1.partitionTable = s.partitionTable := by
  unfold addFiles
  split <;> simp

theorem replaceFiles_eq_ok :
    s.replaceFiles now old new = (s', .ok ()) ↔ FileRecord.validateExisting old = .ok () ∧
      FileRecord.validateNew new = .ok () ∧
      ∃ t, s.fileTable.transact (replaceWrites now old new) = (.committed, t) ∧
        s' = { s with fileTable := t } := by
  unfold replaceFiles
  rcases FileRecord.validateExisting old with e | ⟨⟩
  · simp
  · rcases FileRecord.validateNew new with e | ⟨⟩ <;> simp [transactFiles_eq_ok]

theorem replaceFiles_atomic : Except.Atomic s (s.replaceFiles now old new) := by
  unfold replaceFiles
  rcases FileRecord.validateExisting old with e | ⟨⟩
  · exact Except.atomic_error s e
  · rcases FileRecord.validateNew new with e | ⟨⟩
    · exact Except.atomic_error s e
    · exact transactFiles_atomic

@[simp] theorem replaceFiles_partitionTable :
    (s.replaceFiles now old new).1.partitionTable = s.partitionTable := by
  unfold replaceFiles
  split
  · rfl
  · split <;> simp

theorem assignJob_eq_ok :
    s.assignJob job fs = (s', .ok ()) ↔ job.isEmpty = false ∧
      FileRecord.validateExisting fs = .ok () ∧
      ∃ t, s.fileTable.transact (assignWrites job fs) = (.committed, t) ∧
        s' = { s with fileTable := t } := by
  unfold assignJob
  cases hjob : job.isEmpty
  · rcases FileRecord.validateExisting fs with e | ⟨⟩ <;> simp [transactFiles_eq_ok]
  · simp

theorem assignJob_atomic : Except.Atomic s (s.assignJob job fs) := by
  unfold assignJob
  split
  · exact Except.atomic_error s _
  · rcases FileRecord.validateExisting fs with e | ⟨⟩
    · exact Except.atomic_error s e
    · exact transactFiles_atomic

@[simp] theorem assignJob_partitionTable : (s.assignJob job fs).1.partitionTable = s.partitionTable := by
  unfold assignJob
  split
  · rfl
  · split <;> simp

/-- The records that marking files for garbage collection marks: the active lifecycle records
whose files no file-in-partition record names. -/
theorem markGcPending_eq_ok :
    s.markGcPending n now = (s', .ok ()) ↔ ∃ lifecycle fips, s.lifecycleRecords n = .ok lifecycle ∧
      s.fileInPartitionRecords n = .ok fips ∧
      s' = { s with
        fileTable := List.foldl (fun t f => (t.transact [markWrite now f]).2) s.fileTable
          (lifecycle.filter fun f => f.status == .active &&
            !(fips.map (·.filename)).contains f.filename) } := by
  unfold markGcPending
  rcases s.lifecycleRecords n with e | lifecycle
  · simp
  · rcases s.fileInPartitionRecords n with e | fips <;> simp [eq_comm]

theorem markGcPending_atomic : Except.Atomic s (s.markGcPending n now) := by
  unfold markGcPending
  rcases s.lifecycleRecords n with e | lifecycle
  · exact Except.atomic_error s e
  · rcases s.fileInPartitionRecords n with e | fips
    · exact Except.atomic_error s e
    · exact Except.atomic_ok _ _

@[simp] theorem markGcPending_partitionTable :
    (s.markGcPending n now).1.partitionTable = s.partitionTable := by
  unfold markGcPending
  split <;> rfl

theorem deleteLifecycle_eq_ok :
    s.deleteLifecycle names = (s', .ok ()) ↔
      ∃ t, s.fileTable.transact (names.map fun n => .delete (lifecycleKey n)
          (.attributeEquals "status" (.string FileStatus.gcPending.name))) = (.committed, t) ∧
        s' = { s with fileTable := t } :=
  transactFiles_eq_ok

theorem deleteLifecycle_atomic : Except.Atomic s (s.deleteLifecycle names) :=
  transactFiles_atomic

@[simp] theorem deleteLifecycle_partitionTable :
    (s.deleteLifecycle names).1.partitionTable = s.partitionTable :=
  partitionTable_transactFiles

end ItemStore

end TableState
