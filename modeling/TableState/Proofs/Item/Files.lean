import TableState.Proofs.Item.Store
import TableState.Proofs.Item.Format
import TableState.Proofs.File.Records

/-!
# Consistent file items

The item backend keeps each file record as an item of its file table: a file-in-partition record
under the key of its file and partition, a lifecycle record under the key of its file. The table
is consistent (`ItemFilesWF`) when every item is one of these two, stamped, keyed by the file
(and partition) it names, with no job on a lifecycle item, and when every file-in-partition item
names a file whose lifecycle item is active.

Every change of the file table keeps it consistent. The argument is the same for each: after a
committed transaction each key holds what its own writes left (`ItemTable.applyWrites_of_applyAll`),
so it suffices to know which writes go to which keys.

* New files are inserted only where no item is, so no lifecycle item is touched, and each new
  file-in-partition item comes with the lifecycle item of its file (`ItemFilesWF.newFileWrites`).
* Replacing files deletes file-in-partition items first, which never touches a lifecycle key.
* Assigning a job only sets the job of file-in-partition items.
* Marking for garbage collection changes one lifecycle item at a time, of a file that no
  file-in-partition item names.
* Deleting lifecycle items requires them to be pending garbage collection, which no lifecycle
  item of a referenced file is.
-/

set_option autoImplicit false

namespace TableState

/-- The item under `k` is the stamped file-in-partition record of file `f` in partition `p`. -/
structure FipItem (k : String) (i : Item) (f p : String) : Prop where
  key_eq : k = fileInPartitionKey f p
  fileName : i.get? "fileName" = some (.string f)
  partitionId : i.get? "partitionId" = some (.string p)
  status : i.get? "status" = some (.string FileStatus.fileInPartition.name)
  stamped : ∃ n, i.get? "lastStateStoreUpdateTime" = some (.number n)

/-- The item under `k` is the stamped lifecycle record of file `f`, without a job. -/
structure LifecycleItem (k : String) (i : Item) (f : String) : Prop where
  key_eq : k = lifecycleKey f
  fileName : i.get? "fileName" = some (.string f)
  status : i.get? "status" = some (.string FileStatus.active.name) ∨
    i.get? "status" = some (.string FileStatus.gcPending.name)
  jobless : i.get? "jobId" = none
  stamped : ∃ n, i.get? "lastStateStoreUpdateTime" = some (.number n)

/-- File `f` has an active lifecycle item in `t`. -/
def ActiveIn (t : ItemTable) (f : String) : Prop :=
  ∃ l, t.get? (lifecycleKey f) = some l ∧ l.get? "status" = some (.string FileStatus.active.name)

/-- The file table of the item backend is consistent: sorted, and every item is a
file-in-partition record of a file with an active lifecycle item, or a lifecycle record. -/
structure ItemFilesWF (t : ItemTable) : Prop where
  sorted : t.Sorted
  entry : ∀ k i, t.get? k = some i →
    (∃ f p, FipItem k i f p ∧ ActiveIn t f) ∨ ∃ f, LifecycleItem k i f

namespace ItemFilesWF

variable {t t' : ItemTable}

theorem empty : ItemFilesWF ItemTable.empty :=
  ⟨ItemTable.sorted_empty, fun k i h => by simp at h⟩

/-- A table is consistent when it is sorted, each of its items is one of a consistent table
or a consistent new one, and the lifecycle items of the files its file-in-partition items name
stay active. -/
theorem step (h : ItemFilesWF t) (hs : t'.Sorted)
    (hentry : ∀ k i, t'.get? k = some i → t.get? k = some i ∨
      (∃ f p, FipItem k i f p ∧ ActiveIn t' f) ∨ ∃ f, LifecycleItem k i f)
    (hactive : ∀ k i f p, t'.get? k = some i → FipItem k i f p → ActiveIn t f → ActiveIn t' f) :
    ItemFilesWF t' := by
  refine ⟨hs, fun k i hi => ?_⟩
  rcases hentry k i hi with hold | hnew | hnew
  · rcases h.entry k i hold with ⟨f, p, hfip, hact⟩ | hlife
    · exact .inl ⟨f, p, hfip, hactive k i f p hi hfip hact⟩
    · exact .inr hlife
  · exact .inl hnew
  · exact .inr hnew

end ItemFilesWF

/-! ## New files -/

namespace ItemStore

variable {now : Int} {fs : List FileRecord}

theorem mem_newFileWrites {op : WriteOp} (h : op ∈ newFileWrites now fs) :
    (∃ f ∈ fs, op = .put (fileInPartitionKey f.filename f.partitionId)
      (f.toFileInPartition now).toItem .absent) ∨
    ∃ l ∈ FileRecord.newLifecycleRecords fs now, op = .put (lifecycleKey l.filename) l.toItem .absent := by
  simp only [newFileWrites, List.mem_append, List.mem_map] at h
  rcases h with ⟨f, hf, rfl⟩ | ⟨l, hl, rfl⟩
  · exact .inl ⟨f, hf, rfl⟩
  · exact .inr ⟨l, hl, rfl⟩

theorem inserting_newFileWrites : ItemTable.Inserting (newFileWrites now fs) := by
  intro op hop
  rcases mem_newFileWrites hop with ⟨f, -, rfl⟩ | ⟨l, -, rfl⟩ <;>
    exact ⟨fun _ => rfl, fun _ => rfl⟩

/-- Once every write of new files has left its item, each file of the batch has an active
lifecycle item. -/
theorem activeIn_of_written {t' : ItemTable}
    (hw : ∀ op ∈ newFileWrites now fs, t'.get? op.key = op.apply none)
    {f : FileRecord} (hf : f ∈ fs) : ActiveIn t' f.filename := by
  rcases FileRecord.firstPerFilename_covers [] fs f hf with hnil | ⟨g, hg, hname⟩
  · cases hnil
  · have hl : g.toActiveLifecycle now ∈ FileRecord.newLifecycleRecords fs now :=
      List.mem_map_of_mem hg
    have hop : WriteOp.put (lifecycleKey (g.toActiveLifecycle now).filename)
        (g.toActiveLifecycle now).toItem .absent ∈ newFileWrites now fs :=
      List.mem_append_right _ (List.mem_map_of_mem hl)
    refine ⟨(g.toActiveLifecycle now).toItem, ?_, by simp [FileRecord.toActiveLifecycle]⟩
    rw [← hname]
    exact hw _ hop

/-- Once every write of new files has left its item, the item of each of them is a consistent
file-in-partition or lifecycle item. -/
theorem newFileWrites_item {t' : ItemTable}
    (hw : ∀ op ∈ newFileWrites now fs, t'.get? op.key = op.apply none)
    {op : WriteOp} (hop : op ∈ newFileWrites now fs) {i : Item} (hi : op.apply none = some i) :
    (∃ f p, FipItem op.key i f p ∧ ActiveIn t' f) ∨ ∃ f, LifecycleItem op.key i f := by
  rcases mem_newFileWrites hop with ⟨f, hf, rfl⟩ | ⟨l, hl, rfl⟩
  · cases hi
    refine .inl ⟨f.filename, f.partitionId, ⟨rfl, ?_, ?_, ?_, ?_⟩, activeIn_of_written hw hf⟩ <;>
      simp [FileRecord.toFileInPartition]
  · cases hi
    obtain ⟨g, -, rfl⟩ := List.mem_map.1 hl
    refine .inr ⟨g.filename, ⟨rfl, ?_, ?_, ?_, ?_⟩⟩ <;>
      simp [FileRecord.toActiveLifecycle]

/-- The removals of file-in-partition items that a replacement starts with. -/
theorem removing_replaced (old : List FileRecord) :
    ItemTable.Removing (old.map fun f =>
      .delete (fileInPartitionKey f.filename f.partitionId) .present) := by
  intro op hop
  obtain ⟨f, -, rfl⟩ := List.mem_map.1 hop
  exact ⟨rfl, fun _ => rfl⟩

end ItemStore

namespace ItemFilesWF

variable {t t' : ItemTable} {now : Int}

/-- Writing new files keeps the file table consistent. -/
theorem newFileWrites (h : ItemFilesWF t) {fs : List FileRecord}
    (ha : t.applyAll 0 (ItemStore.newFileWrites now fs) = .ok t') : ItemFilesWF t' := by
  have hins : ItemTable.Inserting (ItemStore.newFileWrites now fs) :=
    ItemStore.inserting_newFileWrites
  have hw := fun op (hop : op ∈ ItemStore.newFileWrites now fs) =>
    ItemTable.get?_of_applyAll_inserting_mem hins ha hop
  refine h.step (h.sorted.applyAll ha) ?_ ?_
  · intro k i hi
    rcases ItemTable.get?_of_applyAll_inserting hins ha k with hsame | ⟨op, hop, rfl, -, hres⟩
    · exact .inl (hsame ▸ hi)
    · exact .inr (ItemStore.newFileWrites_item hw hop (hres ▸ hi))
  · -- a lifecycle item that was there is never written over
    intro k i f p _ _ ⟨l, hl, hst⟩
    rcases ItemTable.get?_of_applyAll_inserting hins ha (lifecycleKey f) with
      hsame | ⟨_, _, _, hnone, _⟩
    · exact ⟨l, hsame.trans hl, hst⟩
    · rw [hl] at hnone
      cases hnone

/-- Removing file-in-partition records and writing new files keeps the file table consistent. -/
theorem replaceWrites (h : ItemFilesWF t) {old new : List FileRecord}
    (ha : t.applyAll 0 ((old.map fun f =>
      .delete (fileInPartitionKey f.filename f.partitionId) .present) ++
        ItemStore.newFileWrites now new) = .ok t') : ItemFilesWF t' := by
  have hins : ItemTable.Inserting (ItemStore.newFileWrites now new) :=
    ItemStore.inserting_newFileWrites
  have hrem := ItemStore.removing_replaced old
  have hw := fun op (hop : op ∈ ItemStore.newFileWrites now new) =>
    ItemTable.get?_of_applyAll_replacing_mem hins ha hop
  refine h.step (h.sorted.applyAll ha) ?_ ?_
  · intro k i hi
    rcases ItemTable.get?_of_applyAll_replacing hrem hins ha k with
      hsame | hnone | ⟨op, hop, rfl, hres⟩
    · exact .inl (hsame ▸ hi)
    · rw [hnone] at hi
      cases hi
    · exact .inr (ItemStore.newFileWrites_item hw hop (hres ▸ hi))
  · -- the removals go to file-in-partition keys only
    intro k i f p _ _ ⟨l, hl, hst⟩
    refine ⟨l, ItemTable.get?_of_applyAll_replacing_some hins ha ?_ hl, hst⟩
    intro op hop
    obtain ⟨g, -, rfl⟩ := List.mem_map.1 hop
    exact fileInPartitionKey_ne_lifecycleKey _ _ _

/-- The writes assigning a job set only the job of file-in-partition items. -/
theorem settingOnly_assign (job : String) (fs : List FileRecord) :
    ItemTable.SettingOnly "jobId" (fs.map fun f =>
      .update (fileInPartitionKey f.filename f.partitionId) (Item.empty.set "jobId" (.string job)) []
        (.attributeMissing "jobId")) := by
  intro op hop
  obtain ⟨f, -, rfl⟩ := List.mem_map.1 hop
  refine ⟨_, _, _, rfl, Item.sorted_empty.set _ _, fun m hm => ?_⟩
  simp [hm]

/-- Assigning a job keeps the file table consistent: it changes only the job of
file-in-partition items, and no lifecycle item. -/
theorem assignWrites (h : ItemFilesWF t) {job : String} {fs : List FileRecord}
    (ha : t.applyAll 0 (fs.map fun f =>
      .update (fileInPartitionKey f.filename f.partitionId) (Item.empty.set "jobId" (.string job)) []
        (.attributeMissing "jobId")) = .ok t') : ItemFilesWF t' := by
  have hset := settingOnly_assign job fs
  -- no write goes to a lifecycle key
  have huntouched : ∀ g, t'.get? (lifecycleKey g) = t.get? (lifecycleKey g) := fun g =>
    ItemTable.get?_of_applyAll_untouched ha fun op hop => by
      obtain ⟨f, -, rfl⟩ := List.mem_map.1 hop
      exact fileInPartitionKey_ne_lifecycleKey _ _ _
  have hactive : ∀ f, ActiveIn t f → ActiveIn t' f := fun f ⟨l, hl, hst⟩ =>
    ⟨l, (huntouched f).trans hl, hst⟩
  refine h.step (h.sorted.applyAll ha) ?_ fun _ _ f _ _ _ => hactive f
  intro k i' hi'
  obtain ⟨i, hi, hagree⟩ := ItemTable.get?_of_applyAll_settingOnly hset ha k hi'
  rcases h.entry k i hi with ⟨f, p, hfip, hact⟩ | ⟨f, hlife⟩
  · refine .inr (.inl ⟨f, p, ⟨hfip.key_eq, ?_, ?_, ?_, ?_⟩, hactive f hact⟩)
    · rw [hagree _ (by decide)]
      exact hfip.fileName
    · rw [hagree _ (by decide)]
      exact hfip.partitionId
    · rw [hagree _ (by decide)]
      exact hfip.status
    · rw [hagree _ (by decide)]
      exact hfip.stamped
  · refine .inl ?_
    rw [← hi', hlife.key_eq, huntouched, ← hlife.key_eq]

/-- The deletions of lifecycle items pending garbage collection. -/
theorem removing_lifecycle (names : List String) :
    ItemTable.Removing (names.map fun n => .delete (lifecycleKey n)
      (.attributeEquals "status" (.string FileStatus.gcPending.name))) := by
  intro op hop
  obtain ⟨n, -, rfl⟩ := List.mem_map.1 hop
  exact ⟨rfl, fun _ => rfl⟩

/-- Deleting lifecycle items pending garbage collection keeps the file table consistent: an
active lifecycle item is never deleted. -/
theorem deleteWrites (h : ItemFilesWF t) {names : List String}
    (ha : t.applyAll 0 (names.map fun n => .delete (lifecycleKey n)
      (.attributeEquals "status" (.string FileStatus.gcPending.name))) = .ok t') :
    ItemFilesWF t' := by
  have hrem := removing_lifecycle names
  refine h.step (h.sorted.applyAll ha) ?_ ?_
  · intro k i hi
    rcases ItemTable.get?_of_applyAll_removing hrem ha k with hsame | ⟨_, _, _, _, hnone⟩
    · exact .inl (hsame ▸ hi)
    · rw [hnone] at hi
      cases hi
  · intro k i f p _ _ ⟨l, hl, hst⟩
    rcases ItemTable.get?_of_applyAll_removing hrem ha (lifecycleKey f) with
      hsame | ⟨op, hop, -, hadm, -⟩
    · exact ⟨l, hsame.trans hl, hst⟩
    · -- a deletion admitted by an active item would need it to be pending
      obtain ⟨n, -, rfl⟩ := List.mem_map.1 hop
      rw [hl] at hadm
      simp [ItemTable.admitsItem, WriteOp.condition, Condition.holds, hst,
        FileStatus.name] at hadm

/-- Marking the lifecycle item of a file that no file-in-partition item names keeps the file
table consistent, and changes no other item. -/
theorem markWrite (h : ItemFilesWF t) {g : FileRecord}
    (hunref : ∀ k i f p, t.get? k = some i → FipItem k i f p → f ≠ g.filename) :
    ItemFilesWF (t.transact [ItemStore.markWrite now g]).2 ∧
      ∀ k, k ≠ lifecycleKey g.filename →
        (t.transact [ItemStore.markWrite now g]).2.get? k = t.get? k := by
  generalize ht1 : (t.transact [ItemStore.markWrite now g]).2 = t1
  rcases ItemTable.transact_cases t [ItemStore.markWrite now g] with ⟨-, ha⟩ | hsame
  · rw [ht1, ItemTable.applyAll_cons] at ha
    split at ha
    · rename_i hadm
      rw [ItemTable.applyAll_nil] at ha
      cases ha
      have hkey : (ItemStore.markWrite now g).key = lifecycleKey g.filename := rfl
      simp only [ItemTable.admits_eq, hkey] at hadm
      rw [hkey]
      -- the marked item is a stored active lifecycle item of the file
      generalize hcur : t.get? (lifecycleKey g.filename) = cur at hadm ⊢
      cases cur with
      | none => simp [ItemStore.markWrite, ItemTable.admitsItem] at hadm
      | some l =>
        have hframe : ∀ k, k ≠ lifecycleKey g.filename →
            (t.store (lifecycleKey g.filename)
              ((ItemStore.markWrite now g).apply (some l))).get? k = t.get? k := fun k hk => by
          rw [ItemTable.get?_store, if_neg hk]
        have hlife : ∃ f, LifecycleItem (lifecycleKey g.filename) l f := by
          rcases h.entry _ l hcur with ⟨_, _, hfip, _⟩ | hl
          · exact absurd hfip.key_eq.symm (fileInPartitionKey_ne_lifecycleKey _ _ _)
          · exact hl
        obtain ⟨f, hl⟩ := hlife
        have hs : ((Item.empty.set "status" (.string FileStatus.gcPending.name)).set
            "lastStateStoreUpdateTime" (.number (Int64.ofInt now))).Sorted :=
          (Item.sorted_empty.set _ _).set _ _
        refine ⟨h.step (h.sorted.store _ _) ?_ ?_, hframe⟩
        · intro k i hi
          by_cases hk : k = lifecycleKey g.filename
          · subst hk
            simp only [ItemStore.markWrite, WriteOp.apply, Option.map_some,
              List.foldl_nil, ItemTable.get?_store, if_true, Option.some.injEq] at hi
            subst hi
            refine .inr (.inr ⟨f, hl.key_eq, ?_, .inr ?_, ?_, ⟨Int64.ofInt now, ?_⟩⟩) <;>
              simp [Item.get?_merge _ hs, hl.fileName, hl.jobless]
          · exact .inl ((hframe k hk).symm.trans hi)
        · intro k i f' p hi hfip hact
          have hk : k ≠ lifecycleKey g.filename :=
            hfip.key_eq ▸ fileInPartitionKey_ne_lifecycleKey _ _ _
          have hne : f' ≠ g.filename := hunref k i f' p ((hframe k hk).symm.trans hi) hfip
          obtain ⟨l', hl', hst⟩ := hact
          exact ⟨l', (hframe _ fun he => hne (lifecycleKey_inj he)).trans hl', hst⟩
    · cases ha
  · rw [ht1] at hsame
    subst hsame
    exact ⟨h, fun _ _ => rfl⟩

/-- Marking, one after another, the lifecycle items of files that no file-in-partition item
names keeps the file table consistent. -/
theorem foldl_markWrite (names : List String) :
    ∀ (gs : List FileRecord) {t : ItemTable}, ItemFilesWF t →
      (∀ k i f p, t.get? k = some i → FipItem k i f p → f ∈ names) →
      (∀ g ∈ gs, g.filename ∉ names) →
      ItemFilesWF (gs.foldl (fun t g => (t.transact [ItemStore.markWrite now g]).2) t)
  | [], _, h, _, _ => h
  | g :: gs, t, h, hnames, hgs => by
    have hg := hgs g List.mem_cons_self
    obtain ⟨h₁, hframe⟩ : ItemFilesWF (t.transact [ItemStore.markWrite now g]).2 ∧ _ :=
      h.markWrite fun k i f p hi hfip he => hg (he ▸ hnames k i f p hi hfip)
    refine foldl_markWrite names gs h₁ ?_ fun g' hg' => hgs g' (List.mem_cons_of_mem _ hg')
    -- the file-in-partition items are those that were there
    intro k i f p hi hfip
    have hk : k ≠ lifecycleKey g.filename :=
      hfip.key_eq ▸ fileInPartitionKey_ne_lifecycleKey _ _ _
    rw [hframe k hk] at hi
    exact hnames k i f p hi hfip

end ItemFilesWF

end TableState
