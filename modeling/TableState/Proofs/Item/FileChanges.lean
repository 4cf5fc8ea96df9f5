import TableState.Proofs.Item.FileItems
import TableState.Proofs.Partition.SplitOutcome
import TableState.Proofs.Item.FileReads

/-!
# File changes of the item backend

The item backend changes its file records by one transaction of conditional writes: puts where no
item is for new files, deletes where an item is for replaced records, updates where no job is set
for a claim. The first write that the table refuses names the error. Over a file table that is a
view of the records read (`ItemTable.FilesView`), each of these changes has an outcome of the
reference semantics (`FileOutcome`) on the records read, and ends as that outcome says: with its
error, or with a table that is a view of exactly the outcome's records
(`ItemStore.addFiles_outcome`, `ItemStore.replaceFiles_outcome`, `ItemStore.assignJob_outcome`).

The view needs the new records to read back: their counts below 2^63, and the time they are
stamped with held by a 64-bit integer.

The writes of a batch go to distinct keys (`FileRecord.itemKeys_nodup`), so the first refused
write is refused by the table as it was; an update of the job, or of a lifecycle record's status,
leaves the item of the updated record (`FileRecord.toItem_merge_jobId`,
`FileRecord.toItem_merge_mark`).
-/

set_option autoImplicit false

namespace TableState

namespace FileRecord

/-- The records that new files create at `now`: a file-in-partition record per file, then an
active lifecycle record per filename. -/
def newRecords (fs : List FileRecord) (now : Int) : List FileRecord :=
  fs.map (·.toFileInPartition now) ++ newLifecycleRecords fs now

/-- A record marked as pending garbage collection at `now`. -/
def markedAt (now : Int) (r : FileRecord) : FileRecord :=
  { r with status := .gcPending, lastUpdateTime := some now }

/-- The record that marking the file of `f` changes: the active lifecycle record of the file. -/
def marks (f r : FileRecord) : Bool :=
  r.isLifecycle && r.filename == f.filename && r.status == .active

/-! ## Checked batches -/

theorem validateIdentifier_nul {id : String} (h : validateIdentifier id = .ok ()) :
    '\x00' ∉ id.toList := by
  unfold validateIdentifier at h
  split at h
  · cases h
  · rename_i hc
    simpa using hc

theorem validateOne_nulFree {f : FileRecord} (h : validateOne f = .ok ()) : f.NulFree := by
  -- neither id is empty, since the check would have failed there
  have hfn : f.filename.isEmpty = false := by
    cases hc : f.filename.isEmpty
    · rfl
    · simp [validateOne, hc] at h
  have hpn : f.partitionId.isEmpty = false := by
    cases hc : f.partitionId.isEmpty
    · rfl
    · simp [validateOne, hfn, hc] at h
  simp only [validateOne, hfn, hpn, Bool.false_eq_true, if_false, Except.bind_eq_ok] at h
  obtain ⟨_, hf, hp⟩ := h
  exact ⟨validateIdentifier_nul hf, validateIdentifier_nul hp⟩

/-- Every file of a checked batch is free of NUL. -/
theorem validateBatch_nulFree {repeated : FileRecord → Error} :
    ∀ {seen : List (String × String)} {fs : List FileRecord},
      validateBatch repeated seen fs = .ok () → ∀ f ∈ fs, f.NulFree
  | _, [], _ => by simp
  | seen, f :: fs, h => by
    simp only [validateBatch, Except.bind_eq_ok] at h
    obtain ⟨_, hone, h⟩ := h
    split at h
    · cases h
    · intro g hg
      rcases List.mem_cons.1 hg with rfl | hg
      · exact validateOne_nulFree hone
      · exact validateBatch_nulFree h g hg

/-! ## Keys of record lists -/

/-- File-in-partition records of distinct pairs and lifecycle records of distinct files, all
without NUL, have distinct keys. -/
theorem itemKeys_nodup {fips lcs : List FileRecord}
    (hf : ∀ r ∈ fips, r.isLifecycle = false ∧ r.NulFree) (hl : ∀ r ∈ lcs, r.isLifecycle = true)
    (hpairs : (fips.map pair).Nodup) (hnames : (lcs.map filename).Nodup) :
    ((fips ++ lcs).map itemKey).Nodup := by
  rw [List.map_append, List.nodup_append]
  refine ⟨?_, ?_, ?_⟩
  · refine List.Nodup.map_on (fun x hx y hy he => ?_) hpairs.of_map
    exact List.inj_on_of_nodup_map hpairs hx hy
      ((itemKey_eq_iff_pair_eq (hf x hx).2 (hf x hx).1 (hf y hy).1).1 he)
  · refine List.Nodup.map_on (fun x hx y hy he => ?_) hnames.of_map
    have hyk : y.itemKey = lifecycleKey y.filename := by simp [itemKey, hl y hy]
    exact List.inj_on_of_nodup_map hnames hx hy ((itemKey_eq_lifecycleKey_iff x _).1 (he.trans hyk)).2
  · -- a file-in-partition key is never a lifecycle key
    intro a ha b hb hab
    obtain ⟨x, hx, rfl⟩ := List.mem_map.1 ha
    obtain ⟨y, hy, rfl⟩ := List.mem_map.1 hb
    have hy' : y.itemKey = lifecycleKey y.filename := by simp [itemKey, hl y hy]
    have := ((itemKey_eq_lifecycleKey_iff x _).1 (hab.trans hy')).1
    rw [(hf x hx).1] at this
    cases this

/-- The records of a checked batch of new files have distinct keys. -/
theorem newRecords_keys_nodup {fs : List FileRecord} (hv : validateNew fs = .ok ()) (now : Int) :
    ((newRecords fs now).map itemKey).Nodup := by
  have hwf := FileRecordsWF.newFiles hv now
  refine itemKeys_nodup (fun r hr => ?_) (fun r hr => ?_) hwf.pairs_nodup hwf.names_nodup
  · obtain ⟨f, hf, rfl⟩ := List.mem_map.1 hr
    exact ⟨by simp, validateBatch_nulFree hv f hf⟩
  · obtain ⟨g, -, rfl⟩ := List.mem_map.1 hr
    simp

theorem mem_newRecords {fs : List FileRecord} {now : Int} {y : FileRecord}
    (hy : y ∈ newRecords fs now) :
    (∃ f ∈ fs, y = f.toFileInPartition now) ∨
      ∃ g ∈ firstPerFilename [] fs, y = g.toActiveLifecycle now := by
  simp only [newRecords, newLifecycleRecords, List.mem_append, List.mem_map] at hy
  rcases hy with ⟨f, hf, rfl⟩ | ⟨g, hg, rfl⟩
  · exact .inl ⟨f, hf, rfl⟩
  · exact .inr ⟨g, hg, rfl⟩

/-- The records of a checked batch of new files are free of NUL. -/
theorem newRecords_nulFree {fs : List FileRecord} (hv : validateNew fs = .ok ()) (now : Int) :
    ∀ y ∈ newRecords fs now, y.NulFree := by
  intro y hy
  rcases mem_newRecords hy with ⟨f, hf, rfl⟩ | ⟨g, hg, rfl⟩
  · exact validateBatch_nulFree hv f hf
  · exact validateBatch_nulFree hv g ((firstPerFilename_sublist [] fs).subset hg)

/-- The records of new files whose counts fit, stamped at an instant, read back. -/
theorem newRecords_readsBack {fs : List FileRecord} (hfit : ∀ f ∈ fs, f.CountFits) {now : Int}
    (hnow : isInstant now = true) : ∀ y ∈ newRecords fs now, y.ReadsBack := by
  intro y hy
  rcases mem_newRecords hy with ⟨f, hf, rfl⟩ | ⟨g, hg, rfl⟩
  · exact ⟨hfit f hf, timeFits_of_instant hnow⟩
  · exact ⟨hfit g ((firstPerFilename_sublist [] fs).subset hg), timeFits_of_instant hnow⟩

@[simp] theorem filter_fileInPartition_newRecords (fs : List FileRecord) (now : Int) :
    (newRecords fs now).filter (!·.isLifecycle) = fs.map (·.toFileInPartition now) := by
  simp [newRecords, List.filter_append]

@[simp] theorem filter_lifecycle_newRecords (fs : List FileRecord) (now : Int) :
    (newRecords fs now).filter (·.isLifecycle) = newLifecycleRecords fs now := by
  simp [newRecords, List.filter_append]

/-- Changing records without changing their kind changes the records of each kind. -/
theorem filter_fileInPartition_map {m : FileRecord → FileRecord}
    (hk : ∀ w, (m w).isLifecycle = w.isLifecycle) (ws : List FileRecord) :
    (ws.map m).filter (!·.isLifecycle) = (ws.filter (!·.isLifecycle)).map m := by
  rw [List.filter_map]
  exact congrArg _ (List.filter_congr fun w _ => by simp [hk])

theorem filter_lifecycle_map {m : FileRecord → FileRecord}
    (hk : ∀ w, (m w).isLifecycle = w.isLifecycle) (ws : List FileRecord) :
    (ws.map m).filter (·.isLifecycle) = (ws.filter (·.isLifecycle)).map m := by
  rw [List.filter_map]
  exact congrArg _ (List.filter_congr fun w _ => by simp [hk])

/-! ## Items written -/

theorem toItem_sorted (f : FileRecord) : f.toItem.Sorted := by
  rw [toItem_eq]
  exact ((((((Item.sorted_empty.set _ _).set _ _).set _ _).set _ _).setOpt _ _).setOpt _ _).setOpt _ _
    |>.setOpt _ _

/-- Setting the job on the item of a record gives the item of the record with the job. -/
theorem toItem_merge_jobId (f : FileRecord) (job : String) :
    f.toItem.merge (Item.empty.set "jobId" (.string job)) = { f with jobId := some job }.toItem := by
  refine Item.ext_of_sorted ((toItem_sorted f).merge _) (toItem_sorted _) fun m => ?_
  rw [Item.get?_merge _ (Item.sorted_empty.set _ _)]
  simp only [toItem_eq, Item.get?_setOpt, Item.get?_set, Item.get?_empty]
  split_ifs <;> simp_all

/-- Marking the item of a record as pending garbage collection at `now` gives the item of the
marked record. -/
theorem toItem_merge_mark (f : FileRecord) (now : Int) :
    f.toItem.merge (Item.empty.set "status" (.string FileStatus.gcPending.name)
      |>.set "lastStateStoreUpdateTime" (.number (Int64.ofInt now))) = (f.markedAt now).toItem := by
  refine Item.ext_of_sorted ((toItem_sorted f).merge _) (toItem_sorted _) fun m => ?_
  rw [Item.get?_merge _ ((Item.sorted_empty.set _ _).set _ _)]
  simp only [toItem_eq, markedAt, Item.get?_setOpt, Item.get?_set, Item.get?_empty]
  split_ifs <;> simp_all

end FileRecord

namespace ItemStore

open FileRecord

/-- The writes of new files put the item of each new record under its key, where none is. -/
theorem newFileWrites_eq (now : Int) (fs : List FileRecord) :
    newFileWrites now fs = (newRecords fs now).map fun y => .put y.itemKey y.toItem .absent := by
  simp only [newFileWrites, newRecords, List.map_append, List.map_map]
  -- the file-in-partition writes agree by unfolding; the lifecycle ones by the records' status
  congr 1
  refine List.map_congr_left fun l hl => ?_
  obtain ⟨g, -, rfl⟩ := List.mem_map.1 hl
  simp [itemKey, toActiveLifecycle, isLifecycle]

/-- The filename a put of a record's item creates is the record's. -/
theorem filenameAt_map_put (ys : List FileRecord) (i : Nat) :
    filenameAt (ys.map fun y => .put y.itemKey y.toItem .absent) i = (ys[i]?.map (·.filename)).getD "" := by
  unfold filenameAt
  rw [List.getElem?_map]
  cases ys[i]? with
  | none => rfl
  | some y => simp [writtenFilename, Item.getString?_of_get? (toItem_fileName y)]

theorem filenameAt_append (l₁ l₂ : List WriteOp) (j : Nat) :
    filenameAt (l₁ ++ l₂) (l₁.length + j) = filenameAt l₂ j := by
  simp [filenameAt, List.getElem?_append_right]

end ItemStore

namespace ItemTable.FilesView

open FileRecord ItemStore

variable {t : ItemTable} {ws F L : List FileRecord} {now : Int}

/-! ## New files -/

/-- Writing checked new files that fails, fails at a record whose key holds an item: of a file
whose pair has a record, or whose filename has a lifecycle record. -/
theorem insert_error (h : t.FilesView ws F L) {fs : List FileRecord} (hv : validateNew fs = .ok ())
    {n : Nat} {e : Nat × String} (he : t.applyAll n (newFileWrites now fs) = .error e) :
    ∃ f ∈ fs, clashes F L f = true ∧ ∃ j, e.1 = n + j ∧ filenameAt (newFileWrites now fs) j = f.filename := by
  rw [newFileWrites_eq] at he ⊢
  obtain ⟨pre, y, post, hys, hrefused, -, rfl⟩ :=
    applyAll_map_eq_error (by rw [List.map_map]; exact newRecords_keys_nodup hv now) he
  -- the refused put found an item under its key
  have hsome : (t.get? y.itemKey).isSome = true := by
    simpa [ItemStore.admits_put_absent] using hrefused
  have hname : filenameAt ((newRecords fs now).map fun y => .put y.itemKey y.toItem .absent)
      pre.length = y.filename := by
    rw [hys, filenameAt_map_put]
    simp
  rcases mem_newRecords (hys ▸ List.mem_append_right pre List.mem_cons_self) with
    ⟨f, hf, rfl⟩ | ⟨g, hg, rfl⟩
  · have hpair : hasPair F (f.filename, f.partitionId) = true := by
      rw [← h.isSome_get?_fileInPartitionKey]
      simpa [itemKey, toFileInPartition, isLifecycle] using hsome
    exact ⟨f, hf, by simp [clashes, pair, hpair], pre.length, rfl, hname⟩
  · have hlc : L.any (·.filename == g.filename) = true := by
      rw [← h.isSome_get?_lifecycleKey]
      simpa [itemKey, toActiveLifecycle, isLifecycle] using hsome
    exact ⟨g, (firstPerFilename_sublist [] fs).subset hg, by simp [clashes, hlc], pre.length, rfl, hname⟩

/-- Writing checked new files that commits found no record of any of them, and leaves a view of
the records with the new ones added. -/
theorem insert_ok (h : t.FilesView ws F L) {fs : List FileRecord} (hv : validateNew fs = .ok ())
    (hfit : ∀ f ∈ fs, f.CountFits) (hnow : isInstant now = true) {n : Nat} {t' : ItemTable}
    (ha : t.applyAll n (newFileWrites now fs) = .ok t') :
    (∀ f ∈ fs, clashes F L f = false) ∧
      t'.FilesView ((newRecords fs now).reverse ++ ws) (F ++ fs.map (·.toFileInPartition now))
        (L ++ newLifecycleRecords fs now) := by
  rw [newFileWrites_eq] at ha
  have hm := h.mirrors.applyAll_inserts ha
  -- the table now holds every key once, so no new record's key was stored before
  have hfresh : ∀ y ∈ newRecords fs now, ∀ w ∈ ws, w.itemKey ≠ y.itemKey := by
    have hd := hm.keys_nodup
    rw [List.map_append, List.nodup_append] at hd
    intro y hy w hw he
    exact hd.2.2 _ (List.mem_map_of_mem (List.mem_reverse.2 hy)) _ (List.mem_map_of_mem hw) he.symm
  refine ⟨fun f hf => ?_, ⟨hm, ?_, ?_, ?_, ?_⟩⟩
  · have hpair : hasPair F (f.filename, f.partitionId) = false := by
      rw [Bool.eq_false_iff, ne_eq, ← h.isSome_get?_fileInPartitionKey, h.mirrors.isSome_get?_iff]
      rintro ⟨w, hw, hk⟩
      exact hfresh (f.toFileInPartition now) (by simp [newRecords, List.mem_map_of_mem hf]) w hw
        (by simpa [itemKey, toFileInPartition, isLifecycle] using hk)
    have hlc : L.any (·.filename == f.filename) = false := by
      rw [Bool.eq_false_iff, ne_eq, ← h.isSome_get?_lifecycleKey, h.mirrors.isSome_get?_iff]
      rintro ⟨w, hw, hk⟩
      -- the file's first record in the batch gives its lifecycle record
      rcases firstPerFilename_covers [] fs f hf with hnil | ⟨g, hg, hgf⟩
      · cases hnil
      · refine hfresh (g.toActiveLifecycle now)
          (by simp [newRecords, newLifecycleRecords, List.mem_map_of_mem hg]) w hw ?_
        simpa [itemKey, toActiveLifecycle, isLifecycle, hgf] using hk
    simp [clashes, pair, hpair, hlc]
  · intro w hw
    rcases List.mem_append.1 hw with hw | hw
    · exact newRecords_nulFree hv now w (List.mem_reverse.1 hw)
    · exact h.nulFree w hw
  · intro w hw
    rcases List.mem_append.1 hw with hw | hw
    · exact newRecords_readsBack hfit hnow w (List.mem_reverse.1 hw)
    · exact h.fits w hw
  · -- the new file-in-partition records are stored as they are
    have hstored : (fs.map (·.toFileInPartition now)).map asStored = fs.map (·.toFileInPartition now) := by
      rw [List.map_map]
      exact List.map_congr_left fun f _ => asStored_toFileInPartition f hnow
    rw [List.filter_append, List.filter_reverse, filter_fileInPartition_newRecords, List.map_append,
      List.map_reverse, hstored]
    -- the records read, then the new ones, are the new ones reversed before the records read
    exact (h.fips.append_right _).trans
      (List.perm_append_comm.trans ((List.reverse_perm _).symm.append_right _))
  · have hstored : (newLifecycleRecords fs now).map asStored = newLifecycleRecords fs now := by
      rw [newLifecycleRecords, List.map_map]
      exact List.map_congr_left fun f _ => asStored_toActiveLifecycle f hnow
    rw [List.filter_append, List.filter_reverse, filter_lifecycle_newRecords, List.map_append,
      List.map_reverse, hstored]
    exact (h.lifecycles.append_right _).trans
      (List.perm_append_comm.trans ((List.reverse_perm _).symm.append_right _))

/-! ## Replaced records -/

/-- The keys of checked records name them: distinct records have distinct keys. -/
theorem fileInPartitionKeys_nodup {old : List FileRecord} (hv : validateExisting old = .ok ()) :
    (old.map fun f => fileInPartitionKey f.filename f.partitionId).Nodup := by
  have hpairs := (validateBatch_pairs hv).1
  refine List.Nodup.map_on (fun x hx y hy he => ?_) hpairs.of_map
  have hnul := validateBatch_nulFree hv x hx
  obtain ⟨h1, h2⟩ := fileInPartitionKey_inj hnul.1 hnul.2 he
  exact List.inj_on_of_nodup_map hpairs hx hy (by simp [pair, h1, h2])

/-- A stored record's key is among the keys of records exactly when it is a file-in-partition
record of a pair they name. -/
theorem contains_itemKey {w : FileRecord} (hw : w.NulFree) (old : List FileRecord) :
    (old.map fun f => fileInPartitionKey f.filename f.partitionId).contains w.itemKey =
      (!w.isLifecycle && hasPair old w.pair) := by
  rw [Bool.eq_iff_iff, List.contains_iff_mem, List.mem_map, Bool.and_eq_true, hasPair,
    List.any_eq_true]
  constructor
  · rintro ⟨f, hf, he⟩
    obtain ⟨hl, hp⟩ := (itemKey_eq_fileInPartitionKey_iff hw _ _).1 he.symm
    exact ⟨by simp [hl], f, hf, beq_iff_eq.2 hp.symm⟩
  · rintro ⟨hl, f, hf, hp⟩
    exact ⟨f, hf, ((itemKey_eq_fileInPartitionKey_iff hw _ _).2
      ⟨by simpa using hl, (beq_iff_eq.1 hp).symm⟩).symm⟩

theorem admits_delete_present (k : String) :
    t.admits (.delete k .present) = (t.get? k).isSome := by
  simp [ItemTable.admits, WriteOp.key, WriteOp.condition, Condition.holds]

/-- Deleting checked records that fails, fails at the first of them that has no stored record. -/
theorem remove_error (h : t.FilesView ws F L) {old : List FileRecord}
    (hv : validateExisting old = .ok ()) {n : Nat} {e : Nat × String}
    (he : t.applyAll n (old.map fun f => .delete (fileInPartitionKey f.filename f.partitionId) .present) =
      .error e) :
    ∃ f, firstMissing F old = some f ∧ ∃ j, e.1 = n + j ∧ old[j]? = some f := by
  obtain ⟨pre, f, post, rfl, hrefused, hbefore, rfl⟩ :=
    applyAll_map_eq_error (by rw [List.map_map]; exact fileInPartitionKeys_nodup hv) he
  rw [admits_delete_present, h.isSome_get?_fileInPartitionKey] at hrefused
  refine ⟨f, ?_, pre.length, rfl, by simp⟩
  -- every record before it is stored, and it is not
  have hpre : pre.find? (fun g => !hasPair F g.pair) = none := by
    rw [List.find?_eq_none]
    intro g hg
    have := hbefore g hg
    rw [admits_delete_present, h.isSome_get?_fileInPartitionKey] at this
    simpa [pair] using this
  rw [firstMissing, List.find?_append, hpre, Option.none_or, List.find?_cons_of_pos]
  simpa [pair] using hrefused

/-- Deleting checked records that commits found each of them stored, and leaves a view of the
records without them. -/
theorem remove_ok (h : t.FilesView ws F L) {old : List FileRecord}
    (hv : validateExisting old = .ok ()) {n : Nat} {t' : ItemTable}
    (ha : t.applyAll n (old.map fun f => .delete (fileInPartitionKey f.filename f.partitionId) .present) =
      .ok t') :
    firstMissing F old = none ∧
      t'.FilesView (ws.filter fun w =>
          !(old.map fun f => fileInPartitionKey f.filename f.partitionId).contains w.itemKey)
        (withoutPairs F old) L := by
  have hadm := (applyAll_isOk_iff t n _
    (by rw [List.map_map]; exact fileInPartitionKeys_nodup hv)).1 ⟨t', ha⟩
  have hm := h.mirrors.applyAll_deletes (show t.applyAll n
    ((old.map fun f => fileInPartitionKey f.filename f.partitionId).map fun k => .delete k .present) =
      .ok t' by simpa only [List.map_map, Function.comp_def] using ha)
  -- a stored record goes exactly when it is a file-in-partition record of an old pair
  have hgone : ∀ w ∈ ws, (!(old.map fun f => fileInPartitionKey f.filename f.partitionId).contains
      w.itemKey) = (w.isLifecycle || !hasPair old w.pair) := by
    intro w hw
    rw [contains_itemKey (h.nulFree w hw)]
    cases w.isLifecycle <;> simp
  refine ⟨?_, ⟨hm, fun w hw => h.nulFree w (List.mem_of_mem_filter hw),
    fun w hw => h.fits w (List.mem_of_mem_filter hw), ?_, ?_⟩⟩
  · rw [firstMissing, List.find?_eq_none]
    intro f hf
    have := hadm _ (List.mem_map_of_mem hf)
    rw [admits_delete_present, h.isSome_get?_fileInPartitionKey] at this
    simpa [pair] using this
  · rw [withoutPairs, List.filter_filter]
    refine (h.fips.filter _).trans ?_
    rw [List.filter_map]
    refine List.Perm.of_eq (congrArg _ ?_)
    rw [List.filter_filter]
    refine List.filter_congr fun w hw => ?_
    rw [hgone w hw]
    cases w.isLifecycle <;> simp
  · rw [List.filter_filter]
    refine h.lifecycles.trans (List.Perm.of_eq (congrArg _ (List.filter_congr fun w hw => ?_)))
    rw [hgone w hw]
    cases w.isLifecycle <;> simp


/-! ## Claims -/

theorem admits_claim (k : String) (u : Item) :
    t.admits (.update k u [] (.attributeMissing "jobId")) =
      match t.get? k with
      | none => false
      | some i => (i.get? "jobId").isNone := by
  cases hk : t.get? k <;> simp [ItemTable.admits, WriteOp.key, WriteOp.condition, Condition.holds, hk]

/-- The first record read with the pair of a stored file-in-partition record is that record as
stored. -/
theorem find?_pair (h : t.FilesView ws F L) {w : FileRecord} (hw : w ∈ ws)
    (hl : w.isLifecycle = false) : F.find? (·.pair == w.pair) = some w.asStored := by
  have hmem : w.asStored ∈ F :=
    h.fips.mem_iff.2 (List.mem_map_of_mem (List.mem_filter.2 ⟨hw, by simp [hl]⟩))
  have hsome : (F.find? (·.pair == w.pair)).isSome := List.find?_isSome.2 ⟨_, hmem, beq_self_eq_true _⟩
  obtain ⟨r, hr⟩ := Option.isSome_iff_exists.1 hsome
  -- the records read name each pair once
  have hrp : r.pair = w.asStored.pair := by simpa using List.find?_some hr
  rw [hr, List.inj_on_of_nodup_map h.pairs_nodup (List.mem_of_find?_eq_some hr) hmem hrp]

/-- What keeps a job from a file's record is what the table holds under the file's key: nothing,
or an item with a job. -/
theorem blocker_eq (h : t.FilesView ws F L) (f : FileRecord) :
    blocker F f = match t.get? (fileInPartitionKey f.filename f.partitionId) with
      | none => some (.fileInPartitionMissing f.filename f.partitionId)
      | some i => if (i.get? "jobId").isSome then some (.jobAlreadyAssigned f.filename f.partitionId)
        else none := by
  cases hget : t.get? (fileInPartitionKey f.filename f.partitionId) with
  | none =>
    have hpair : hasPair F (f.filename, f.partitionId) = false := by
      rw [← h.isSome_get?_fileInPartitionKey, hget]
      rfl
    have hfind : F.find? (·.pair == f.pair) = none :=
      List.find?_eq_none.2 fun r hr => by simpa [pair] using List.any_eq_false.1 hpair r hr
    simp [blocker, hfind]
  | some i =>
    obtain ⟨w, hw, hk, rfl⟩ := h.mirrors.exists_of_get? hget
    obtain ⟨hl, hp⟩ := (itemKey_eq_fileInPartitionKey_iff (h.nulFree w hw) _ _).1 hk
    have hfind := h.find?_pair hw hl
    rw [hp] at hfind
    simp only [blocker, pair] at hfind ⊢
    simp only [hfind, jobId_asStored, toItem_jobId, Option.isSome_map]
    rfl

/-- A job's update of a file's record is admitted exactly when nothing keeps the job from it. -/
theorem admits_claim_eq (h : t.FilesView ws F L) (f : FileRecord) (u : Item) :
    t.admits (.update (fileInPartitionKey f.filename f.partitionId) u [] (.attributeMissing "jobId")) =
      (blocker F f).isNone := by
  rw [admits_claim, h.blocker_eq]
  cases t.get? (fileInPartitionKey f.filename f.partitionId) with
  | none => rfl
  | some i =>
    dsimp only
    cases i.get? "jobId" <;> rfl

/-- Setting a job on checked records that fails, fails at the first record that something keeps
the job from. -/
theorem claim_error (h : t.FilesView ws F L) {job : String} {fs : List FileRecord}
    (hv : validateExisting fs = .ok ()) {n : Nat} {e : Nat × String}
    (he : t.applyAll n (fs.map fun f => .update (fileInPartitionKey f.filename f.partitionId)
      (Item.empty.set "jobId" (.string job)) [] (.attributeMissing "jobId")) = .error e) :
    ∃ f j, e = (n + j, fileInPartitionKey f.filename f.partitionId) ∧ fs[j]? = some f ∧
      claimBlocker F fs = some (if (t.get? e.2).isSome then .jobAlreadyAssigned f.filename f.partitionId
        else .fileInPartitionMissing f.filename f.partitionId) := by
  obtain ⟨pre, f, post, rfl, hrefused, hbefore, rfl⟩ :=
    applyAll_map_eq_error (by rw [List.map_map]; exact fileInPartitionKeys_nodup hv) he
  refine ⟨f, pre.length, rfl, by simp, ?_⟩
  have hpre : pre.findSome? (blocker F) = none := List.findSome?_eq_none_iff.2 fun g hg => by
    simpa [h.admits_claim_eq] using hbefore g hg
  rw [h.admits_claim_eq] at hrefused
  rw [claimBlocker, List.findSome?_append, hpre, Option.none_or, List.findSome?_cons]
  simp only [WriteOp.key]
  rw [h.blocker_eq] at hrefused ⊢
  -- the table holds no item under the key, or one with a job
  by_cases hs : (t.get? (fileInPartitionKey f.filename f.partitionId)).isSome
  · obtain ⟨i, hi⟩ := Option.isSome_iff_exists.1 hs
    simp only [hi] at hrefused ⊢
    cases hj : i.get? "jobId" <;> simp_all
  · rw [Option.not_isSome_iff_eq_none] at hs
    simp only [hs]
    rfl

/-- Setting a job on checked records that commits found nothing keeping the job from any, and
leaves a view of the records with the job set on theirs. -/
theorem claim_ok (h : t.FilesView ws F L) {job : String} {fs : List FileRecord}
    (hv : validateExisting fs = .ok ()) {n : Nat} {t' : ItemTable}
    (ha : t.applyAll n (fs.map fun f => .update (fileInPartitionKey f.filename f.partitionId)
      (Item.empty.set "jobId" (.string job)) [] (.attributeMissing "jobId")) = .ok t') :
    claimBlocker F fs = none ∧
      t'.FilesView (ws.map fun w =>
          if (fs.map fun f => fileInPartitionKey f.filename f.partitionId).contains w.itemKey then
            { w with jobId := some job } else w)
        (withJob F fs job) L := by
  have hadm := (applyAll_isOk_iff t n _
    (by rw [List.map_map]; exact fileInPartitionKeys_nodup hv)).1 ⟨t', ha⟩
  have hm := h.mirrors.applyAll_updates (P := fun _ => True) (m := fun w => { w with jobId := some job })
    (fun w _ => toItem_merge_jobId w job) (fun _ _ => rfl) (fun _ _ => trivial) (fun _ _ => rfl)
    (fun _ _ _ => trivial) (show t.applyAll n
      ((fs.map fun f => fileInPartitionKey f.filename f.partitionId).map fun k =>
        .update k (Item.empty.set "jobId" (.string job)) [] (.attributeMissing "jobId")) = .ok t' by
      simpa only [List.map_map, Function.comp_def] using ha)
  -- the job is set on a stored record exactly when it is a file-in-partition record of a pair named
  have hset : ∀ w ∈ ws, (fs.map fun f => fileInPartitionKey f.filename f.partitionId).contains
      w.itemKey = (!w.isLifecycle && hasPair fs w.pair) := fun w hw =>
    contains_itemKey (h.nulFree w hw) fs
  -- setting the job keeps the kind of each record
  have hkind : ∀ w : FileRecord, (if (fs.map fun f => fileInPartitionKey f.filename f.partitionId).contains
      w.itemKey then { w with jobId := some job } else w).isLifecycle = w.isLifecycle := by
    intro w
    split <;> rfl
  refine ⟨List.findSome?_eq_none_iff.2 fun f hf => ?_, ⟨hm, ?_, ?_, ?_, ?_⟩⟩
  · simpa [h.admits_claim_eq] using hadm _ (List.mem_map_of_mem hf)
  · intro w hw
    obtain ⟨x, hx, rfl⟩ := List.mem_map.1 hw
    split
    · exact h.nulFree x hx
    · exact h.nulFree x hx
  · intro w hw
    obtain ⟨x, hx, rfl⟩ := List.mem_map.1 hw
    split
    · exact h.fits x hx
    · exact h.fits x hx
  · refine (h.fips.map _).trans (List.Perm.of_eq ?_)
    rw [filter_fileInPartition_map hkind, List.map_map, List.map_map]
    refine List.map_congr_left fun w hw => ?_
    obtain ⟨hw, hl⟩ := List.mem_filter.1 hw
    simp only [Function.comp_apply, hset w hw, hl, Bool.true_and, pair_asStored]
    by_cases hp : hasPair fs w.pair = true <;> simp [hp, asStored]
  · -- a lifecycle record keeps no job, so none of them changes
    refine h.lifecycles.trans (List.Perm.of_eq (congrArg _ ?_))
    rw [filter_lifecycle_map hkind]
    refine ((List.map_congr_left fun w hw => ?_).trans (List.map_id _)).symm
    obtain ⟨hw, hl⟩ := List.mem_filter.1 hw
    rw [hset w hw, hl]
    rfl

end ItemTable.FilesView

namespace ItemStore

open FileRecord

variable {s : ItemStore} {ws F L : List FileRecord} {now : Int}

/-- The file records of an item store hold an outcome's file-in-partition and lifecycle
records: its file table is a view of them. -/
def FilesHeld (s : ItemStore) (FL : List FileRecord × List FileRecord) : Prop :=
  ∃ ws, s.fileTable.FilesView ws FL.1 FL.2

/-- Adding files to an item store has an outcome of adding them to the records it reads. -/
theorem addFiles_outcome (h : s.fileTable.FilesView ws F L) {fs : List FileRecord}
    (hfit : ∀ f ∈ fs, f.CountFits) (hnow : isInstant now = true) :
    ∃ r, FileOutcome F L now (.addFiles fs) r ∧ Except.Rel FilesHeld (Except.committed (s.addFiles now fs)) r := by
  cases hv : validateNew fs with
  | error e => exact ⟨_, .addRefused hv, by simp [addFiles, hv]; exact .error e⟩
  | ok u =>
    cases u
    cases ha : s.fileTable.applyAll 0 (newFileWrites now fs) with
    | error e =>
      -- the refused put names a file that clashes
      obtain ⟨f, hf, hclash, j, hj, hname⟩ := h.insert_error hv ha
      refine ⟨_, .addClash hv hf hclash, ?_⟩
      simp only [addFiles, hv, transactFiles, ItemTable.transact, ha, hj, Nat.zero_add, hname,
        Except.committed_error]
      exact .error _
    | ok t' =>
      obtain ⟨hfree, hview⟩ := h.insert_ok hv hfit hnow ha
      refine ⟨_, .added hv hfree, ?_⟩
      simp only [addFiles, hv, transactFiles, ItemTable.transact, ha, Except.committed_ok]
      exact .ok ⟨_, hview⟩

/-- Replacing records of an item store has an outcome of replacing them among the records it
reads. -/
theorem replaceFiles_outcome (h : s.fileTable.FilesView ws F L) {old new : List FileRecord}
    (hfit : ∀ f ∈ new, f.CountFits) (hnow : isInstant now = true) :
    ∃ r, FileOutcome F L now (.replaceFiles old new) r ∧
      Except.Rel FilesHeld (Except.committed (s.replaceFiles now old new)) r := by
  cases hvo : validateExisting old with
  | error e => exact ⟨_, .replaceRefusedOld hvo, by simp [replaceFiles, hvo]; exact .error e⟩
  | ok u =>
    cases u
    cases hvn : validateNew new with
    | error e =>
      exact ⟨_, .replaceRefusedNew hvo hvn, by simp [replaceFiles, hvo, hvn]; exact .error e⟩
    | ok u' =>
      cases u'
      -- the deletes run first, then the puts on the table they leave
      have hsplit := ItemTable.applyAll_append s.fileTable 0
        (old.map fun f => .delete (fileInPartitionKey f.filename f.partitionId) .present)
        (newFileWrites now new)
      rw [List.length_map, Nat.zero_add] at hsplit
      cases hd : s.fileTable.applyAll 0
          (old.map fun f => .delete (fileInPartitionKey f.filename f.partitionId) .present) with
      | error e =>
        obtain ⟨f, hfirst, j, hj, hold⟩ := h.remove_error hvo hd
        refine ⟨_, .replaceMissing hvo hvn hfirst, ?_⟩
        rw [hd] at hsplit
        simp only [replaceFiles, hvo, hvn, transactFiles, replaceWrites, ItemTable.transact, hsplit]
        simp only [Except.bind, hj, Nat.zero_add, hold, missingRecord, Except.committed_error]
        exact .error _
      | ok t₁ =>
        obtain ⟨hnone, hview₁⟩ := h.remove_ok hvo hd
        rw [hd] at hsplit
        cases ha : t₁.applyAll old.length (newFileWrites now new) with
        | error e =>
          obtain ⟨f, hf, hclash, j, hj, hname⟩ := hview₁.insert_error hvn ha
          refine ⟨_, .replaceClash hvo hvn hnone hf hclash, ?_⟩
          -- past the deletes, the failed write is a put of the new files
          have hpast : old[old.length + j]? = none := List.getElem?_eq_none (by omega)
          have hname' : filenameAt ((old.map fun f => WriteOp.delete
              (fileInPartitionKey f.filename f.partitionId) .present) ++ newFileWrites now new)
              (old.length + j) = f.filename := by
            rw [← List.length_map (f := fun f => WriteOp.delete
              (fileInPartitionKey f.filename f.partitionId) .present), filenameAt_append, hname]
          simp only [replaceFiles, hvo, hvn, transactFiles, replaceWrites, ItemTable.transact, hsplit,
            Except.bind, ha, hj, hpast, hname', Except.committed_error]
          exact .error _
        | ok t' =>
          obtain ⟨hfree, hview⟩ := hview₁.insert_ok hvn hfit hnow ha
          refine ⟨_, .replaced hvo hvn hnone hfree, ?_⟩
          simp only [replaceFiles, hvo, hvn, transactFiles, replaceWrites, ItemTable.transact, hsplit,
            Except.bind, ha, Except.committed_ok]
          exact .ok ⟨_, hview⟩

/-- Assigning a job in an item store has an outcome of assigning it among the records it
reads. -/
theorem assignJob_outcome (h : s.fileTable.FilesView ws F L) (job : String) (fs : List FileRecord) :
    ∃ r, FileOutcome F L now (.assignJob job fs) r ∧
      Except.Rel FilesHeld (Except.committed (s.assignJob job fs)) r := by
  cases hjob : job.isEmpty with
  | true => exact ⟨_, .assignUnnamed hjob, by simp [assignJob, hjob]; exact .error _⟩
  | false =>
    cases hv : validateExisting fs with
    | error e => exact ⟨_, .assignRefused hjob hv, by simp [assignJob, hjob, hv]; exact .error e⟩
    | ok u =>
      cases u
      cases ha : s.fileTable.applyAll 0 (fs.map fun f => .update
          (fileInPartitionKey f.filename f.partitionId) (Item.empty.set "jobId" (.string job)) []
          (.attributeMissing "jobId")) with
      | error e =>
        obtain ⟨f, j, rfl, hf, hb⟩ := h.claim_error hv ha
        refine ⟨_, .assignBlocked hjob hv hb, ?_⟩
        simp only [assignJob, hjob, hv, transactFiles, assignWrites, ItemTable.transact, ha,
          Nat.zero_add, hf, Bool.false_eq_true, if_false, Except.committed_error]
        split <;> exact .error _
      | ok t' =>
        obtain ⟨hb, hview⟩ := h.claim_ok hv ha
        refine ⟨_, .assigned hjob hv hb, ?_⟩
        simp only [assignJob, hjob, hv, transactFiles, assignWrites, ItemTable.transact, ha,
          Bool.false_eq_true, if_false, Except.committed_ok]
        exact .ok ⟨_, hview⟩

end ItemStore

/-! ## Marking files -/

namespace ItemTable

open FileRecord ItemStore

variable {t : ItemTable} {ws : List FileRecord}

/-- Marking a file is admitted exactly when one of the records is the active lifecycle record of
the file. -/
theorem admits_markWrite (h : t.Mirrors itemKey toItem ws) (now : Int) (f : FileRecord) :
    t.admits (markWrite now f) = ws.any (marks f) := by
  have hkey : ∀ w, marks f w = true → w.itemKey = lifecycleKey f.filename := fun w hw => by
    simp only [marks, Bool.and_eq_true, beq_iff_eq] at hw
    exact (itemKey_eq_lifecycleKey_iff w _).2 ⟨hw.1.1, hw.1.2⟩
  cases hk : t.get? (lifecycleKey f.filename) with
  | none =>
    -- no record has the key, so none is the file's lifecycle record
    have hnone : ws.any (marks f) = false := List.any_eq_false.2 fun w hw hm => by
      rw [← hkey w hm, h.get?_of_mem w hw] at hk
      cases hk
    simp [ItemTable.admits, markWrite, WriteOp.key, WriteOp.condition, Condition.holds, hk, hnone]
  | some i =>
    obtain ⟨w, hw, hwk, rfl⟩ := h.exists_of_get? hk
    obtain ⟨hl, hn⟩ := (itemKey_eq_lifecycleKey_iff w _).1 hwk
    -- the record under the key is the only one that can be the file's lifecycle record
    have hany : ws.any (marks f) = (w.status == .active) := by
      rw [Bool.eq_iff_iff, List.any_eq_true]
      constructor
      · rintro ⟨w', hw', hm⟩
        rw [h.eq_of_key_eq hw' hw ((hkey w' hm).trans hwk.symm)] at hm
        simp only [marks, Bool.and_eq_true, beq_iff_eq] at hm
        simp [hm.2]
      · intro ha
        exact ⟨w, hw, by simp [marks, hl, hn, ha]⟩
    rw [hany]
    simp only [ItemTable.admits, markWrite, WriteOp.key, WriteOp.condition, Condition.holds, hk,
      toItem_status, Option.isNone_some, Bool.not_false, Bool.true_and]
    cases w.status <;> rfl

/-- Marking a file changes exactly its active lifecycle record, if it has one. -/
theorem Mirrors.transact_markWrite (h : t.Mirrors itemKey toItem ws) (now : Int) (f : FileRecord) :
    (t.transact [markWrite now f]).2.Mirrors itemKey toItem
      (ws.map fun w => if marks f w then w.markedAt now else w) := by
  have hmarks : ∀ w ∈ ws, marks f w = true ↔
      (w.itemKey = lifecycleKey f.filename ∧ ws.any (marks f) = true) := by
    intro w hw
    constructor
    · intro hm
      simp only [marks, Bool.and_eq_true, beq_iff_eq] at hm
      exact ⟨(itemKey_eq_lifecycleKey_iff w _).2 ⟨hm.1.1, hm.1.2⟩,
        List.any_eq_true.2 ⟨w, hw, by simp [marks, hm]⟩⟩
    · rintro ⟨hwk, hany⟩
      obtain ⟨w', hw', hm⟩ := List.any_eq_true.1 hany
      have hw'k : w'.itemKey = lifecycleKey f.filename := by
        simp only [marks, Bool.and_eq_true, beq_iff_eq] at hm
        exact (itemKey_eq_lifecycleKey_iff w' _).2 ⟨hm.1.1, hm.1.2⟩
      rwa [h.eq_of_key_eq hw hw' (hwk.trans hw'k.symm)]
  by_cases hadm : t.admits (markWrite now f) = true
  · -- the update went through: it marked the record under the file's key
    have hany : ws.any (marks f) = true := by rwa [← admits_markWrite h now f]
    have ha : t.applyAll 0 ([lifecycleKey f.filename].map fun k => .update k
        (Item.empty.set "status" (.string FileStatus.gcPending.name)
          |>.set "lastStateStoreUpdateTime" (.number (Int64.ofInt now)))
        [] (.attributeEquals "status" (.string FileStatus.active.name))) =
          .ok (t.transact [markWrite now f]).2 := by
      simp only [markWrite] at hadm ⊢
      simp only [List.map_cons, List.map_nil, ItemTable.transact, ItemTable.applyAll_cons, hadm,
        if_true, ItemTable.applyAll_nil]
    have hm := h.applyAll_updates (P := fun w => w.isLifecycle = true) (m := markedAt now)
      (fun w _ => toItem_merge_mark w now)
      (fun w hl => by
        have hm : (w.markedAt now).isLifecycle = true := rfl
        unfold itemKey
        rw [if_pos hm, if_pos hl]
        rfl)
      (fun _ _ => rfl) (fun _ _ => rfl)
      (fun w _ hc => by
        simp only [List.contains_cons, List.contains_nil, Bool.or_false, beq_iff_eq] at hc
        exact ((itemKey_eq_lifecycleKey_iff w _).1 hc).1) ha
    refine hm.perm (List.Perm.of_eq (List.map_congr_left fun w hw => ?_))
    have hc : [lifecycleKey f.filename].contains w.itemKey = marks f w := by
      rw [Bool.eq_iff_iff, hmarks w hw, hany]
      simp
    rw [hc]
  · -- the update was refused: no record is the file's active lifecycle record
    have hnone : ∀ w ∈ ws, marks f w = false := fun w hw => by
      rw [admits_markWrite h now f, List.any_eq_true] at hadm
      exact Bool.eq_false_iff.2 fun hm => hadm ⟨w, hw, hm⟩
    have hsame : (t.transact [markWrite now f]).2 = t := by
      simp only [ItemTable.transact, ItemTable.applyAll_cons, Bool.eq_false_iff.2 hadm]
      rfl
    have hid : (ws.map fun w => if marks f w then w.markedAt now else w) = ws :=
      (List.map_congr_left fun w hw => by rw [hnone w hw]; rfl).trans (List.map_id ws)
    rw [hsame, hid]
    exact h

/-- Marking files in turn changes the records as marking each does. -/
theorem Mirrors.foldl_markWrite (h : t.Mirrors itemKey toItem ws) (now : Int) (us : List FileRecord) :
    (us.foldl (fun t f => (t.transact [markWrite now f]).2) t).Mirrors itemKey toItem
      (us.foldl (fun ws f => ws.map fun w => if marks f w then w.markedAt now else w) ws) := by
  induction us generalizing t ws with
  | nil => exact h
  | cons f us ih => exact ih (h.transact_markWrite now f)

end ItemTable

/-! ## Records kept by every change -/

namespace ItemStore

open FileRecord

variable {s s' : ItemStore} {now : Int}

/-- The file table of an item store mirrors a list of records without NUL in their ids. -/
def FilesKept (s : ItemStore) : Prop :=
  ∃ ws, s.fileTable.Mirrors itemKey toItem ws ∧ ∀ w ∈ ws, w.NulFree

theorem filesKept_empty : ItemStore.empty.FilesKept :=
  ⟨[], ItemTable.mirrors_empty, fun _ h => absurd h List.not_mem_nil⟩

/-- Writing checked new files keeps the table mirroring records without NUL. -/
theorem filesKept_newFileWrites {t t' : ItemTable} {ws : List FileRecord}
    (hm : t.Mirrors itemKey toItem ws) (hnul : ∀ w ∈ ws, w.NulFree) {fs : List FileRecord}
    (hv : validateNew fs = .ok ()) {n : Nat} (ha : t.applyAll n (newFileWrites now fs) = .ok t') :
    ∃ ws', t'.Mirrors itemKey toItem ws' ∧ ∀ w ∈ ws', w.NulFree := by
  rw [newFileWrites_eq] at ha
  refine ⟨_, hm.applyAll_inserts ha, fun w hw => ?_⟩
  rcases List.mem_append.1 hw with hw | hw
  · exact newRecords_nulFree hv now w (List.mem_reverse.1 hw)
  · exact hnul w hw

theorem addFiles_filesKept (h : s.FilesKept) {fs : List FileRecord} :
    (s.addFiles now fs).1.FilesKept := by
  refine addFiles_atomic.keeps h fun s' ha => ?_
  obtain ⟨ws, hm, hnul⟩ := h
  obtain ⟨hv, t', ht', rfl⟩ := addFiles_eq_ok.1 ha
  exact filesKept_newFileWrites hm hnul hv (ItemTable.transact_eq_committed.1 ht')

theorem replaceFiles_filesKept (h : s.FilesKept) {old new : List FileRecord} :
    (s.replaceFiles now old new).1.FilesKept := by
  refine replaceFiles_atomic.keeps h fun s' ha => ?_
  obtain ⟨ws, hm, hnul⟩ := h
  obtain ⟨-, hvn, t', ht', rfl⟩ := replaceFiles_eq_ok.1 ha
  rw [ItemTable.transact_eq_committed, replaceWrites, ItemTable.applyAll_append] at ht'
  -- the deletes leave a table that the puts of the new files then run on
  cases hd : s.fileTable.applyAll 0
      (old.map fun f => .delete (fileInPartitionKey f.filename f.partitionId) .present) with
  | error e =>
    rw [hd] at ht'
    cases ht'
  | ok t₁ =>
    rw [hd] at ht'
    have hm₁ := hm.applyAll_deletes (show s.fileTable.applyAll 0
      ((old.map fun f => fileInPartitionKey f.filename f.partitionId).map fun k => .delete k .present) =
        .ok t₁ by simpa only [List.map_map, Function.comp_def] using hd)
    exact filesKept_newFileWrites hm₁ (fun w hw => hnul w (List.mem_of_mem_filter hw)) hvn ht'

theorem assignJob_filesKept (h : s.FilesKept) {job : String} {fs : List FileRecord} :
    (s.assignJob job fs).1.FilesKept := by
  refine assignJob_atomic.keeps h fun s' ha => ?_
  obtain ⟨ws, hm, hnul⟩ := h
  obtain ⟨-, -, t', ht', rfl⟩ := assignJob_eq_ok.1 ha
  rw [ItemTable.transact_eq_committed, assignWrites] at ht'
  refine ⟨_, hm.applyAll_updates (P := fun _ => True) (m := fun w => { w with jobId := some job })
    (fun w _ => toItem_merge_jobId w job) (fun _ _ => rfl) (fun _ _ => trivial) (fun _ _ => rfl)
    (fun _ _ _ => trivial) (show s.fileTable.applyAll 0
      ((fs.map fun f => fileInPartitionKey f.filename f.partitionId).map fun k =>
        .update k (Item.empty.set "jobId" (.string job)) [] (.attributeMissing "jobId")) = .ok t' by
      simpa only [List.map_map, Function.comp_def] using ht'), fun w hw => ?_⟩
  obtain ⟨x, hx, rfl⟩ := List.mem_map.1 hw
  split
  · exact hnul x hx
  · exact hnul x hx

/-- Marking files in turn keeps every filename and partition id. -/
theorem nulFree_foldl_mark (now : Int) :
    ∀ (us ws : List FileRecord), (∀ w ∈ ws, w.NulFree) →
      ∀ w ∈ us.foldl (fun ws f => ws.map fun w => if marks f w then w.markedAt now else w) ws,
        w.NulFree
  | [], _, hnul => hnul
  | f :: us, ws, hnul => nulFree_foldl_mark now us _ fun w hw => by
    obtain ⟨x, hx, rfl⟩ := List.mem_map.1 hw
    split
    · exact hnul x hx
    · exact hnul x hx

theorem markGcPending_filesKept (h : s.FilesKept) {n : Nat} : (s.markGcPending n now).1.FilesKept := by
  refine markGcPending_atomic.keeps h fun s' ha => ?_
  obtain ⟨ws, hm, hnul⟩ := h
  obtain ⟨lcs, fips, -, -, rfl⟩ := markGcPending_eq_ok.1 ha
  exact ⟨_, hm.foldl_markWrite now _, nulFree_foldl_mark now _ ws hnul⟩

theorem deleteLifecycle_filesKept (h : s.FilesKept) {names : List String} :
    (s.deleteLifecycle names).1.FilesKept := by
  refine deleteLifecycle_atomic.keeps h fun s' ha => ?_
  obtain ⟨ws, hm, hnul⟩ := h
  obtain ⟨t', ht', rfl⟩ := deleteLifecycle_eq_ok.1 ha
  rw [ItemTable.transact_eq_committed] at ht'
  refine ⟨_, hm.applyAll_deletes (show s.fileTable.applyAll 0
    ((names.map lifecycleKey).map fun k =>
      .delete k (.attributeEquals "status" (.string FileStatus.gcPending.name))) = .ok t' by
    simpa only [List.map_map, Function.comp_def] using ht'), fun w hw => hnul w (List.mem_of_mem_filter hw)⟩

end ItemStore

end TableState
