import TableState.Proofs.Item.Files

/-!
# Reading consistent file items

The reads of the item backend scan the file table under a key prefix and decode every item. A
scan of a sorted table reads every entry under its prefix (`ItemTable.Sorted.scanAll_eq`), and
under each prefix a consistent table holds items of one kind only. So when both reads succeed,
the records they give are consistent (`ItemFilesWF.records_wf`): their keys are distinct and
name the file (and partition) of each record.

Marking files for garbage collection reads the file-in-partition records first, and marks only
files none of them names; since the read finds every file-in-partition item, no file that a
partition references is marked (`ItemStore.markGcPending_filesWF`). With this, every change of
the item backend keeps its file table consistent (`ItemStore.filesWF_of_change` and the lemmas
before it).
-/

set_option autoImplicit false

namespace TableState

theorem FileStatus.name_inj {a b : FileStatus} (h : a.name = b.name) : a = b := by
  cases a <;> cases b <;> first | rfl | simp [FileStatus.name] at h

/-- A file-in-partition item reads back as a stamped record of its file and partition. -/
theorem FipItem.decode {k : String} {i : Item} {f p : String} (h : FipItem k i f p)
    {r : FileRecord} (hd : FileRecord.ofItem i = .ok r) :
    r.filename = f ∧ r.partitionId = p ∧ r.lastUpdateTime.isSome := by
  obtain ⟨hname, hpid, -, -, htime⟩ := FileRecord.ofItem_eq_ok hd
  rw [Item.getString?_of_get? h.fileName] at hname
  rw [Item.getString?_of_get? h.partitionId] at hpid
  obtain ⟨n, hn⟩ := h.stamped
  refine ⟨(Option.some.inj hname).symm, (Option.some.inj hpid).symm, ?_⟩
  simp [htime, Item.getNumber?, hn]

/-- A lifecycle item reads back as a stamped record of its file without a job, active when the
item is. -/
theorem LifecycleItem.decode {k : String} {i : Item} {f : String} (h : LifecycleItem k i f)
    {r : FileRecord} (hd : FileRecord.ofItem i = .ok r) :
    r.filename = f ∧ r.jobId = none ∧ r.lastUpdateTime.isSome ∧
      (i.get? "status" = some (.string FileStatus.active.name) → r.status = .active) := by
  obtain ⟨hname, -, hstatus, hjob, htime⟩ := FileRecord.ofItem_eq_ok hd
  rw [Item.getString?_of_get? h.fileName] at hname
  obtain ⟨n, hn⟩ := h.stamped
  refine ⟨(Option.some.inj hname).symm, by simp [hjob, Item.getString?, h.jobless], ?_, ?_⟩
  · simp [htime, Item.getNumber?, hn]
  · intro hactive
    rw [Item.getString?_of_get? hactive] at hstatus
    exact FileStatus.name_inj (Option.some.inj hstatus).symm

namespace ItemFilesWF

variable {t : ItemTable}

/-- Every entry of a consistent table under the file-in-partition prefix is a file-in-partition
item of a file with an active lifecycle item. -/
theorem fip_of_mem (h : ItemFilesWF t) {e : String × Item} (he : e ∈ t.entries)
    (hpfx : fileInPartitionPrefix.isPrefixOf e.1 = true) :
    ∃ f p, FipItem e.1 e.2 f p ∧ ActiveIn t f := by
  rcases h.entry e.1 e.2 ((h.sorted.mem_entries_iff e.1 e.2).1 he) with hfip | ⟨f, hl⟩
  · exact hfip
  · rw [hl.key_eq, not_isPrefixOf_lifecycleKey] at hpfx
    cases hpfx

/-- Every entry of a consistent table under the lifecycle prefix is a lifecycle item. -/
theorem lifecycle_of_mem (h : ItemFilesWF t) {e : String × Item} (he : e ∈ t.entries)
    (hpfx : lifecyclePrefix.isPrefixOf e.1 = true) : ∃ f, LifecycleItem e.1 e.2 f := by
  rcases h.entry e.1 e.2 ((h.sorted.mem_entries_iff e.1 e.2).1 he) with ⟨f, p, hfip, -⟩ | hl
  · rw [hfip.key_eq, not_isPrefixOf_fileInPartitionKey] at hpfx
    cases hpfx
  · exact hl

/-- The keys of a sorted table are distinct, also under a prefix. -/
theorem keys_nodup (h : ItemFilesWF t) (pfx : String) :
    ((t.entries.filter fun e => pfx.isPrefixOf e.1).map (·.1)).Nodup := by
  have hall : (t.entries.map (·.1)).Nodup := by
    rw [List.Nodup, List.pairwise_map]
    exact h.sorted.imp ne_of_lt
  exact hall.sublist ((List.filter_sublist).map _)

/-- When both reads of a consistent file table succeed, the records they give are consistent. -/
theorem records_wf (h : ItemFilesWF t) {n : Nat} {fips lcs : List FileRecord}
    (hf : (t.scanAll fileInPartitionPrefix n).mapM (FileRecord.ofItem ·.2) = .ok fips)
    (hl : (t.scanAll lifecyclePrefix n).mapM (FileRecord.ofItem ·.2) = .ok lcs) :
    FileRecordsWF fips lcs := by
  rw [h.sorted.scanAll_eq] at hf hl
  have hF := List.forall₂_of_mapM_eq_ok hf
  have hL := List.forall₂_of_mapM_eq_ok hl
  -- each record read is decoded from an entry of its kind
  have hfip : ∀ r ∈ fips, ∃ e ∈ t.entries, ∃ f p, FipItem e.1 e.2 f p ∧ ActiveIn t f ∧
      FileRecord.ofItem e.2 = .ok r := by
    intro r hr
    obtain ⟨e, he, hd⟩ := hF.exists_of_mem_right hr
    obtain ⟨he, hpfx⟩ := List.mem_filter.1 he
    obtain ⟨f, p, hfi, hact⟩ := h.fip_of_mem he hpfx
    exact ⟨e, he, f, p, hfi, hact, hd⟩
  have hlc : ∀ r ∈ lcs, ∃ e ∈ t.entries, ∃ f, LifecycleItem e.1 e.2 f ∧
      FileRecord.ofItem e.2 = .ok r := by
    intro r hr
    obtain ⟨e, he, hd⟩ := hL.exists_of_mem_right hr
    obtain ⟨he, hpfx⟩ := List.mem_filter.1 he
    obtain ⟨f, hli⟩ := h.lifecycle_of_mem he hpfx
    exact ⟨e, he, f, hli, hd⟩
  refine ⟨?_, ?_, ?_, ?_, ?_⟩
  · -- the records are keyed by their pairs, and the keys are distinct
    have hkeys := hF.map_eq (f := (·.1))
      (g := fun r => fileInPartitionKey r.pair.1 r.pair.2) fun e he r hd => by
        obtain ⟨he, hpfx⟩ := List.mem_filter.1 he
        obtain ⟨f, p, hfi, -⟩ := h.fip_of_mem he hpfx
        obtain ⟨rfl, rfl, -⟩ := hfi.decode hd
        exact hfi.key_eq
    have hnodup := h.keys_nodup fileInPartitionPrefix
    rw [hkeys] at hnodup
    exact List.Nodup.of_map (fun pr => fileInPartitionKey pr.1 pr.2) (by rwa [List.map_map])
  · have hkeys := hL.map_eq (f := (·.1)) (g := fun r => lifecycleKey r.filename)
      fun e he r hd => by
        obtain ⟨he, hpfx⟩ := List.mem_filter.1 he
        obtain ⟨f, hli⟩ := h.lifecycle_of_mem he hpfx
        obtain ⟨rfl, -⟩ := hli.decode hd
        exact hli.key_eq
    have hnodup := h.keys_nodup lifecyclePrefix
    rw [hkeys] at hnodup
    exact List.Nodup.of_map lifecycleKey (by rwa [List.map_map])
  · -- the active lifecycle item of a referenced file is read too
    intro r hr
    obtain ⟨e, -, f, p, hfi, ⟨l, hget, hst⟩, hd⟩ := hfip r hr
    obtain ⟨rfl, -, -⟩ := hfi.decode hd
    have hmem : (lifecycleKey r.filename, l) ∈ t.entries :=
      (h.sorted.mem_entries_iff _ _).2 hget
    have hin : (lifecycleKey r.filename, l) ∈
        t.entries.filter fun e => lifecyclePrefix.isPrefixOf e.1 :=
      List.mem_filter.2 ⟨hmem, isPrefixOf_lifecycleKey _⟩
    obtain ⟨r', hr', hd'⟩ := hL.exists_of_mem_left hin
    obtain ⟨f', hli⟩ := h.lifecycle_of_mem hmem (isPrefixOf_lifecycleKey _)
    obtain ⟨hname, -, -, hactive⟩ := hli.decode hd'
    refine ⟨r', hr', ?_, hactive hst⟩
    rw [hname]
    exact (lifecycleKey_inj hli.key_eq).symm
  · intro r hr
    obtain ⟨e, -, f, hli, hd⟩ := hlc r hr
    exact (hli.decode hd).2.1
  · intro r hr
    rcases List.mem_append.1 hr with hr | hr
    · obtain ⟨e, -, f, p, hfi, -, hd⟩ := hfip r hr
      exact (hfi.decode hd).2.2
    · obtain ⟨e, -, f, hli, hd⟩ := hlc r hr
      exact (hli.decode hd).2.2.1

end ItemFilesWF

namespace ItemStore

variable {s s' : ItemStore} {now : Int}

/-- A successful read of the file-in-partition records finds the file of every
file-in-partition item. -/
theorem fip_names_of_read (h : ItemFilesWF s.fileTable) {n : Nat} {fips : List FileRecord}
    (hr : s.fileInPartitionRecords n = .ok fips) :
    ∀ k i f p, s.fileTable.get? k = some i → FipItem k i f p → f ∈ fips.map (·.filename) := by
  intro k i f p hi hfi
  simp only [fileInPartitionRecords, records, h.sorted.scanAll_eq] at hr
  have hin : (k, i) ∈ s.fileTable.entries.filter fun e => fileInPartitionPrefix.isPrefixOf e.1 :=
    List.mem_filter.2 ⟨(h.sorted.mem_entries_iff k i).2 hi,
      by rw [hfi.key_eq]; exact isPrefixOf_fileInPartitionKey _ _⟩
  obtain ⟨r, hr', hd⟩ := (List.forall₂_of_mapM_eq_ok hr).exists_of_mem_left hin
  obtain ⟨hname, -⟩ := hfi.decode hd
  exact List.mem_map.2 ⟨r, hr', hname⟩

/-- Marking unreferenced files keeps the file table consistent. -/
theorem markGcPending_filesWF (h : ItemFilesWF s.fileTable) {n : Nat} :
    ItemFilesWF (s.markGcPending n now).1.fileTable := by
  refine markGcPending_atomic.keeps (P := fun s => ItemFilesWF s.fileTable) h fun s' hm => ?_
  obtain ⟨lifecycle, fips, -, hfips, rfl⟩ := markGcPending_eq_ok.1 hm
  refine ItemFilesWF.foldl_markWrite _ _ h (fip_names_of_read h hfips) ?_
  intro g hg
  have := (List.mem_filter.1 hg).2
  simp only [Bool.and_eq_true, beq_iff_eq, Bool.not_eq_true'] at this
  intro hmem
  rw [List.contains_iff_mem.2 hmem] at this
  cases this.2

theorem addFiles_filesWF (h : ItemFilesWF s.fileTable) {fs : List FileRecord} :
    ItemFilesWF (s.addFiles now fs).1.fileTable := by
  refine addFiles_atomic.keeps (P := fun s => ItemFilesWF s.fileTable) h fun s' ha => ?_
  obtain ⟨-, t, ht, rfl⟩ := addFiles_eq_ok.1 ha
  exact h.newFileWrites (ItemTable.transact_eq_committed.1 ht)

theorem replaceFiles_filesWF (h : ItemFilesWF s.fileTable) {old new : List FileRecord} :
    ItemFilesWF (s.replaceFiles now old new).1.fileTable := by
  refine replaceFiles_atomic.keeps (P := fun s => ItemFilesWF s.fileTable) h fun s' hr => ?_
  obtain ⟨-, -, t, ht, rfl⟩ := replaceFiles_eq_ok.1 hr
  exact h.replaceWrites (ItemTable.transact_eq_committed.1 ht)

theorem assignJob_filesWF (h : ItemFilesWF s.fileTable) {job : String} {fs : List FileRecord} :
    ItemFilesWF (s.assignJob job fs).1.fileTable := by
  refine assignJob_atomic.keeps (P := fun s => ItemFilesWF s.fileTable) h fun s' ha => ?_
  obtain ⟨-, -, t, ht, rfl⟩ := assignJob_eq_ok.1 ha
  exact h.assignWrites (ItemTable.transact_eq_committed.1 ht)

theorem deleteLifecycle_filesWF (h : ItemFilesWF s.fileTable) {names : List String} :
    ItemFilesWF (s.deleteLifecycle names).1.fileTable := by
  refine deleteLifecycle_atomic.keeps (P := fun s => ItemFilesWF s.fileTable) h fun s' hd => ?_
  obtain ⟨t, ht, rfl⟩ := deleteLifecycle_eq_ok.1 hd
  exact h.deleteWrites (ItemTable.transact_eq_committed.1 ht)

end ItemStore

end TableState
