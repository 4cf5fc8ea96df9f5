import TableState.File.Validate
import TableState.Proofs.Except
import Mathlib.Data.List.Nodup

/-!
# Consistent file records

The file records of a table are consistent when

* no two file-in-partition records are about the same file and partition;
* no two lifecycle records are about the same file;
* every file that a file-in-partition record names has a lifecycle record, and it is active, so
  no file pending garbage collection is still referenced by a partition;
* no lifecycle record carries a job;
* every record is stamped with the time of its last change.

`FileRecordsWF fips lcs` says this of the file-in-partition records `fips` and the lifecycle
records `lcs`. Both backends keep their records consistent, each through its own changes; this
module gives the ways a change can keep them so:

* `FileRecordsWF.append`: records of new files, consistent among themselves and about other
  files and pairs, are added;
* `FileRecordsWF.sublist_fips`, `FileRecordsWF.sublist_lcs`: records are removed, keeping the
  active lifecycle records;
* `FileRecordsWF.map_lcs`: lifecycle records of unreferenced files are changed;
* `FileRecordsWF.congr_fips`: the jobs of file-in-partition records are changed.

The records a batch of new files creates are consistent among themselves
(`FileRecordsWF.newFiles`), by the checks of `FileRecord.validateNew` and the choice of one
lifecycle record per filename in `FileRecord.newLifecycleRecords`.
-/

set_option autoImplicit false

namespace TableState

namespace FileRecord

/-- The file and the partition a file-in-partition record is about. -/
def pair (r : FileRecord) : String × String :=
  (r.filename, r.partitionId)

/-- The record with its job forgotten. -/
def withoutJob (r : FileRecord) : FileRecord :=
  { r with jobId := none }

@[simp] theorem pair_withoutJob (r : FileRecord) : r.withoutJob.pair = r.pair := rfl

@[simp] theorem filename_withoutJob (r : FileRecord) : r.withoutJob.filename = r.filename := rfl

@[simp] theorem lastUpdateTime_withoutJob (r : FileRecord) :
    r.withoutJob.lastUpdateTime = r.lastUpdateTime := rfl

@[simp] theorem pair_toFileInPartition (f : FileRecord) (time : Int) :
    (f.toFileInPartition time).pair = f.pair := rfl

@[simp] theorem isLifecycle_toFileInPartition (f : FileRecord) (time : Int) :
    (f.toFileInPartition time).isLifecycle = false := rfl

@[simp] theorem isLifecycle_toActiveLifecycle (f : FileRecord) (time : Int) :
    (f.toActiveLifecycle time).isLifecycle = true := rfl

/-- A record that is not a lifecycle record is a file-in-partition record. -/
theorem status_of_not_isLifecycle {r : FileRecord} (h : r.isLifecycle = false) :
    r.status = .fileInPartition := by
  simpa [isLifecycle] using h

end FileRecord

/-- The file-in-partition records `fips` and the lifecycle records `lcs` of a table are
consistent. -/
structure FileRecordsWF (fips lcs : List FileRecord) : Prop where
  /-- At most one file-in-partition record per file and partition. -/
  pairs_nodup : (fips.map FileRecord.pair).Nodup
  /-- At most one lifecycle record per file. -/
  names_nodup : (lcs.map FileRecord.filename).Nodup
  /-- Every file that a partition references has an active lifecycle record. -/
  referenced_active : ∀ r ∈ fips, ∃ l ∈ lcs, l.filename = r.filename ∧ l.status = .active
  /-- No lifecycle record carries a job. -/
  lifecycle_jobless : ∀ l ∈ lcs, l.jobId = none
  /-- Every record is stamped with the time of its last change. -/
  stamped : ∀ r ∈ fips ++ lcs, r.lastUpdateTime.isSome

namespace FileRecordsWF

variable {fips lcs : List FileRecord}

/-- No records are consistent. -/
theorem nil : FileRecordsWF [] [] :=
  ⟨List.nodup_nil, List.nodup_nil, by simp, by simp, by simp⟩

/-- No file that a partition references is pending garbage collection. -/
theorem not_pending_of_referenced (h : FileRecordsWF fips lcs) {r l : FileRecord} (hr : r ∈ fips)
    (hl : l ∈ lcs) (hname : l.filename = r.filename) : l.status ≠ .gcPending := by
  obtain ⟨l', hl', hname', hactive⟩ := h.referenced_active r hr
  have : l = l' := List.inj_on_of_nodup_map h.names_nodup hl hl' (hname.trans hname'.symm)
  rw [this, hactive]
  decide

/-- Adding the records of new files keeps the records consistent, when the new records are
consistent among themselves, their pairs are new and their lifecycle records are about new
files. -/
theorem append {fips' lcs' : List FileRecord} (h : FileRecordsWF fips lcs)
    (h' : FileRecordsWF fips' lcs')
    (hpairs : ∀ r ∈ fips, ∀ r' ∈ fips', r.pair ≠ r'.pair)
    (hnames : ∀ l ∈ lcs, ∀ l' ∈ lcs', l.filename ≠ l'.filename) :
    FileRecordsWF (fips ++ fips') (lcs ++ lcs') where
  pairs_nodup := by
    rw [List.map_append, List.nodup_append]
    refine ⟨h.pairs_nodup, h'.pairs_nodup, ?_⟩
    simp only [List.mem_map]
    rintro _ ⟨r, hr, rfl⟩ _ ⟨r', hr', rfl⟩
    exact hpairs r hr r' hr'
  names_nodup := by
    rw [List.map_append, List.nodup_append]
    refine ⟨h.names_nodup, h'.names_nodup, ?_⟩
    simp only [List.mem_map]
    rintro _ ⟨l, hl, rfl⟩ _ ⟨l', hl', rfl⟩
    exact hnames l hl l' hl'
  referenced_active := by
    intro r hr
    rcases List.mem_append.1 hr with hr | hr
    · obtain ⟨l, hl, hfacts⟩ := h.referenced_active r hr
      exact ⟨l, List.mem_append_left _ hl, hfacts⟩
    · obtain ⟨l, hl, hfacts⟩ := h'.referenced_active r hr
      exact ⟨l, List.mem_append_right _ hl, hfacts⟩
  lifecycle_jobless := by
    intro l hl
    rcases List.mem_append.1 hl with hl | hl
    · exact h.lifecycle_jobless l hl
    · exact h'.lifecycle_jobless l hl
  stamped := by
    intro r hr
    simp only [List.mem_append] at hr
    rcases hr with (hr | hr) | hr | hr
    · exact h.stamped r (List.mem_append_left _ hr)
    · exact h'.stamped r (List.mem_append_left _ hr)
    · exact h.stamped r (List.mem_append_right _ hr)
    · exact h'.stamped r (List.mem_append_right _ hr)

/-- Removing file-in-partition records keeps the records consistent. -/
theorem sublist_fips {fips' : List FileRecord} (h : FileRecordsWF fips lcs)
    (hs : List.Sublist fips' fips) : FileRecordsWF fips' lcs where
  pairs_nodup := h.pairs_nodup.sublist (hs.map _)
  names_nodup := h.names_nodup
  referenced_active r hr := h.referenced_active r (hs.subset hr)
  lifecycle_jobless := h.lifecycle_jobless
  stamped r hr := h.stamped r ((hs.append_right lcs).subset hr)

/-- Removing lifecycle records that are not active keeps the records consistent. -/
theorem sublist_lcs {lcs' : List FileRecord} (h : FileRecordsWF fips lcs)
    (hs : List.Sublist lcs' lcs) (hkeep : ∀ l ∈ lcs, l.status = .active → l ∈ lcs') : FileRecordsWF fips lcs' where
  pairs_nodup := h.pairs_nodup
  names_nodup := h.names_nodup.sublist (hs.map _)
  referenced_active r hr := by
    obtain ⟨l, hl, hname, hactive⟩ := h.referenced_active r hr
    exact ⟨l, hkeep l hl hactive, hname, hactive⟩
  lifecycle_jobless l hl := h.lifecycle_jobless l (hs.subset hl)
  stamped r hr := h.stamped r ((hs.append_left fips).subset hr)

/-- Changing lifecycle records of files that no partition references, keeping their filenames,
their lack of a job and a time stamp, keeps the records consistent. -/
theorem map_lcs (h : FileRecordsWF fips lcs) (m : FileRecord → FileRecord)
    (hname : ∀ l ∈ lcs, (m l).filename = l.filename)
    (hjob : ∀ l ∈ lcs, (m l).jobId = l.jobId)
    (htime : ∀ l ∈ lcs, (m l).lastUpdateTime.isSome)
    (hfix : ∀ l ∈ lcs, ∀ r ∈ fips, r.filename = l.filename → m l = l) :
    FileRecordsWF fips (lcs.map m) where
  pairs_nodup := h.pairs_nodup
  names_nodup := by
    simp only [List.map_map, Function.comp_def]
    rw [List.map_congr_left hname]
    exact h.names_nodup
  referenced_active r hr := by
    obtain ⟨l, hl, hlname, hactive⟩ := h.referenced_active r hr
    refine ⟨l, ?_, hlname, hactive⟩
    rw [← hfix l hl r hr hlname.symm]
    exact List.mem_map_of_mem hl
  lifecycle_jobless l hl := by
    obtain ⟨l₀, hl₀, rfl⟩ := List.mem_map.1 hl
    rw [hjob l₀ hl₀]
    exact h.lifecycle_jobless l₀ hl₀
  stamped r hr := by
    rcases List.mem_append.1 hr with hr | hr
    · exact h.stamped r (List.mem_append_left _ hr)
    · obtain ⟨l₀, hl₀, rfl⟩ := List.mem_map.1 hr
      exact htime l₀ hl₀

/-- Changing only the jobs of file-in-partition records keeps the records consistent. -/
theorem congr_fips {fips' : List FileRecord} (h : FileRecordsWF fips lcs)
    (he : fips'.map FileRecord.withoutJob = fips.map FileRecord.withoutJob) :
    FileRecordsWF fips' lcs where
  pairs_nodup := by
    have hp : fips'.map FileRecord.pair = fips.map FileRecord.pair := by
      have := congrArg (List.map FileRecord.pair) he
      simpa only [List.map_map, Function.comp_def, FileRecord.pair_withoutJob] using this
    rw [hp]
    exact h.pairs_nodup
  names_nodup := h.names_nodup
  referenced_active r hr := by
    have hm : r.withoutJob ∈ fips.map FileRecord.withoutJob := he ▸ List.mem_map_of_mem hr
    obtain ⟨r₀, hr₀, hsame⟩ := List.mem_map.1 hm
    obtain ⟨l, hl, hname, hactive⟩ := h.referenced_active r₀ hr₀
    refine ⟨l, hl, ?_, hactive⟩
    rw [hname]
    simpa using congrArg FileRecord.filename hsame
  lifecycle_jobless := h.lifecycle_jobless
  stamped r hr := by
    rcases List.mem_append.1 hr with hr | hr
    · have hm : r.withoutJob ∈ fips.map FileRecord.withoutJob := he ▸ List.mem_map_of_mem hr
      obtain ⟨r₀, hr₀, hsame⟩ := List.mem_map.1 hm
      have htime : r₀.lastUpdateTime = r.lastUpdateTime := by
        simpa using congrArg FileRecord.lastUpdateTime hsame
      rw [← htime]
      exact h.stamped r₀ (List.mem_append_left _ hr₀)
    · exact h.stamped r (List.mem_append_right _ hr)

end FileRecordsWF

/-! ## Batches of new files -/

namespace FileRecord

/-- A batch that passes its checks names each file and partition once, and none that was seen
before it. -/
theorem validateBatch_pairs {repeated : FileRecord → Error} :
    ∀ {seen : List (String × String)} {fs : List FileRecord},
      validateBatch repeated seen fs = .ok () → (fs.map pair).Nodup ∧ ∀ f ∈ fs, f.pair ∉ seen
  | _, [], _ => ⟨List.nodup_nil, by simp⟩
  | seen, f :: fs, h => by
    simp only [validateBatch, Except.bind_eq_ok] at h
    obtain ⟨_, -, h⟩ := h
    split at h
    · cases h
    · rename_i hseen
      obtain ⟨hnodup, hfresh⟩ := validateBatch_pairs h
      have hf : f.pair ∉ seen := by simpa [pair] using hseen
      refine ⟨List.nodup_cons.2 ⟨?_, hnodup⟩, ?_⟩
      · simp only [List.mem_map, not_exists, not_and]
        intro g hg he
        exact hfresh g hg (he ▸ List.mem_cons_self)
      · intro g hg
        rcases List.mem_cons.1 hg with rfl | hg
        · exact hf
        · exact fun hm => hfresh g hg (List.mem_cons_of_mem _ hm)

theorem firstPerFilename_sublist :
    ∀ (seen : List String) (fs : List FileRecord), List.Sublist (firstPerFilename seen fs) fs
  | _, [] => List.Sublist.slnil
  | seen, f :: fs => by
    simp only [firstPerFilename]
    split
    · exact (firstPerFilename_sublist seen fs).cons f
    · exact (firstPerFilename_sublist _ fs).cons_cons f

/-- The files chosen for lifecycle records have distinct filenames, none of them seen before. -/
theorem firstPerFilename_names :
    ∀ (seen : List String) (fs : List FileRecord),
      ((firstPerFilename seen fs).map filename).Nodup ∧
        ∀ g ∈ firstPerFilename seen fs, g.filename ∉ seen
  | _, [] => ⟨List.nodup_nil, by simp [firstPerFilename]⟩
  | seen, f :: fs => by
    simp only [firstPerFilename]
    split
    · exact firstPerFilename_names seen fs
    · rename_i hf
      obtain ⟨hnodup, hfresh⟩ := firstPerFilename_names (f.filename :: seen) fs
      refine ⟨?_, ?_⟩
      · rw [List.map_cons, List.nodup_cons]
        refine ⟨?_, hnodup⟩
        simp only [List.mem_map, not_exists, not_and]
        intro g hg he
        exact hfresh g hg (by simp [he])
      · intro g hg
        rcases List.mem_cons.1 hg with rfl | hg
        · simpa using hf
        · exact fun hm => hfresh g hg (List.mem_cons_of_mem _ hm)

/-- Every file of a batch whose filename was not seen before has its filename among the chosen
files. -/
theorem firstPerFilename_covers :
    ∀ (seen : List String) (fs : List FileRecord), ∀ f ∈ fs,
      f.filename ∈ seen ∨ ∃ g ∈ firstPerFilename seen fs, g.filename = f.filename
  | _, [], f, hf => absurd hf List.not_mem_nil
  | seen, f :: fs, f', hf' => by
    simp only [firstPerFilename]
    split
    · rename_i hf
      rcases List.mem_cons.1 hf' with rfl | hf'
      · exact .inl (by simpa using hf)
      · exact firstPerFilename_covers seen fs f' hf'
    · rcases List.mem_cons.1 hf' with rfl | hf'
      · exact .inr ⟨f', List.mem_cons_self, rfl⟩
      · rcases firstPerFilename_covers (f.filename :: seen) fs f' hf' with hs | ⟨g, hg, he⟩
        · rcases List.mem_cons.1 hs with he | hs
          · exact .inr ⟨f, List.mem_cons_self, he.symm⟩
          · exact .inl hs
        · exact .inr ⟨g, List.mem_cons_of_mem _ hg, he⟩

end FileRecord

/-- The records that a batch of new files creates at time `now` are consistent among
themselves. -/
theorem FileRecordsWF.newFiles {fs : List FileRecord} (hv : FileRecord.validateNew fs = .ok ())
    (now : Int) :
    FileRecordsWF (fs.map (·.toFileInPartition now)) (FileRecord.newLifecycleRecords fs now) where
  pairs_nodup := by
    rw [List.map_map]
    exact (FileRecord.validateBatch_pairs hv).1
  names_nodup := by
    simp only [FileRecord.newLifecycleRecords, List.map_map]
    exact (FileRecord.firstPerFilename_names [] fs).1
  referenced_active r hr := by
    obtain ⟨f, hf, rfl⟩ := List.mem_map.1 hr
    rcases FileRecord.firstPerFilename_covers [] fs f hf with hnil | ⟨g, hg, he⟩
    · cases hnil
    · exact ⟨g.toActiveLifecycle now, List.mem_map_of_mem hg, he, rfl⟩
  lifecycle_jobless l hl := by
    obtain ⟨g, -, rfl⟩ := List.mem_map.1 hl
    rfl
  stamped r hr := by
    rcases List.mem_append.1 hr with hr | hr
    · obtain ⟨f, -, rfl⟩ := List.mem_map.1 hr
      rfl
    · obtain ⟨g, -, rfl⟩ := List.mem_map.1 hr
      rfl

end TableState
