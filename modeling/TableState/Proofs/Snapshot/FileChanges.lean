import TableState.Proofs.File.Outcome
import TableState.Proofs.Snapshot.Standing
import TableState.Proofs.Snapshot.Files

/-!
# File changes of the snapshot backend

A snapshot table changes its file records by reading the current list, computing the next one
and committing it as a new revision. Each of its file changes has an outcome of the reference
semantics (`FileOutcome`) on the file-in-partition and lifecycle records of the list it reads,
and ends as that outcome says: with its error, or with a revision that reads back as exactly the
outcome's records (`SnapshotTable.addFiles_outcome`, `SnapshotTable.replaceFiles_outcome`,
`SnapshotTable.assignJob_outcome`).

The commit needs the columns to hold the new list, so every record count must be below 2^63
(`ofFiles_isOk_iff`), and it needs a fresh token for the new revision.
-/

set_option autoImplicit false

namespace TableState

theorem countCell_isOk (n : UInt64) :
    (∃ c, FileColumns.countCell n = .ok c) ↔ n.toNat < Nat.pow 2 63 := by
  by_cases hn : n.toNat < Nat.pow 2 63 <;> simp [FileColumns.countCell, hn]

/-- The columns hold a list of file records exactly when they hold each record count. -/
theorem ofFiles_isOk_iff {fs : List FileRecord} :
    (∃ c, FileColumns.ofFiles fs = .ok c) ↔ ∀ f ∈ fs, f.CountFits := by
  constructor
  · rintro ⟨c, hc⟩ f hf
    obtain ⟨counts, hcounts, -⟩ := Except.bind_eq_ok.1 hc
    obtain ⟨n, -, hn⟩ := (List.forall₂_of_mapM_eq_ok hcounts).exists_of_mem_left hf
    exact (countCell_isOk _).1 ⟨n, hn⟩
  · intro hfit
    obtain ⟨counts, hcounts⟩ := List.mapM_eq_ok_of_forall fun (f : FileRecord) hf =>
      (countCell_isOk f.numberOfRecords).2 (hfit f hf)
    exact ⟨_, by simp [FileColumns.ofFiles, hcounts, bind, Except.bind]; rfl⟩

namespace FileRecord

/-- Setting a job keeps the record counts of a list. -/
theorem count_of_mem_setJob {job : String} {f r : FileRecord} :
    ∀ {rs : List FileRecord}, r ∈ setJob job f rs → ∃ q ∈ rs, r.numberOfRecords = q.numberOfRecords
  | [], h => absurd h List.not_mem_nil
  | q :: rs, h => by
    simp only [setJob] at h
    split at h
    · rcases List.mem_cons.1 h with rfl | h
      · exact ⟨q, List.mem_cons_self, rfl⟩
      · exact ⟨r, List.mem_cons_of_mem _ h, rfl⟩
    · rcases List.mem_cons.1 h with rfl | h
      · exact ⟨r, List.mem_cons_self, rfl⟩
      · obtain ⟨q', hq', he⟩ := count_of_mem_setJob h
        exact ⟨q', List.mem_cons_of_mem _ hq', he⟩

theorem count_of_mem_foldl_setJob {job : String} {r : FileRecord} :
    ∀ {fs rs : List FileRecord}, r ∈ fs.foldl (fun rs f => setJob job f rs) rs →
      ∃ q ∈ rs, r.numberOfRecords = q.numberOfRecords
  | [], _, h => ⟨r, h, rfl⟩
  | f :: fs, rs, h => by
    obtain ⟨q, hq, he⟩ := @count_of_mem_foldl_setJob job r fs _ h
    obtain ⟨q', hq', he'⟩ := count_of_mem_setJob hq
    exact ⟨q', hq', he.trans he'⟩

end FileRecord

namespace SnapshotTable

/-- The file records that a snapshot state reads through a table's series hold an outcome's
file-in-partition and lifecycle records. -/
def FilesRead (t : SnapshotTable) (st : SnapshotState)
    (FL : List FileRecord × List FileRecord) : Prop :=
  ∃ r rs, t.files.read st = .ok (r, rs) ∧ FileRecord.Holds rs FL

variable {t : SnapshotTable} {st : SnapshotState} {cur : RevisionId} {rs : List FileRecord}

/-- The record counts of the list a table reads fit the columns, since its object does. -/
theorem read_countFits (hfmt : t.files.format = fileFormat) (ho : st.objects.Encodable)
    (hread : t.files.read st = .ok (cur, rs)) : ∀ f ∈ rs, f.CountFits := by
  obtain ⟨-, u, loc, obj, -, -, hobj, hdec⟩ := SnapshotSeries.read_current hread
  rw [hfmt] at hdec
  obtain ⟨obj', henc⟩ := fileFormat_decode_encodable (ho loc obj hobj) hdec
  obtain ⟨c, hc, -⟩ := Except.map_eq_ok.1 henc
  exact ofFiles_isOk_iff.1 ⟨c, hc⟩

/-- An update of the file records agrees with the list computation of its change: it fails with
its error, or commits a revision that reads back as its list, when the list's counts fit the
columns and fewer than 2^64 - 1 tokens have been issued. -/
theorem update_rel (hs : t.files.Standing) (hfmt : t.files.format = fileFormat)
    (hwf : RevisionKind.files.PointerWF st.pointers st.objects.tokens)
    (hread : t.files.read st = .ok (cur, rs)) (hroom : st.objects.tokens + 1 < Nat.pow 2 64)
    {change : List FileRecord → Except Error (Option (List FileRecord))}
    {y : Except Error (List FileRecord)} (hchange : change rs = y.map some)
    (hfit : ∀ rs', y = .ok rs' → ∀ f ∈ rs', f.CountFits) :
    Except.Rel (fun st' rs' => ∃ r, t.files.read st' = .ok (r, rs'))
      (Except.committed (t.files.update st change)) y := by
  cases y with
  | error e =>
    rw [SnapshotSeries.update_change_error hs.attempts hread hchange, Except.committed_error]
    exact .error e
  | ok rs' =>
    obtain ⟨c, hc⟩ := ofFiles_isOk_iff.2 (hfit rs' rfl)
    have henc : t.files.format.encode rs' = .ok (.files rs') := by
      rw [hfmt]
      simp [fileFormat, hc]
    obtain ⟨st', hupdate, r, hr⟩ :=
      SnapshotSeries.update_commits hs (by rw [hfmt]; exact hwf) change hread hchange henc hroom
    rw [hupdate, Except.committed_ok]
    exact .ok ⟨r, hr⟩

/-- The state a table keeps its file records in: the series stands on a `mem` location in the
file format, its pointer is well formed, the objects fit the columns, the list read is
consistent, and a token is left for the next revision. -/
structure FilesReady (t : SnapshotTable) (st : SnapshotState) (cur : RevisionId)
    (rs : List FileRecord) : Prop where
  standing : t.files.Standing
  format : t.files.format = fileFormat
  pointer : RevisionKind.files.PointerWF st.pointers st.objects.tokens
  encodable : st.objects.Encodable
  read : t.files.read st = .ok (cur, rs)
  wf : RecordListWF rs
  room : st.objects.tokens + 1 < Nat.pow 2 64

/-- A table in good standing that reads its file-in-partition and lifecycle records from
consistent objects, with a token left, is ready for a change of the list those are the parts
of. -/
theorem filesReady_of_reads {F L : List FileRecord}
    (hF : (t.files.records st).map (·.filter (!·.isLifecycle)) = .ok F)
    (hL : (t.files.records st).map (·.filter (·.isLifecycle)) = .ok L)
    (hs : t.files.Standing) (hfmt : t.files.format = fileFormat)
    (hwf : RevisionKind.files.PointerWF st.pointers st.objects.tokens) (ho : st.objects.Encodable)
    (hof : st.objects.FilesWF) (hroom : st.objects.tokens + 1 < Nat.pow 2 64) :
    ∃ cur rs, t.FilesReady st cur rs ∧ F = rs.filter (!·.isLifecycle) ∧
      L = rs.filter (·.isLifecycle) := by
  obtain ⟨cur, rs, hread, rfl, rfl⟩ := SnapshotSeries.read_of_parts hF hL
  exact ⟨cur, rs, ⟨hs, hfmt, hwf, ho, hread, SnapshotSeries.read_files_wf hfmt hof hread, hroom⟩,
    rfl, rfl⟩

/-- A change of the file records, read as its list computation, ends as the list computation's
outcome says. -/
theorem FilesReady.update_outcome (h : t.FilesReady st cur rs)
    {change : List FileRecord → Except Error (Option (List FileRecord))}
    {y : Except Error (List FileRecord)} (hchange : change rs = y.map some)
    (hfit : ∀ rs', y = .ok rs' → ∀ f ∈ rs', f.CountFits) {r : Except Error (List FileRecord × List FileRecord)}
    (hrel : Except.Rel FileRecord.Holds y r) :
    Except.Rel t.FilesRead (Except.committed (t.files.update st change)) r :=
  ((update_rel h.standing h.format h.pointer h.read h.room hchange hfit).trans hrel).mono
    fun _ _ ⟨rs', ⟨r', hr'⟩, hh⟩ => ⟨r', rs', hr', hh⟩

variable {now : Int}

/-- Adding files to a snapshot table has an outcome of adding them to the records it reads. -/
theorem addFiles_outcome (h : t.FilesReady st cur rs) {fs : List FileRecord}
    (hfit : ∀ f ∈ fs, f.CountFits) :
    ∃ r, FileOutcome (rs.filter (!·.isLifecycle)) (rs.filter (·.isLifecycle)) now (.addFiles fs) r ∧
      Except.Rel t.FilesRead (Except.committed (t.addFiles st now fs)) r := by
  unfold addFiles
  cases hv : FileRecord.validateNew fs with
  | error e => exact ⟨_, .addRefused hv, .error e⟩
  | ok u =>
    obtain ⟨r, hr, hrel⟩ := @FileRecord.insertFiles_outcome rs fs hv now
    refine ⟨r, hr, ?_⟩
    show Except.Rel _
      (Except.committed (t.files.update st fun rs => some <$> FileRecord.insertFiles rs fs now)) r
    refine h.update_outcome ?_ ?_ hrel
    · rfl
    -- the new list holds the records read and those of the new files
    intro rs' hrs' f hf
    obtain ⟨-, rfl⟩ := FileRecord.insertFiles_eq_ok hrs'
    simp only [List.mem_append, List.mem_map, FileRecord.newLifecycleRecords] at hf
    rcases hf with (hf | ⟨g, hg, rfl⟩) | ⟨g, hg, rfl⟩
    · exact read_countFits h.format h.encodable h.read f hf
    · exact hfit g hg
    · exact hfit g ((FileRecord.firstPerFilename_sublist [] fs).subset hg)

/-- Replacing records of a snapshot table has an outcome of replacing them among the records it
reads. -/
theorem replaceFiles_outcome (h : t.FilesReady st cur rs) {old new : List FileRecord}
    (hfit : ∀ f ∈ new, f.CountFits) :
    ∃ r, FileOutcome (rs.filter (!·.isLifecycle)) (rs.filter (·.isLifecycle)) now
        (.replaceFiles old new) r ∧
      Except.Rel t.FilesRead (Except.committed (t.replaceFiles st now old new)) r := by
  unfold replaceFiles
  cases hvo : FileRecord.validateExisting old with
  | error e => exact ⟨_, .replaceRefusedOld hvo, .error e⟩
  | ok u =>
    cases hvn : FileRecord.validateNew new with
    | error e => exact ⟨_, .replaceRefusedNew hvo hvn, .error e⟩
    | ok u' =>
      obtain ⟨r, hr, hrel⟩ := FileRecord.replace_outcome h.wf.pairs_nodup hvo hvn now
      refine ⟨r, hr, ?_⟩
      show Except.Rel _ (Except.committed (t.files.update st fun rs => do
        let rs ← FileRecord.removeRecords rs old
        some <$> FileRecord.insertFiles rs new now)) r
      refine h.update_outcome ?_ ?_ hrel
      · cases FileRecord.removeRecords rs old <;> rfl
      · -- what is left of the list read, and the records of the new files
        intro rs' hrs' f hf
        obtain ⟨rs₁, hrs₁, hins⟩ := Except.bind_eq_ok.1 hrs'
        obtain ⟨-, rfl⟩ := FileRecord.insertFiles_eq_ok hins
        simp only [List.mem_append, List.mem_map, FileRecord.newLifecycleRecords] at hf
        rcases hf with (hf | ⟨g, hg, rfl⟩) | ⟨g, hg, rfl⟩
        · exact read_countFits h.format h.encodable h.read f
            ((FileRecord.removeRecords_eq_ok hrs₁).1.subset hf)
        · exact hfit g hg
        · exact hfit g ((FileRecord.firstPerFilename_sublist [] new).subset hg)

/-- Assigning a job in a snapshot table has an outcome of assigning it among the records it
reads. -/
theorem assignJob_outcome (h : t.FilesReady st cur rs) (job : String) (fs : List FileRecord) :
    ∃ r, FileOutcome (rs.filter (!·.isLifecycle)) (rs.filter (·.isLifecycle)) now
        (.assignJob job fs) r ∧
      Except.Rel t.FilesRead (Except.committed (t.assignJob st job fs)) r := by
  unfold assignJob
  cases hjob : job.isEmpty with
  | true => exact ⟨_, .assignUnnamed hjob, .error _⟩
  | false =>
    cases hv : FileRecord.validateExisting fs with
    | error e => exact ⟨_, .assignRefused hjob hv, .error e⟩
    | ok u =>
      obtain ⟨r, hr, hrel⟩ := FileRecord.claim_outcome h.wf.pairs_nodup hjob hv now
      refine ⟨r, hr, ?_⟩
      show Except.Rel _
        (Except.committed (t.files.update st fun rs => some <$> FileRecord.claim rs job fs)) r
      refine h.update_outcome ?_ ?_ hrel
      · rfl
      -- the job changes no record count
      intro rs' hrs' f hf
      rw [FileRecord.claim_eq] at hrs'
      split at hrs'
      · cases hrs'
      · cases hrs'
        obtain ⟨q, hq, he⟩ := FileRecord.count_of_mem_foldl_setJob hf
        have hq := read_countFits h.format h.encodable h.read q hq
        rwa [FileRecord.CountFits, ← he] at hq

end SnapshotTable

end TableState
