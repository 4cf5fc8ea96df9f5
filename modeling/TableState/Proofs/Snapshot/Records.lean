import TableState.Store.SnapshotTable
import TableState.Proofs.File.Records

/-!
# The record list of the snapshot backend

The snapshot backend keeps all file records of a table in one list; the file-in-partition
records are those that are not lifecycle records. `RecordListWF rs` says that the two kinds of
record in `rs` are consistent (`FileRecordsWF`). Each change of the list keeps it so, by one of
the ways of `TableState.Proofs.File.Records`:

* `FileRecord.insertFiles` appends the records of new files, after checking that none of their
  pairs and filenames is recorded (`RecordListWF.insertFiles`);
* `FileRecord.removeRecords` removes file-in-partition records (`RecordListWF.removeRecords`);
* `FileRecord.claim` sets the jobs of file-in-partition records (`RecordListWF.claim`);
* `FileRecord.markUnreferenced` marks lifecycle records that no partition references
  (`RecordListWF.markUnreferenced`);
* `FileRecord.removeLifecycle` removes lifecycle records pending garbage collection, never an
  active one (`RecordListWF.removeLifecycle`).
-/

set_option autoImplicit false

namespace TableState

/-- The file-in-partition records and the lifecycle records of a record list are consistent. -/
def RecordListWF (rs : List FileRecord) : Prop :=
  FileRecordsWF (rs.filter (!·.isLifecycle)) (rs.filter (·.isLifecycle))

theorem RecordListWF.nil : RecordListWF [] :=
  FileRecordsWF.nil

namespace FileRecord

variable {rs rs' : List FileRecord}

theorem isLifecycle_of_recordOf {f r : FileRecord} (h : recordOf f r = true) :
    r.isLifecycle = false := by
  simp only [recordOf, Bool.and_eq_true, beq_iff_eq] at h
  simp [isLifecycle, h.1]

/-- Inserting files succeeds when no file has a record or a lifecycle record, and appends
their records. -/
theorem insertFiles_eq_ok {fs : List FileRecord} {now : Int}
    (h : insertFiles rs fs now = .ok rs') :
    (∀ f ∈ fs, rs.any (recordOf f) = false ∧ hasLifecycle rs f.filename = false) ∧
      rs' = rs ++ fs.map (·.toFileInPartition now) ++ newLifecycleRecords fs now := by
  simp only [insertFiles, Except.bind_eq_ok] at h
  obtain ⟨_, hloop, hrest⟩ := h
  refine ⟨?_, (Except.pure_eq_ok.1 hrest).symm⟩
  have hchecks := List.forIn_checks_ok (fun f u => by split <;> simp [throw, throwThe,
    MonadExceptOf.throw, bind, Except.bind, pure, Except.pure]) hloop
  intro f hf
  have hok := hchecks f hf
  split at hok
  · simp [throw, throwThe, MonadExceptOf.throw, bind, Except.bind] at hok
  · rename_i hcheck
    simpa using hcheck

/-- A removal succeeds by taking out one element that satisfies the predicate. -/
theorem removeFirst_eq_some {p : FileRecord → Bool} :
    ∀ {rs rs' : List FileRecord}, removeFirst p rs = some rs' →
      ∃ xs r ys, rs = xs ++ r :: ys ∧ rs' = xs ++ ys ∧ p r = true
  | [], _, h => by cases h
  | r :: rs, rs', h => by
    simp only [removeFirst] at h
    split at h
    · rename_i hr
      cases h
      exact ⟨[], r, rs, rfl, rfl, hr⟩
    · obtain ⟨rs₁, hrs₁, rfl⟩ := Option.map_eq_some_iff.1 h
      obtain ⟨xs, r', ys, rfl, rfl, hr'⟩ := removeFirst_eq_some hrs₁
      exact ⟨r :: xs, r', ys, rfl, rfl, hr'⟩

/-- Taking out an element keeps the others, in order. -/
theorem sublist_of_removed {xs ys : List FileRecord} (r : FileRecord) :
    List.Sublist (xs ++ ys) (xs ++ r :: ys) :=
  (List.sublist_cons_self r ys).append_left xs

/-- Removing file-in-partition records keeps the others and every lifecycle record. -/
theorem removeRecords_eq_ok : ∀ {rs rs' old : List FileRecord}, removeRecords rs old = .ok rs' →
    List.Sublist rs' rs ∧ rs'.filter (·.isLifecycle) = rs.filter (·.isLifecycle)
  | rs, rs', [], h => by
    cases h
    exact ⟨List.Sublist.refl _, rfl⟩
  | rs, rs', f :: old, h => by
    simp only [removeRecords] at h
    split at h
    · rename_i rs₁ hrs₁
      obtain ⟨xs, r, ys, rfl, rfl, hr⟩ := removeFirst_eq_some hrs₁
      obtain ⟨hsub, hlife⟩ := removeRecords_eq_ok h
      refine ⟨hsub.trans (sublist_of_removed r), ?_⟩
      rw [hlife, List.filter_append, List.filter_append, List.filter_cons,
        if_neg (by simp [isLifecycle_of_recordOf hr])]
    · cases h

/-- Setting a job keeps every lifecycle record. -/
theorem setJob_lifecycle (job : String) (f : FileRecord) :
    ∀ rs : List FileRecord,
      (setJob job f rs).filter (·.isLifecycle) = rs.filter (·.isLifecycle)
  | [] => rfl
  | r :: rs => by
    simp only [setJob]
    split
    · rename_i hr
      have hl : r.isLifecycle = false := isLifecycle_of_recordOf hr
      simp only [List.filter_cons]
      rw [if_neg (by simpa [isLifecycle] using hl), if_neg (by simp [hl])]
    · simp only [List.filter_cons, setJob_lifecycle job f rs]

/-- Setting a job changes nothing of the file-in-partition records but a job. -/
theorem setJob_withoutJob (job : String) (f : FileRecord) :
    ∀ rs : List FileRecord,
      ((setJob job f rs).filter (!·.isLifecycle)).map withoutJob =
        (rs.filter (!·.isLifecycle)).map withoutJob
  | [] => rfl
  | r :: rs => by
    simp only [setJob]
    split
    · rename_i hr
      have hl : r.isLifecycle = false := isLifecycle_of_recordOf hr
      simp only [List.filter_cons]
      rw [if_pos (by simpa [isLifecycle] using hl), if_pos (by simp [hl])]
      rfl
    · simp only [List.filter_cons]
      split <;> simp only [List.map_cons, setJob_withoutJob job f rs]

/-- Setting jobs one file after another changes nothing but the jobs of file-in-partition
records. -/
theorem foldl_setJob (job : String) :
    ∀ (fs rs : List FileRecord),
      (fs.foldl (fun rs f => setJob job f rs) rs).filter (·.isLifecycle) =
          rs.filter (·.isLifecycle) ∧
        ((fs.foldl (fun rs f => setJob job f rs) rs).filter (!·.isLifecycle)).map withoutJob =
          (rs.filter (!·.isLifecycle)).map withoutJob
  | [], _ => ⟨rfl, rfl⟩
  | f :: fs, rs => by
    obtain ⟨h1, h2⟩ := foldl_setJob job fs (setJob job f rs)
    exact ⟨h1.trans (setJob_lifecycle job f rs), h2.trans (setJob_withoutJob job f rs)⟩

/-- Claiming records for a job changes nothing but the jobs of file-in-partition records. -/
theorem claim_eq_ok {job : String} {fs : List FileRecord} (h : claim rs job fs = .ok rs') :
    rs'.filter (·.isLifecycle) = rs.filter (·.isLifecycle) ∧
      (rs'.filter (!·.isLifecycle)).map withoutJob = (rs.filter (!·.isLifecycle)).map withoutJob := by
  simp only [claim, Except.bind_eq_ok] at h
  obtain ⟨_, -, hrest⟩ := h
  rw [← Except.pure_eq_ok.1 hrest]
  exact foldl_setJob job fs rs

/-- Removing lifecycle records pending garbage collection keeps every file-in-partition record
and every record that is not pending. -/
theorem removeLifecycle_eq_ok : ∀ {rs rs' : List FileRecord} {names : List String},
    removeLifecycle rs names = .ok rs' →
      List.Sublist rs' rs ∧ rs'.filter (!·.isLifecycle) = rs.filter (!·.isLifecycle) ∧
        ∀ r ∈ rs, r.status ≠ .gcPending → r ∈ rs'
  | rs, rs', [], h => by
    cases h
    exact ⟨List.Sublist.refl _, rfl, fun _ hr _ => hr⟩
  | rs, rs', n :: names, h => by
    simp only [removeLifecycle] at h
    split at h
    · rename_i rs₁ hrs₁
      obtain ⟨xs, r, ys, rfl, rfl, hr⟩ := removeFirst_eq_some hrs₁
      obtain ⟨hsub, hfips, hkeep⟩ := removeLifecycle_eq_ok h
      have hpending : r.status = .gcPending := by
        simp only [Bool.and_eq_true, beq_iff_eq] at hr
        exact hr.1
      refine ⟨hsub.trans (sublist_of_removed r), ?_, ?_⟩
      · rw [hfips, List.filter_append, List.filter_append, List.filter_cons,
          if_neg (by simp [isLifecycle, hpending])]
      · intro x hx hxp
        apply hkeep x _ hxp
        rcases List.mem_append.1 hx with hx | hx
        · exact List.mem_append_left _ hx
        · rcases List.mem_cons.1 hx with rfl | hx
          · exact absurd hpending hxp
          · exact List.mem_append_right _ hx
    · cases h

end FileRecord

namespace RecordListWF

open FileRecord

variable {rs rs' : List FileRecord}

/-- Inserting checked new files keeps a record list consistent. -/
theorem insertFiles (h : RecordListWF rs) {fs : List FileRecord} {now : Int}
    (hv : validateNew fs = .ok ()) (hi : FileRecord.insertFiles rs fs now = .ok rs') :
    RecordListWF rs' := by
  obtain ⟨hfresh, rfl⟩ := insertFiles_eq_ok hi
  have hF : (fs.map (·.toFileInPartition now)).filter (!·.isLifecycle) =
      fs.map (·.toFileInPartition now) := List.filter_eq_self.2 (by simp)
  have hL : (fs.map (·.toFileInPartition now)).filter (·.isLifecycle) = [] :=
    List.filter_eq_nil_iff.2 (by simp)
  have hF' : (newLifecycleRecords fs now).filter (!·.isLifecycle) = [] :=
    List.filter_eq_nil_iff.2 (by simp [newLifecycleRecords])
  have hL' : (newLifecycleRecords fs now).filter (·.isLifecycle) = newLifecycleRecords fs now :=
    List.filter_eq_self.2 (by simp [newLifecycleRecords])
  unfold RecordListWF
  simp only [List.filter_append, hF, hL, hF', hL', List.append_nil]
  refine h.append (FileRecordsWF.newFiles hv now) ?_ ?_
  · -- a new pair would have been found as a record of the file
    intro r hr r' hr' he
    obtain ⟨f, hf, rfl⟩ := List.mem_map.1 hr'
    obtain ⟨hrs, hlife⟩ := List.mem_filter.1 hr
    have hrec : recordOf f r = true := by
      have he' : r.pair = f.pair := he
      have hp : r.filename = f.filename ∧ r.partitionId = f.partitionId := by
        simpa [pair] using he'
      simp [recordOf, sameFileInPartition, status_of_not_isLifecycle (by simpa using hlife), hp]
    have := (hfresh f hf).1
    rw [List.any_eq_false] at this
    exact this r hrs hrec
  · -- a new lifecycle record's file would have been found with a lifecycle record
    intro l hl l' hl' he
    obtain ⟨g, hg, rfl⟩ := List.mem_map.1 hl'
    have hgf : g ∈ fs := (firstPerFilename_sublist [] fs).subset hg
    obtain ⟨hls, hlife⟩ := List.mem_filter.1 hl
    have := (hfresh g hgf).2
    simp only [hasLifecycle, List.any_eq_false, Bool.and_eq_true, beq_iff_eq, not_and] at this
    exact this l hls hlife he

/-- Removing file-in-partition records keeps a record list consistent. -/
theorem removeRecords (h : RecordListWF rs) {old : List FileRecord}
    (hr : FileRecord.removeRecords rs old = .ok rs') : RecordListWF rs' := by
  obtain ⟨hsub, hlife⟩ := removeRecords_eq_ok hr
  unfold RecordListWF
  rw [hlife]
  exact h.sublist_fips (hsub.filter _)

/-- Claiming records for a job keeps a record list consistent. -/
theorem claim (h : RecordListWF rs) {job : String} {fs : List FileRecord}
    (hc : FileRecord.claim rs job fs = .ok rs') : RecordListWF rs' := by
  obtain ⟨hlife, hjobs⟩ := claim_eq_ok hc
  unfold RecordListWF
  rw [hlife]
  exact h.congr_fips hjobs

/-- Changing lifecycle records of files that no partition references, keeping them lifecycle
records with their filenames, no job and a time stamp, keeps a record list consistent. -/
theorem map_lifecycle (h : RecordListWF rs) (m : FileRecord → FileRecord)
    (hlife : ∀ r, (m r).isLifecycle = r.isLifecycle)
    (hfip : ∀ r, r.isLifecycle = false → m r = r)
    (hname : ∀ r, (m r).filename = r.filename) (hjob : ∀ r, (m r).jobId = r.jobId)
    (htime : ∀ r ∈ rs, r.isLifecycle = true → (m r).lastUpdateTime.isSome)
    (hfix : ∀ l ∈ rs, ∀ r ∈ rs, r.isLifecycle = false → r.filename = l.filename → m l = l) :
    RecordListWF (rs.map m) := by
  have hF : (rs.map m).filter (!·.isLifecycle) = rs.filter (!·.isLifecycle) := by
    rw [List.filter_map]
    have hp : ((!·.isLifecycle) ∘ m) = (!·.isLifecycle) := funext fun r => by simp [hlife]
    rw [hp]
    conv_rhs => rw [← List.map_id (rs.filter _)]
    apply List.map_congr_left
    intro r hr
    exact hfip r (by simpa using (List.mem_filter.1 hr).2)
  have hL : (rs.map m).filter (·.isLifecycle) = (rs.filter (·.isLifecycle)).map m := by
    rw [List.filter_map]
    have hp : ((·.isLifecycle) ∘ m) = (·.isLifecycle) := funext fun r => by simp [hlife]
    rw [hp]
  unfold RecordListWF
  rw [hF, hL]
  refine h.map_lcs m (fun l _ => hname l) (fun l _ => hjob l) ?_ ?_
  · intro l hl
    obtain ⟨hl, hlife⟩ := List.mem_filter.1 hl
    exact htime l hl hlife
  · intro l hl r hr he
    obtain ⟨hr, hrl⟩ := List.mem_filter.1 hr
    exact hfix l (List.mem_of_mem_filter hl) r hr (by simpa using hrl) he

/-- Marking the unreferenced active files keeps a record list consistent: a file that a
partition references is never marked. -/
theorem markUnreferenced (h : RecordListWF rs) {now : Int}
    (hm : FileRecord.markUnreferenced rs now = some rs') : RecordListWF rs' := by
  simp only [FileRecord.markUnreferenced] at hm
  split at hm
  · cases hm
    apply h.map_lifecycle
    · intro r
      split
      · rename_i hr
        simp only [Bool.and_eq_true, beq_iff_eq] at hr
        simp only [isLifecycle, hr.1]
        rfl
      · rfl
    · intro r hr
      rw [if_neg]
      simp [status_of_not_isLifecycle hr]
    · intro r
      split <;> rfl
    · intro r
      split <;> rfl
    · intro r hr hlife
      split
      · rfl
      · exact h.stamped r (List.mem_append_right _ (List.mem_filter.2 ⟨hr, hlife⟩))
    · intro l _ r hr hrl he
      rw [if_neg]
      have hin : (rs.filter (!·.isLifecycle)).map (·.filename) |>.contains l.filename := by
        rw [List.contains_iff_mem, ← he]
        exact List.mem_map_of_mem (List.mem_filter.2 ⟨hr, by simpa using hrl⟩)
      simp only [hin, Bool.not_true, Bool.and_false]
      exact Bool.false_ne_true
  · cases hm

/-- Removing lifecycle records pending garbage collection keeps a record list consistent. -/
theorem removeLifecycle (h : RecordListWF rs) {names : List String}
    (hr : FileRecord.removeLifecycle rs names = .ok rs') : RecordListWF rs' := by
  obtain ⟨hsub, hfips, hkeep⟩ := removeLifecycle_eq_ok hr
  unfold RecordListWF
  rw [hfips]
  refine h.sublist_lcs (hsub.filter _) ?_
  intro l hl hactive
  obtain ⟨hl, hlife⟩ := List.mem_filter.1 hl
  exact List.mem_filter.2 ⟨hkeep l hl (by rw [hactive]; decide), hlife⟩

end RecordListWF

end TableState
