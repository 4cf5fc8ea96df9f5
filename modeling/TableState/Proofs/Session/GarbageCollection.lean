import TableState.Proofs.Session.FileChanges

/-!
# Marking files for garbage collection

Garbage collection marks, at the time given, every active lifecycle record whose file no
file-in-partition record names: the record becomes pending garbage collection, stamped with that
time. `FileRecord.markAll` says so on the records a table reads, and both backends follow it
(`TableStore.markGcPending_agrees`). The item backend writes one conditional update per record to
mark, so a file's update marks its lifecycle record only while it is active; the snapshot backend
rewrites its list, and writes a revision only when a record changed.

After marking no record is left to mark (`FileRecord.unreferenced_of_mem_markAll`), so marking
again, at any time, changes neither the table nor the objects. A lifecycle record is ready for
collection when it has been pending since before the cutoff, the time less the table's delay;
lifecycle records name distinct files, so the read of the ready records gives each of them once
(`Session.Reachable.gcMarking_exact`).
-/

set_option autoImplicit false

namespace TableState

namespace FileRecord

/-- Whether garbage collection marks a record, among the file-in-partition records `F`: the
record is active and no record of `F` names its file. -/
def unreferenced (F : List FileRecord) (r : FileRecord) : Bool :=
  r.status == .active && !(F.map (·.filename)).contains r.filename

/-- The lifecycle records `L` once garbage collection has marked them at `now`. -/
def markAll (F L : List FileRecord) (now : Int) : List FileRecord :=
  L.map fun r => if unreferenced F r then r.markedAt now else r

variable {F F' L L' : List FileRecord} {now : Int}

@[simp] theorem unreferenced_markedAt (r : FileRecord) : unreferenced F (r.markedAt now) = false := by
  simp [unreferenced, markedAt]

@[simp] theorem unreferenced_asStored (r : FileRecord) : unreferenced F r.asStored = unreferenced F r :=
  rfl

theorem unreferenced_perm (hF : F.Perm F') (r : FileRecord) :
    unreferenced F r = unreferenced F' r := by
  have hc : (F.map (·.filename)).contains r.filename = (F'.map (·.filename)).contains r.filename := by
    rw [Bool.eq_iff_iff, List.contains_iff_mem, List.contains_iff_mem]
    exact (hF.map _).mem_iff
  rw [unreferenced, unreferenced, hc]

/-- No record is marked twice: after marking, none is left to mark. -/
theorem unreferenced_of_mem_markAll {r : FileRecord} (hr : r ∈ markAll F L now) :
    unreferenced F r = false := by
  obtain ⟨x, -, rfl⟩ := List.mem_map.1 hr
  split
  · exact unreferenced_markedAt x
  · exact Bool.eq_false_iff.2 ‹_›

/-- Marking records none of which is to be marked leaves them as they are. -/
theorem markAll_of_forall (h : ∀ r ∈ L, unreferenced F r = false) : markAll F L now = L :=
  (List.map_congr_left fun r hr => by rw [h r hr]; rfl).trans (List.map_id L)

theorem markAll_perm (hF : F.Perm F') (hL : L.Perm L') :
    (markAll F L now).Perm (markAll F' L' now) := by
  unfold markAll
  simp only [unreferenced_perm hF]
  exact hL.map _

/-- A record keeps its stamp through a signed 64-bit integer when the time fits one. -/
theorem asStored_markedAt (r : FileRecord) (hnow : isInstant now = true) :
    (r.markedAt now).asStored = r.asStored.markedAt now := by
  simp only [asStored, markedAt, Option.map_some, toInt_ofInt_of_isInstant hnow]

end FileRecord

/-! ## The item backend -/

namespace ItemStore

open FileRecord

variable {s : ItemStore} {ws F L : List FileRecord} {n : Nat} {now : Int}

/-- A stored record once the files `names` have been marked in turn: the active lifecycle record
of one of them is marked. -/
def markNamed (names : List String) (now : Int) (w : FileRecord) : FileRecord :=
  if w.isLifecycle && w.status == .active && names.contains w.filename then w.markedAt now else w

/-- Marking a file, then others, marks as marking them all at once. -/
theorem markNamed_mark (names : List String) (now : Int) (f w : FileRecord) :
    markNamed names now (if marks f w then w.markedAt now else w) =
      markNamed (f.filename :: names) now w := by
  -- only the active lifecycle record of the file is marked, and a marked record is not active
  cases hl : w.isLifecycle
  · simp [markNamed, marks, hl]
  · by_cases ha : w.status = .active
    · by_cases hf : w.filename = f.filename
      · simp [markNamed, marks, markedAt, hl, ha, hf]
      · simp [markNamed, marks, hl, ha, hf]
    · simp [markNamed, marks, hl, ha]

theorem foldl_marks (now : Int) : ∀ (us ws : List FileRecord),
    us.foldl (fun ws f => ws.map fun w => if marks f w then w.markedAt now else w) ws =
      ws.map (markNamed (us.map (·.filename)) now)
  | [], ws => by
    rw [List.foldl_nil]
    conv_lhs => rw [← List.map_id ws]
    exact List.map_congr_left fun w _ => by simp [markNamed]
  | f :: us, ws => by
    rw [List.foldl_cons, foldl_marks now us, List.map_map]
    exact List.map_congr_left fun w _ => markNamed_mark _ now f w

/-- Marking reads both kinds of record, then marks the unreferenced ones in turn. -/
theorem markGcPending_of_reads (hF : s.fileInPartitionRecords n = .ok F)
    (hL : s.lifecycleRecords n = .ok L) :
    s.markGcPending n now = (⟨s.partitionTable, (L.filter (unreferenced F)).foldl
      (fun t f => (t.transact [markWrite now f]).2) s.fileTable⟩, .ok ()) := by
  simp only [markGcPending, hF, hL]
  rfl

/-- Marking keeps the kind of every record. -/
@[simp] theorem isLifecycle_markNamed (names : List String) (w : FileRecord) :
    (markNamed names now w).isLifecycle = w.isLifecycle := by
  unfold markNamed
  split
  · rename_i hm
    simp only [Bool.and_eq_true] at hm
    rw [hm.1.1]
    rfl
  · rfl

/-- Marking at `now` on an item store whose file table is a view of the records `F` and `L`
marks the records that `markAll` marks, and nothing else. -/
theorem markGcPending_outcome (h : s.fileTable.FilesView ws F L)
    (hnow : isInstant now = true) (n : Nat) :
    ∃ s', s.markGcPending n now = (s', .ok ()) ∧ s'.FilesHeld (F, markAll F L now) := by
  obtain ⟨⟨F₀, hF₀, hF₀p⟩, L₀, hL₀, hL₀p⟩ := h.reads n
  set us := L₀.filter (unreferenced F₀) with hus
  -- a lifecycle record is marked exactly when `markAll` marks it
  have hcond : ∀ w ∈ ws, w.isLifecycle = true →
      (w.isLifecycle && w.status == .active && (us.map (·.filename)).contains w.filename) =
        unreferenced F w := by
    intro w hw hl
    rw [hl, Bool.true_and, unreferenced]
    by_cases ha : w.status = .active
    · simp only [ha, beq_self_eq_true, Bool.true_and]
      cases hc : (F.map (·.filename)).contains w.filename
      · -- the record read for `w` is among those marked
        have hmem : w.asStored ∈ L₀ := (hL₀p.trans h.lifecycles).mem_iff.2
          (List.mem_map_of_mem (List.mem_filter.2 ⟨hw, hl⟩))
        have hu : unreferenced F₀ w.asStored = true := by
          rw [unreferenced_perm hF₀p, unreferenced_asStored, unreferenced, ha, hc]
          rfl
        exact List.contains_iff_mem.2 (List.mem_map.2 ⟨w.asStored, List.mem_filter.2 ⟨hmem, hu⟩, rfl⟩)
      · -- a record marked names no file that a file-in-partition record names
        refine Bool.eq_false_iff.2 fun hc' => ?_
        obtain ⟨u, hu, hname⟩ := List.mem_map.1 (List.contains_iff_mem.1 hc')
        have hun := (List.mem_filter.1 hu).2
        rw [unreferenced_perm hF₀p, unreferenced, hname, hc] at hun
        simp at hun
    · simp only [beq_eq_false_iff_ne.2 ha, Bool.false_and]
  have hmark : ∀ w ∈ ws, w.isLifecycle = true →
      markNamed (us.map (·.filename)) now w = if unreferenced F w then w.markedAt now else w := by
    intro w hw hl
    rw [markNamed, hcond w hw hl]
  have hm := h.mirrors.foldl_markWrite now us
  rw [foldl_marks] at hm
  refine ⟨_, markGcPending_of_reads hF₀ hL₀, _, hm, fun w hw => ?_, fun w hw => ?_, ?_, ?_⟩
  · obtain ⟨x, hx, rfl⟩ := List.mem_map.1 hw
    unfold markNamed
    split
    · exact h.nulFree x hx
    · exact h.nulFree x hx
  · obtain ⟨x, hx, rfl⟩ := List.mem_map.1 hw
    unfold markNamed
    split
    · -- a mark stamps the record at the instant `now`
      exact ⟨(h.fits x hx).1, timeFits_of_instant hnow⟩
    · exact h.fits x hx
  · -- no file-in-partition record changes
    refine h.fips.trans (List.Perm.of_eq ?_)
    rw [filter_fileInPartition_map (isLifecycle_markNamed _)]
    congr 1
    conv_lhs => rw [← List.map_id (ws.filter _)]
    refine List.map_congr_left fun w hw => ?_
    have hl : w.isLifecycle = false := by simpa using (List.mem_filter.1 hw).2
    simp [markNamed, hl]
  · refine (markAll_perm (.refl F) h.lifecycles).trans (List.Perm.of_eq ?_)
    rw [filter_lifecycle_map (isLifecycle_markNamed _), markAll, List.map_map, List.map_map]
    refine List.map_congr_left fun w hw => ?_
    obtain ⟨hw, hl⟩ := List.mem_filter.1 hw
    simp only [Function.comp_apply, hmark w hw hl]
    -- a record reads back with the marks it was written with
    by_cases hu : unreferenced F w = true
    · rw [if_pos (show unreferenced F w.asStored = true from hu), if_pos hu,
        asStored_markedAt w hnow]
    · rw [if_neg (show ¬unreferenced F w.asStored = true from hu), if_neg hu]

/-- Marking an item store whose records hold none to mark changes nothing, at any time. -/
theorem markGcPending_of_none (h : s.fileTable.FilesView ws F L)
    (hnone : ∀ r ∈ L, unreferenced F r = false) (n : Nat) (now : Int) :
    s.markGcPending n now = (s, .ok ()) := by
  obtain ⟨⟨F₀, hF₀, hF₀p⟩, L₀, hL₀, hL₀p⟩ := h.reads n
  have hus : L₀.filter (unreferenced F₀) = [] := List.filter_eq_nil_iff.2 fun r hr => by
    rw [unreferenced_perm hF₀p, hnone r (hL₀p.subset hr)]
    decide
  rw [markGcPending_of_reads hF₀ hL₀, hus]
  rfl

end ItemStore

/-! ## The snapshot backend -/

namespace FileRecord

variable {F : List FileRecord} {now : Int}

/-- Only lifecycle records are marked. -/
theorem isLifecycle_of_unreferenced {r : FileRecord} (h : unreferenced F r = true) :
    r.isLifecycle = true := by
  simp only [unreferenced, Bool.and_eq_true, beq_iff_eq] at h
  simp [isLifecycle, h.1]

@[simp] theorem isLifecycle_mark (r : FileRecord) :
    (if unreferenced F r then r.markedAt now else r).isLifecycle = r.isLifecycle := by
  split
  · rename_i hu
    rw [isLifecycle_of_unreferenced hu]
    rfl
  · rfl

/-- Marking a record list marks, among its own file-in-partition records, what `markAll` marks;
it gives no list when there is nothing to mark. -/
theorem markUnreferenced_eq (rs : List FileRecord) (now : Int) :
    markUnreferenced rs now =
      if rs.any (unreferenced (rs.filter (!·.isLifecycle))) then
        some (rs.map fun r => if unreferenced (rs.filter (!·.isLifecycle)) r then r.markedAt now else r)
      else none :=
  rfl

/-- The list that marking gives holds the records of `markAll`. -/
theorem holds_markAll (rs : List FileRecord) (now : Int) :
    Holds (rs.map fun r => if unreferenced (rs.filter (!·.isLifecycle)) r then r.markedAt now else r)
      (rs.filter (!·.isLifecycle),
        markAll (rs.filter (!·.isLifecycle)) (rs.filter (·.isLifecycle)) now) := by
  refine ⟨?_, filter_lifecycle_map isLifecycle_mark rs⟩
  rw [filter_fileInPartition_map isLifecycle_mark]
  conv_rhs => rw [← List.map_id (rs.filter _)]
  refine List.map_congr_left fun r hr => ?_
  -- a file-in-partition record is never marked
  have hl : r.isLifecycle = false := by simpa using (List.mem_filter.1 hr).2
  rw [if_neg fun hu => absurd (isLifecycle_of_unreferenced hu) (by simp [hl])]
  rfl

end FileRecord

namespace SnapshotTable

open FileRecord

variable {t : SnapshotTable} {st : SnapshotState} {cur : RevisionId} {rs : List FileRecord}

/-- Marking at `now` on a snapshot table marks, among the records it reads, what `markAll`
marks. -/
theorem markGcPending_outcome (h : t.FilesReady st cur rs) (now : Int) :
    ∃ st', t.markGcPending st now = (st', .ok ()) ∧
      t.FilesRead st' (rs.filter (!·.isLifecycle),
        markAll (rs.filter (!·.isLifecycle)) (rs.filter (·.isLifecycle)) now) := by
  by_cases hany : rs.any (unreferenced (rs.filter (!·.isLifecycle))) = true
  · -- some record is marked: the series commits the marked list
    have hchange : (fun rs => (pure (markUnreferenced rs now) : Except Error _)) rs =
        (Except.ok (rs.map fun r =>
          if unreferenced (rs.filter (!·.isLifecycle)) r then r.markedAt now else r)).map some := by
      simp only [markUnreferenced_eq, if_pos hany]
      rfl
    have hfit : ∀ f ∈ rs.map (fun r =>
        if unreferenced (rs.filter (!·.isLifecycle)) r then r.markedAt now else r), f.CountFits := by
      intro f hf
      obtain ⟨x, hx, rfl⟩ := List.mem_map.1 hf
      have hx' := read_countFits h.format h.encodable h.read x hx
      split
      · exact hx'
      · exact hx'
    have hrel : Except.Rel t.FilesRead
        (Except.committed (t.files.update st fun rs => pure (markUnreferenced rs now))) (.ok _) :=
      h.update_outcome hchange (fun _ hy => by cases hy; exact hfit) (.ok (holds_markAll rs now))
    generalize hA : Except.committed (t.files.update st _) = A at hrel
    cases hrel with
    | ok hr => exact ⟨_, Except.committed_eq_ok.1 hA, hr⟩
  · -- nothing is marked: the series stays as it was
    have hnone : (pure (markUnreferenced rs now) : Except Error _) = .ok none := by
      rw [markUnreferenced_eq, if_neg hany]
      rfl
    refine ⟨st, SnapshotSeries.update_change_none h.standing.attempts h.read hnone, cur, rs, h.read,
      rfl, ?_⟩
    refine (markAll_of_forall fun r hr => Bool.eq_false_iff.2 fun hu => hany ?_).symm
    exact List.any_eq_true.2 ⟨r, List.mem_of_mem_filter hr, hu⟩

/-- Marking a snapshot table whose records hold none to mark changes nothing, at any time, and
writes no revision. -/
theorem markGcPending_of_none (hatt : t.files.maxAttempts ≠ 0)
    (hread : t.files.read st = .ok (cur, rs))
    (hnone : ∀ r ∈ rs.filter (·.isLifecycle), unreferenced (rs.filter (!·.isLifecycle)) r = false)
    (now : Int) : t.markGcPending st now = (st, .ok ()) := by
  refine SnapshotSeries.update_change_none hatt hread ?_
  have hany : rs.any (unreferenced (rs.filter (!·.isLifecycle))) = false := by
    refine List.any_eq_false.2 fun r hr hu => ?_
    rw [hnone r (List.mem_filter.2 ⟨hr, isLifecycle_of_unreferenced hu⟩)] at hu
    cases hu
  show (pure (markUnreferenced rs now) : Except Error _) = .ok none
  rw [markUnreferenced_eq, hany]
  rfl

end SnapshotTable

/-! ## Both backends, and sessions -/

namespace TableStore

open FileRecord

variable {t : TableStore} {o : ObjectStores} {now : Int}

theorem changePart_markGcPending_items {s s' : ItemStore} (hb : t.backend = .items s)
    (h : s.markGcPending t.pageSize now = (s', .ok ())) :
    t.changePart o now .markGcPending = (({ t with backend := .items s' }, o), .ok ()) := by
  simp only [changePart, hb, h]

theorem changePart_markGcPending_snapshot {sn : SnapshotTable} {p : ItemTable} {st' : SnapshotState}
    (hb : t.backend = .snapshot sn p) (h : sn.markGcPending ⟨p, o⟩ now = (st', .ok ())) :
    t.changePart o now .markGcPending =
      (({ t with backend := .snapshot sn st'.pointers }, st'.objects), .ok ()) := by
  simp only [changePart, hb, h]

/-- Marking a table marks, among the records it reads, what `markAll` marks, in both backends;
marking again then changes neither the table nor the objects, at any time. The time must fit a
signed 64-bit integer, and a token must be left for a new revision. -/
theorem markGcPending_agrees (hp : t.PartitionsStored o) (hk : t.FilesKept) (ho : o.Encodable)
    (hof : o.FilesWF) {F L : List FileRecord} (hF : t.fileInPartitionRecords o = .ok F)
    (hL : t.lifecycleRecords o = .ok L) (hnow : isInstant now = true)
    (hroom : o.tokens + 1 < Nat.pow 2 64) :
    ∃ t' o', t.changePart o now .markGcPending = ((t', o'), .ok ()) ∧
      ReadsFiles (t', o') (F, markAll F L now) ∧
      ∀ now', t'.changePart o' now' .markGcPending = ((t', o'), .ok ()) := by
  cases filesSource_of_reads hp hk ho hof hF hL hroom with
  | @items s ws hb hv =>
    obtain ⟨s', hs', ws', hv'⟩ := ItemStore.markGcPending_outcome hv hnow t.pageSize
    refine ⟨{ t with backend := .items s' }, o, changePart_markGcPending_items hb hs',
      readsFiles_items ⟨ws', hv'⟩, fun now' => ?_⟩
    -- the marked records hold none left to mark
    exact changePart_markGcPending_items rfl
      (ItemStore.markGcPending_of_none hv' (fun _ => unreferenced_of_mem_markAll) _ now')
  | @snapshot sn p cur rs hb hready hF' hL' =>
    subst hF' hL'
    obtain ⟨st', hst', r', rs', hread', hF', hL'⟩ := SnapshotTable.markGcPending_outcome hready now
    refine ⟨{ t with backend := .snapshot sn st'.pointers }, st'.objects,
      changePart_markGcPending_snapshot hb hst', readsFiles_snapshot ⟨r', rs', hread', hF', hL'⟩,
      fun now' => ?_⟩
    -- the marked list holds none left to mark, so no revision is written
    have hagain : sn.markGcPending ⟨st'.pointers, st'.objects⟩ now' = (st', .ok ()) :=
      SnapshotTable.markGcPending_of_none hready.standing.attempts hread' (by
        rw [hF', hL']
        exact fun _ => unreferenced_of_mem_markAll) now'
    exact changePart_markGcPending_snapshot rfl hagain


/-- The file records that a consistent table reads are consistent. -/
theorem FilesWF.records_wf (ht : t.FilesWF) (ho : o.FilesWF) {F L : List FileRecord}
    (hF : t.fileInPartitionRecords o = .ok F) (hL : t.lifecycleRecords o = .ok L) :
    FileRecordsWF F L := by
  unfold FilesWF at ht
  cases hb : t.backend with
  | items s =>
    simp only [fileInPartitionRecords, lifecycleRecords, hb] at hF hL
    rw [hb] at ht
    exact ht.records_wf hF hL
  | snapshot sn p =>
    simp only [fileInPartitionRecords, lifecycleRecords, hb] at hF hL
    rw [hb] at ht
    obtain ⟨cur, rs, hread, rfl, rfl⟩ := SnapshotSeries.read_of_parts hF hL
    exact SnapshotSeries.read_files_wf ht.2 ho hread

end TableStore

namespace Session

variable {s : Session} {t : TableStore}

/-- The file records that a table of a session reads are consistent, when the session's file
records are. -/
theorem FilesWF.recordsWF_of_reads (hw : s.FilesWF) (ht : t ∈ s.provider.tables)
    {fips lcs : List FileRecord} (hf : t.fileInPartitionRecords s.objects = .ok fips)
    (hl : t.lifecycleRecords s.objects = .ok lcs) : FileRecordsWF fips lcs :=
  (hw.stores t ht).records_wf hw.objects hf hl

/-- The records ready for collection are the lifecycle records pending since before the cutoff,
and the filenames ready are theirs. -/
theorem read_readyForGc {L : List FileRecord} (hL : t.lifecycleRecords s.objects = .ok L)
    (hcut : isInstant (s.now - t.gcDelayMillis) = true) :
    s.read t .readyForGc =
        .ok (.files (L.filter (TableStore.pendingBefore (s.now - t.gcDelayMillis)))) ∧
      s.read t .readyForGcFilenames = .ok (.filenames
        ((L.filter (TableStore.pendingBefore (s.now - t.gcDelayMillis))).map (·.filename))) := by
  simp only [read, hcut, if_true, TableStore.readyForGc, hL]
  exact ⟨rfl, rfl⟩

/-- **Garbage collection marks exactly the unreferenced files, once.** In every reachable
session, for a table whose records read as `F` and `L`: while the clock reads an instant and a
token is left for a revision, marking succeeds, and the table then reads `F` and the records of
`markAll` at the session's time, up to order, so that exactly the active lifecycle records whose
file no record of `F` names become pending, stamped with that time; marking again, at any time,
leaves the table and the objects as they are. While the cutoff, the time less the table's delay,
is an instant, the records ready for collection are the lifecycle records pending since before
the cutoff, each once, and the filenames ready are theirs. -/
theorem Reachable.gcMarking_exact (hs : s.Reachable) (ht : t ∈ s.provider.tables)
    {F L : List FileRecord} (hF : t.fileInPartitionRecords s.objects = .ok F)
    (hL : t.lifecycleRecords s.objects = .ok L) :
    (isInstant s.now = true → s.objects.tokens + 1 < Nat.pow 2 64 →
      ∃ t' o', t.change s.objects s.now .markGcPending = ((t', o'), .ok ()) ∧
        (∃ F' L', t'.fileInPartitionRecords o' = .ok F' ∧ t'.lifecycleRecords o' = .ok L' ∧
          F'.Perm F ∧ L'.Perm (FileRecord.markAll F L s.now)) ∧
        ∀ now', t'.change o' now' .markGcPending = ((t', o'), .ok ())) ∧
    (isInstant (s.now - t.gcDelayMillis) = true →
      ∃ R, s.read t .readyForGc = .ok (.files R) ∧
        s.read t .readyForGcFilenames = .ok (.filenames (R.map (·.filename))) ∧
        ∀ r, R.count r =
          if r ∈ L ∧ TableStore.pendingBefore (s.now - t.gcDelayMillis) r = true then 1 else 0) := by
  refine ⟨fun hnow hroom => ?_, fun hcut => ?_⟩
  · have hw := hs.partitionsStored
    obtain ⟨t', o', hc, hreads, hagain⟩ := TableStore.markGcPending_agrees (hw.stores t ht)
      (TableStore.filesKept_invariant.reachable hs t ht) hw.objects hs.filesWF.objects hF hL
      hnow hroom
    -- marking is one phase of a change
    refine ⟨t', o', ?_, hreads, fun now' => ?_⟩
    · rw [TableStore.change_of_not_initialises rfl, hc]
    · rw [TableStore.change_of_not_initialises rfl, hagain now']
  · -- lifecycle records name distinct files, so each ready record is read once
    have hnd : L.Nodup := (hs.filesWF.recordsWF_of_reads ht hF hL).names_nodup.of_map _
    obtain ⟨hready, hnames⟩ := read_readyForGc hL hcut
    refine ⟨_, hready, hnames, fun r => ?_⟩
    split
    · rename_i hr
      exact List.count_eq_one_of_mem (hnd.filter _) (List.mem_filter.2 hr)
    · rename_i hr
      exact List.count_eq_zero_of_not_mem fun hm => hr (List.mem_filter.1 hm)

/-- A file replaced in its partition on a fresh item table: marking the table succeeds, and marks
the lifecycle record of the file no partition references any more. -/
theorem replaced_file_marked :
    let s := (((((Session.start 0).step (.openTable (.new "t" (.single "key" .long)))).2.step
      (.onTable none (.change .initialise))).2.step (.onTable none
        (.change (.addFiles [⟨"a.parquet", "root", 10, none, none, .active, none, none⟩])))).2.step
      (.onTable none (.change (.replaceFiles
        [⟨"a.parquet", "root", 10, none, none, .fileInPartition, none, none⟩]
        [⟨"b.parquet", "root", 10, none, none, .active, none, none⟩])))).2
    let F : List FileRecord := [⟨"b.parquet", "root", 10, none, none, .fileInPartition, none, some 0⟩]
    let L : List FileRecord := [⟨"a.parquet", "root", 10, none, none, .active, none, some 0⟩,
      ⟨"b.parquet", "root", 10, none, none, .active, none, some 0⟩]
    s.Reachable ∧ ∃ t ∈ s.provider.tables, t.fileInPartitionRecords s.objects = .ok F ∧
      t.lifecycleRecords s.objects = .ok L ∧
      FileRecord.markAll F L s.now = [⟨"a.parquet", "root", 10, none, none, .gcPending, none, some 0⟩,
        ⟨"b.parquet", "root", 10, none, none, .active, none, some 0⟩] ∧
      (isInstant s.now = true → s.objects.tokens + 1 < Nat.pow 2 64 →
        ∃ t' o', t.change s.objects s.now .markGcPending = ((t', o'), .ok ()) ∧
          (∃ F' L', t'.fileInPartitionRecords o' = .ok F' ∧ t'.lifecycleRecords o' = .ok L' ∧
            F'.Perm F ∧ L'.Perm (FileRecord.markAll F L s.now)) ∧
          ∀ now', t'.change o' now' .markGcPending = ((t', o'), .ok ())) ∧
      (isInstant (s.now - t.gcDelayMillis) = true →
        ∃ R, s.read t .readyForGc = .ok (.files R) ∧
          s.read t .readyForGcFilenames = .ok (.filenames (R.map (·.filename))) ∧
          ∀ r, R.count r =
            if r ∈ L ∧ TableStore.pendingBefore (s.now - t.gcDelayMillis) r = true then 1 else 0) := by
  intro s F L
  have hs : s.Reachable := ((((Reachable.start 0).step _).step _).step _).step _
  have hreads : s.provider.tables.map (fun t =>
      (t.fileInPartitionRecords s.objects, t.lifecycleRecords s.objects)) = [(.ok F, .ok L)] := by
    decide +kernel
  obtain ⟨t, hts, hread⟩ := List.map_eq_singleton_iff.1 hreads
  obtain ⟨hF, hL⟩ := Prod.mk.inj hread
  have ht : t ∈ s.provider.tables := hts ▸ List.mem_singleton_self t
  exact ⟨hs, t, ht, hF, hL, by decide, hs.gcMarking_exact ht hF hL⟩

end Session

end TableState
