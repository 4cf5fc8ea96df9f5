import TableState.Proofs.Session.FileChanges

/-!
# Deleting lifecycle records, and every change of the file records

Once the data of a file has been garbage collected, its lifecycle record is deleted. A deletion
goes file by file (`FileRecord.deleteOutcome`): each file must have a lifecycle record pending
garbage collection, which goes; the first file that has none stops the deletion with its error,
and the records stay as they were. A file named twice has no record the second time.

Both backends follow this outcome. The snapshot backend takes the records out of its list one file
after another (`FileRecord.removeLifecycle_holds`). The item backend deletes the files' lifecycle
items in one transaction, each on the condition that the item is pending, and names the file of
the first deletion refused (`ItemTable.FilesView.applyAll_deletePending`). So a deletion on a
table fails as the outcome on the records the table reads does, or leaves the table reading the
outcome (`TableStore.deleteLifecycle_agrees`).

With the edits of `FileOutcome`, that makes one reference semantics for every change of the file
records a client asks for (`ChangeOutcome`), which both backends follow in every reachable
session (`Session.Reachable.fileChange_follows_outcome`): a change fails with an error the
semantics allows for the records the table reads, and then leaves the table and the objects as
they were; or it succeeds, and the table then reads the records the semantics gives, up to order.
-/

set_option autoImplicit false

namespace TableState

namespace FileRecord

/-- The lifecycle records `L` once the records of the files `names` are deleted in turn: each file
must have a record pending garbage collection, which goes, and the first file that has none stops
the deletion with its error. -/
def deleteOutcome (L : List FileRecord) : List String → Except Error (List FileRecord)
  | [] => .ok L
  | n :: names =>
    if L.any (fun r => r.filename == n && r.status == .gcPending) then
      deleteOutcome (L.filter (·.filename != n)) names
    else .error (.fileNotReadyForDeletion n)

/-- A deletion does not depend on the order of the records. -/
theorem deleteOutcome_perm {L L' : List FileRecord} (hL : L.Perm L') (names : List String) :
    Except.Rel List.Perm (deleteOutcome L names) (deleteOutcome L' names) := by
  induction names generalizing L L' with
  | nil => exact .ok hL
  | cons n names ih =>
    simp only [deleteOutcome, hL.any_eq]
    split
    · exact ih (hL.filter _)
    · exact .error _

/-! ## The snapshot backend -/

/-- A record list holds the pending lifecycle record of a file exactly when its lifecycle records
do. -/
theorem any_pending_eq (rs : List FileRecord) (n : String) :
    rs.any (fun r => r.status == .gcPending && r.filename == n) =
      (rs.filter (·.isLifecycle)).any (fun r => r.filename == n && r.status == .gcPending) := by
  rw [List.any_filter]
  congr 1
  funext r
  cases hs : r.status <;> simp [isLifecycle, hs, Bool.and_comm]

/-- Taking the pending lifecycle record of file `n` out of a list whose lifecycle records name
each file once leaves every file-in-partition record and the other lifecycle records. -/
theorem removeFirst_pending {rs rs' : List FileRecord} {n : String}
    (hnd : ((rs.filter (·.isLifecycle)).map filename).Nodup)
    (h : removeFirst (fun r => r.status == .gcPending && r.filename == n) rs = some rs') :
    rs'.filter (!·.isLifecycle) = rs.filter (!·.isLifecycle) ∧
      rs'.filter (·.isLifecycle) = (rs.filter (·.isLifecycle)).filter (·.filename != n) := by
  obtain ⟨xs, r, ys, rfl, rfl, hr⟩ := removeFirst_eq_some h
  simp only [Bool.and_eq_true, beq_iff_eq] at hr
  have hl : r.isLifecycle = true := by simp [isLifecycle, hr.1]
  rw [List.filter_append, List.filter_cons, if_pos hl, List.map_append, List.map_cons,
    List.nodup_middle, List.nodup_cons, ← List.map_append] at hnd
  -- the other lifecycle records name other files
  have hother : ∀ x ∈ xs.filter (·.isLifecycle) ++ ys.filter (·.isLifecycle), x.filename ≠ n :=
    fun x hx he => hnd.1 (hr.2 ▸ he ▸ List.mem_map_of_mem hx)
  have hxs : (xs.filter (·.isLifecycle)).filter (·.filename != n) = xs.filter (·.isLifecycle) :=
    List.filter_eq_self.2 fun x hx => by simpa using hother x (List.mem_append_left _ hx)
  have hys : (ys.filter (·.isLifecycle)).filter (·.filename != n) = ys.filter (·.isLifecycle) :=
    List.filter_eq_self.2 fun x hx => by simpa using hother x (List.mem_append_right _ hx)
  refine ⟨?_, ?_⟩
  · rw [List.filter_append, List.filter_append, List.filter_cons, if_neg (by simp [hl])]
  · rw [List.filter_append, List.filter_append, List.filter_cons, if_pos hl, List.filter_append,
      List.filter_cons, if_neg (by simp [hr.2]), hxs, hys]

/-- Taking the pending lifecycle records of files out of a list in turn, when its lifecycle
records name each file once, holds the outcome of deleting them among the list's records. -/
theorem removeLifecycle_holds : ∀ (names : List String) {rs : List FileRecord},
    ((rs.filter (·.isLifecycle)).map filename).Nodup →
      Except.Rel Holds (removeLifecycle rs names)
        ((deleteOutcome (rs.filter (·.isLifecycle)) names).map (rs.filter (!·.isLifecycle), ·))
  | [], _, _ => .ok ⟨rfl, rfl⟩
  | n :: names, rs, hnd => by
    simp only [removeLifecycle, deleteOutcome, ← any_pending_eq]
    cases hrem : removeFirst (fun r => r.status == .gcPending && r.filename == n) rs with
    | none =>
      rw [if_neg (by simpa using (removeFirst_eq_none_iff _ rs).1 hrem)]
      exact .error _
    | some rs' =>
      obtain ⟨xs, r, ys, rfl, -, hr⟩ := removeFirst_eq_some hrem
      obtain ⟨hF, hL⟩ := removeFirst_pending hnd hrem
      rw [if_pos (List.any_eq_true.2 ⟨r, by simp, hr⟩)]
      have hnd' : ((rs'.filter (·.isLifecycle)).map filename).Nodup := by
        rw [hL]
        exact hnd.sublist (List.filter_sublist.map _)
      have hrest := removeLifecycle_holds names hnd'
      rwa [hF, hL] at hrest

end FileRecord

namespace SnapshotTable

open FileRecord

variable {t : SnapshotTable} {st : SnapshotState} {cur : RevisionId} {rs : List FileRecord}

/-- Deleting lifecycle records of a snapshot table follows the deletion among the records it
reads. -/
theorem deleteLifecycle_outcome (h : t.FilesReady st cur rs) (names : List String) :
    Except.Rel t.FilesRead (Except.committed (t.deleteLifecycle st names))
      ((deleteOutcome (rs.filter (·.isLifecycle)) names).map (rs.filter (!·.isLifecycle), ·)) := by
  unfold SnapshotTable.deleteLifecycle
  cases names with
  | nil =>
    -- nothing to delete: no revision is written
    rw [SnapshotSeries.update_change_none h.standing.attempts h.read rfl]
    exact .ok ⟨cur, rs, h.read, rfl, rfl⟩
  | cons n names =>
    refine h.update_outcome ?_ ?_ (removeLifecycle_holds (n :: names) h.wf.names_nodup)
    · cases removeLifecycle rs (n :: names) <;> rfl
    · intro rs' hrs' f hf
      exact read_countFits h.format h.encodable h.read f ((removeLifecycle_eq_ok hrs').1.subset hf)

end SnapshotTable

namespace ItemTable

open FileRecord

variable {t : ItemTable} {ws F L : List FileRecord}

theorem itemKey_beq_lifecycleKey (w : FileRecord) (n : String) :
    (w.itemKey == lifecycleKey n) = (w.isLifecycle && w.filename == n) := by
  rw [Bool.eq_iff_iff, beq_iff_eq, itemKey_eq_lifecycleKey_iff, Bool.and_eq_true, beq_iff_eq]

namespace FilesView

/-- Deleting a file's lifecycle item on the condition that it is pending is admitted exactly when
the lifecycle records read hold the file's record pending. -/
theorem admits_deletePending (h : t.FilesView ws F L) (n : String) :
    t.admits (.delete (lifecycleKey n)
        (.attributeEquals "status" (.string FileStatus.gcPending.name))) =
      L.any (fun r => r.filename == n && r.status == .gcPending) := by
  have hL : L.any (fun r => r.filename == n && r.status == .gcPending) =
      ws.any (fun w => w.itemKey == lifecycleKey n && w.status == .gcPending) := by
    rw [h.lifecycles.any_eq, List.any_map, List.any_filter]
    congr 1
    funext w
    rw [itemKey_beq_lifecycleKey, Bool.and_assoc]
    rfl
  rw [hL]
  cases hk : t.get? (lifecycleKey n) with
  | none =>
    -- no record has the key
    have hnone : ws.any (fun w => w.itemKey == lifecycleKey n && w.status == .gcPending) = false :=
      List.any_eq_false.2 fun w hw he => by
        rw [← (beq_iff_eq.1 (Bool.and_eq_true_iff.1 he).1), h.mirrors.get?_of_mem w hw] at hk
        cases hk
    simp [ItemTable.admits, WriteOp.key, WriteOp.condition, Condition.holds, hk, hnone]
  | some i =>
    obtain ⟨w, hw, hwk, rfl⟩ := h.mirrors.exists_of_get? hk
    -- the record under the key is the only one with it
    have hany : ws.any (fun w => w.itemKey == lifecycleKey n && w.status == .gcPending) =
        (w.status == .gcPending) := by
      rw [Bool.eq_iff_iff, List.any_eq_true]
      constructor
      · rintro ⟨w', hw', he⟩
        obtain ⟨hk', hs⟩ := Bool.and_eq_true_iff.1 he
        rwa [h.mirrors.eq_of_key_eq hw' hw ((beq_iff_eq.1 hk').trans hwk.symm)] at hs
      · intro hs
        exact ⟨w, hw, by simp [hwk, hs]⟩
    rw [hany]
    simp only [ItemTable.admits, WriteOp.key, WriteOp.condition, Condition.holds, hk,
      toItem_status, Bool.not_false, Bool.true_and]
    cases w.status <;> rfl

/-- Deleting a file's lifecycle item leaves a view of the other records. -/
theorem erase_lifecycleKey (h : t.FilesView ws F L) (n : String) :
    (t.erase (lifecycleKey n)).FilesView (ws.filter fun w => w.itemKey != lifecycleKey n) F
      (L.filter (·.filename != n)) := by
  -- a record goes exactly when it is the file's lifecycle record
  have hgone : ∀ w : FileRecord,
      (w.itemKey != lifecycleKey n) = !(w.isLifecycle && w.filename == n) := fun w => by
    rw [bne, itemKey_beq_lifecycleKey]
  refine ⟨h.mirrors.erase_key _, fun w hw => h.nulFree w (List.mem_of_mem_filter hw),
    fun w hw => h.fits w (List.mem_of_mem_filter hw), ?_, ?_⟩
  · refine h.fips.trans (List.Perm.of_eq (congrArg _ ?_))
    rw [List.filter_filter]
    exact List.filter_congr fun w _ => by
      simp only [hgone]
      cases w.isLifecycle <;> simp
  · refine (h.lifecycles.filter _).trans (List.Perm.of_eq ?_)
    rw [List.filter_map, List.filter_filter, List.filter_filter]
    congr 1
    exact List.filter_congr fun w _ => by
      simp only [hgone]
      cases w.isLifecycle <;> simp [bne]

/-- The deletions of the files' lifecycle items, each on the condition that the item is pending,
commit exactly when the deletion's outcome is a list of records, the table then viewing it; a
refused deletion is that of the file whose error the outcome gives. -/
theorem applyAll_deletePending (h : t.FilesView ws F L) : ∀ (names : List String) (m : Nat),
    (∃ t' L', t.applyAll m (names.map fun n => .delete (lifecycleKey n)
        (.attributeEquals "status" (.string FileStatus.gcPending.name))) = .ok t' ∧
      deleteOutcome L names = .ok L' ∧ ∃ ws', t'.FilesView ws' F L') ∨
    ∃ j n k, t.applyAll m (names.map fun n => .delete (lifecycleKey n)
        (.attributeEquals "status" (.string FileStatus.gcPending.name))) = .error (m + j, k) ∧
      names[j]? = some n ∧ deleteOutcome L names = .error (.fileNotReadyForDeletion n) := by
  intro names
  induction names generalizing t ws L with
  | nil => exact fun m => .inl ⟨t, L, rfl, rfl, ws, h⟩
  | cons n names ih =>
    intro m
    rw [List.map_cons, applyAll_cons, h.admits_deletePending n]
    simp only [deleteOutcome]
    by_cases hany : L.any (fun r => r.filename == n && r.status == .gcPending) = true
    · -- the item goes, and the rest runs on the table without it
      rw [if_pos hany, if_pos hany]
      rcases ih (h.erase_lifecycleKey n) (m + 1) with ⟨t', L', ha, hd, hv⟩ | ⟨j, n', k, ha, hj, hd⟩
      · exact .inl ⟨t', L', ha, hd, hv⟩
      · refine .inr ⟨j + 1, n', k, ?_, by simpa using hj, hd⟩
        rw [← Nat.add_assoc, Nat.add_right_comm m j 1]
        exact ha
    · rw [if_neg hany, if_neg hany]
      exact .inr ⟨0, n, lifecycleKey n, rfl, rfl, rfl⟩

end FilesView

end ItemTable

namespace ItemStore

open FileRecord

variable {s : ItemStore} {ws F L : List FileRecord}

/-- Deleting lifecycle records of an item store follows the deletion among the records it
reads. -/
theorem deleteLifecycle_outcome (h : s.fileTable.FilesView ws F L) (names : List String) :
    Except.Rel (fun s' L' => s'.FilesHeld (F, L')) (Except.committed (s.deleteLifecycle names))
      (deleteOutcome L names) := by
  unfold ItemStore.deleteLifecycle
  rcases h.applyAll_deletePending names 0 with ⟨t', L', ha, hd, ws', hv⟩ | ⟨j, n, k, ha, hj, hd⟩
  · simp only [transactFiles, ItemTable.transact, ha, hd, Except.committed_ok]
    exact .ok ⟨ws', hv⟩
  · simp only [transactFiles, ItemTable.transact, ha, hd, Nat.zero_add, hj, Option.getD_some,
      Except.committed_error]
    exact .error _

end ItemStore

namespace TableStore

open FileRecord

variable {t : TableStore} {o : ObjectStores}

/-- Deleting lifecycle records of a table follows the deletion among the records the table reads:
it fails as the outcome does, or the table then reads the outcome's records, up to order. A
token must be left for a new revision. -/
theorem deleteLifecycle_agrees (hp : t.PartitionsStored o) (hk : t.FilesKept) (ho : o.Encodable)
    (hof : o.FilesWF) {F L : List FileRecord} (hF : t.fileInPartitionRecords o = .ok F)
    (hL : t.lifecycleRecords o = .ok L) (hroom : o.tokens + 1 < Nat.pow 2 64) (now : Int)
    (names : List String) :
    Except.Rel (fun r L' => ReadsFiles r (F, L')) (Except.committed (t.changePart o now (.deleteLifecycle names)))
      (deleteOutcome L names) := by
  cases filesSource_of_reads hp hk ho hof hF hL hroom with
  | items hb hv =>
    simp only [changePart, hb, committed_items]
    exact (ItemStore.deleteLifecycle_outcome hv names).map
      fun (s' : ItemStore) L' (h : s'.FilesHeld (F, L')) => readsFiles_items h
  | @snapshot sn p cur rs hb hready hF' hL' =>
    subst hF' hL'
    simp only [changePart, hb, committed_snapshot]
    exact (SnapshotTable.deleteLifecycle_outcome hready names).of_map_right.map
      fun (st' : SnapshotState) L' (h : sn.FilesRead st' (rs.filter (!·.isLifecycle), L')) =>
        readsFiles_snapshot h

end TableStore

/-! ## Every change of the file records -/

namespace TableChange

/-- The changes of the file records that a client asks for: adding, replacing, assigning, and
deleting lifecycle records. -/
def isFileChange : TableChange → Bool
  | .addFiles _ | .replaceFiles _ _ | .assignJob _ _ | .deleteLifecycle _ => true
  | _ => false

theorem not_initialises_of_isFileChange {c : TableChange} (hc : c.isFileChange = true) :
    c.initialisesTable = false := by
  cases c <;> simp_all [isFileChange, initialisesTable]

end TableChange

/-- The results that a change of the file records `F`, `L` may have at time `now`: those of an
edit, or those of a deletion of lifecycle records, which leaves `F` as it is. -/
inductive ChangeOutcome (F L : List FileRecord) (now : Int) :
    TableChange → Except Error (List FileRecord × List FileRecord) → Prop
  | edit {c : TableChange} {r : Except Error (List FileRecord × List FileRecord)} :
      FileOutcome F L now c r → ChangeOutcome F L now c r
  | delete (names : List String) :
      ChangeOutcome F L now (.deleteLifecycle names) ((FileRecord.deleteOutcome L names).map (F, ·))

namespace TableStore

variable {t : TableStore} {o : ObjectStores} {now : Int}

/-- A change of the file records of a kept table follows the outcome among the records the
table reads. -/
theorem fileChange_agrees (hp : t.PartitionsStored o) (hk : t.FilesKept) (ho : o.Encodable)
    (hof : o.FilesWF) {F L : List FileRecord} (hF : t.fileInPartitionRecords o = .ok F)
    (hL : t.lifecycleRecords o = .ok L) {c : TableChange} (hc : c.isFileChange = true)
    (hfit : ∀ f ∈ c.newFiles, f.CountFits) (hnow : isInstant now = true)
    (hroom : o.tokens + 1 < Nat.pow 2 64) :
    ∃ r, ChangeOutcome F L now c r ∧ Except.Rel ReadsFiles (Except.committed (t.changePart o now c)) r := by
  cases c with
  | addFiles fs | replaceFiles old new | assignJob job fs =>
    obtain ⟨r, hr, hrel⟩ := fileEdit_agrees hp hk ho hof hF hL rfl hfit hnow hroom
    exact ⟨r, .edit hr, hrel⟩
  | deleteLifecycle names =>
    exact ⟨_, .delete names, (deleteLifecycle_agrees hp hk ho hof hF hL hroom now names).map_right⟩
  | _ => cases hc

end TableStore

namespace Session

variable {s : Session}

/-- **Changes of the file records follow one outcome.** In every reachable session, adding files
to a table, replacing its file-in-partition records, assigning them a job or deleting lifecycle
records fails with an error that `ChangeOutcome` allows among the records the table reads, and
then leaves the table and the objects as they were; or it succeeds, and the table then reads the
records of the outcome, up to order. That holds for new files whose record counts are below 2^63,
while the clock reads an instant and fewer than 2^64 - 1 revision tokens have been issued. -/
theorem Reachable.fileChange_follows_outcome (hs : s.Reachable) {t : TableStore}
    (ht : t ∈ s.provider.tables) {F L : List FileRecord}
    (hF : t.fileInPartitionRecords s.objects = .ok F) (hL : t.lifecycleRecords s.objects = .ok L)
    {c : TableChange} (hc : c.isFileChange = true) (hfit : ∀ f ∈ c.newFiles, f.CountFits)
    (hnow : isInstant s.now = true) (hroom : s.objects.tokens + 1 < Nat.pow 2 64) :
    ∃ r, ChangeOutcome F L s.now c r ∧
      (∀ e, r = .error e → t.change s.objects s.now c = ((t, s.objects), .error e)) ∧
      (∀ FL, r = .ok FL → ∃ t' o', t.change s.objects s.now c = ((t', o'), .ok ()) ∧
        ∃ F' L', t'.fileInPartitionRecords o' = .ok F' ∧ t'.lifecycleRecords o' = .ok L' ∧
          F'.Perm FL.1 ∧ L'.Perm FL.2) := by
  have hw := hs.partitionsStored
  have hstored := hw.stores t ht
  obtain ⟨r, hr, hagree⟩ := TableStore.fileChange_agrees hstored
    (TableStore.filesKept_invariant.reachable hs t ht) hw.objects hs.filesWF.objects hF hL hc hfit
    hnow hroom
  refine ⟨r, hr, ?_⟩
  -- a change of the file records is one phase of a change
  rw [TableStore.change_of_not_initialises (TableChange.not_initialises_of_isFileChange hc)]
  generalize hX : Except.committed (t.changePart s.objects s.now c) = X at hagree
  cases hagree with
  | error e =>
    -- the call failed, and a failed call of a stored table leaves it and the objects alone
    have he := Except.committed_eq_error.1 hX
    refine ⟨fun e' he' => ?_, fun FL hFL => nomatch hFL⟩
    cases he'
    exact (TableStore.changePart_atomic hstored c).eq_of_error he
  | ok hrel =>
    rename_i r' FL
    refine ⟨fun e he => (nomatch he), fun FL' hFL => ?_⟩
    cases hFL
    exact ⟨r'.1, r'.2, Except.committed_eq_ok.1 hX, hrel⟩

/-- Deleting the lifecycle record of a file that a freshly initialised snapshot table has never
recorded follows the outcome of deleting it from no records: it is refused. -/
theorem missing_lifecycle_deletion_follows_outcome :
    let s := (((Session.start 0).step (.openTable { TableProperties.new "t" (.single "key" .long)
      with backend := .snapshot, snapshotUrl := some "mem:///t" })).2.step
      (.onTable none (.change .initialise))).2
    let c := TableChange.deleteLifecycle ["a.parquet"]
    s.Reachable ∧ ∃ t ∈ s.provider.tables, t.fileInPartitionRecords s.objects = .ok [] ∧
      t.lifecycleRecords s.objects = .ok [] ∧ c.isFileChange = true ∧
      (∀ f ∈ c.newFiles, f.CountFits) ∧ isInstant s.now = true ∧
      s.objects.tokens + 1 < Nat.pow 2 64 ∧
      ∃ r, ChangeOutcome [] [] s.now c r ∧
        (∀ e, r = .error e → t.change s.objects s.now c = ((t, s.objects), .error e)) ∧
        (∀ FL, r = .ok FL → ∃ t' o', t.change s.objects s.now c = ((t', o'), .ok ()) ∧
          ∃ F' L', t'.fileInPartitionRecords o' = .ok F' ∧ t'.lifecycleRecords o' = .ok L' ∧
            F'.Perm FL.1 ∧ L'.Perm FL.2) := by
  intro s c
  have hs : s.Reachable := ((Reachable.start 0).step _).step _
  have hreads : s.provider.tables.map (fun t =>
      (t.fileInPartitionRecords s.objects, t.lifecycleRecords s.objects)) = [(.ok [], .ok [])] := by
    decide +kernel
  obtain ⟨t, hts, hread⟩ := List.map_eq_singleton_iff.1 hreads
  obtain ⟨hF, hL⟩ := Prod.mk.inj hread
  have ht : t ∈ s.provider.tables := hts ▸ List.mem_singleton_self t
  have hfit : ∀ f ∈ c.newFiles, f.CountFits := fun _ hf => nomatch hf
  have hnow : isInstant s.now = true := by decide +kernel
  have hroom : s.objects.tokens + 1 < Nat.pow 2 64 := by decide +kernel
  exact ⟨hs, t, ht, hF, hL, rfl, hfit, hnow, hroom,
    hs.fileChange_follows_outcome ht hF hL rfl hfit hnow hroom⟩

end Session

end TableState
