import TableState.Proofs.Session.Stored
import TableState.Proofs.Session.Files
import TableState.Proofs.Item.FileChanges
import TableState.Proofs.Snapshot.FileChanges

/-!
# File changes follow one outcome

Adding files, replacing records and assigning a job change the file records of a table as the
reference semantics `FileOutcome` says, in both backends (`TableStore.fileEdit_agrees`): a change
fails with an error the semantics allows for the records the table reads; or it succeeds, and the
table then reads the records the semantics gives, up to order.

Both backends need the new records to fit their columns: record counts below 2^63. The item
backend stamps records with the time through a 64-bit integer, so the clock must read an
instant; the snapshot backend needs a token for the new revision.

On the way, a property of stores that holds of every new store and that every call keeps, whether
it succeeds or fails, holds of every store of a reachable session
(`TableStore.StoreInvariant.reachable`). The file table of every item store so mirrors the records
written (`TableStore.FilesKept`), and the records a kept table reads come from its backend in one
of two ways (`TableStore.FilesSource`), which every proof about a change of the files starts from.
-/

set_option autoImplicit false

namespace TableState

/-- An item store whose file table is that of a store that kept its file records keeps them. -/
theorem ItemStore.FilesKept.of_fileTable {s s' : ItemStore} (h : s.FilesKept)
    (he : s'.fileTable = s.fileTable) : s'.FilesKept := by
  unfold ItemStore.FilesKept
  rw [he]
  exact h

namespace TableStore

/-- A property of stores that every new store has and every phase of a change keeps, whether
it succeeds or fails. -/
structure StoreInvariant (P : TableStore → Prop) : Prop where
  build : ∀ {p : Provider} {props : TableProperties} {t : TableStore}, p.build props = .ok t → P t
  changePart : ∀ {t : TableStore} (o : ObjectStores) (now : Int) (c : TableChange),
    P t → P (t.changePart o now c).1.1

namespace StoreInvariant

variable {P : TableStore → Prop} {t : TableStore}

/-- A change, in one phase or in two, keeps an invariant of stores. -/
theorem change (hP : StoreInvariant P) (ht : P t) (o : ObjectStores) (now : Int) (c : TableChange) :
    P (t.change o now c).1.1 :=
  change_keeps (R := fun t _ => P t) (fun c ht => hP.changePart _ now c ht) ht c

end StoreInvariant

/-- An invariant of stores alone is an invariant of the stores of sessions, against any
objects. -/
theorem StoreInvariant.stores {P : TableStore → Prop} (hP : StoreInvariant P) :
    Session.StoresInvariant (fun _ => True) fun t _ => P t where
  empty := trivial
  build _ _ hb _ := hP.build hb
  change now c ht _ := ⟨hP.change ht _ now c, trivial⟩
  frame _ _ _ _ hu := hu

/-- Every store of a reachable session has an invariant of stores. -/
theorem StoreInvariant.reachable {P : TableStore → Prop} (hP : StoreInvariant P) {s : Session}
    (hs : s.Reachable) : ∀ t ∈ s.provider.tables, P t :=
  (hP.stores.reachable hs).stores

/-! ## File records kept as items -/

/-- The file table of an item store mirrors records without NUL in their ids. -/
def FilesKept (t : TableStore) : Prop :=
  match t.backend with
  | .items s => s.FilesKept
  | .snapshot _ _ => True

/-- Every store keeps its file records as items of the records written. -/
theorem filesKept_invariant : StoreInvariant FilesKept where
  build h := by
    obtain ⟨b, rfl, hb⟩ := Provider.build_eq_ok h
    rcases hb with rfl | ⟨base, rfl⟩
    · exact ItemStore.filesKept_empty
    · trivial
  changePart {t} o now c ht := by
    unfold FilesKept at ht
    unfold changePart
    cases hb : t.backend with
    | items s =>
      rw [hb] at ht
      simp only
      -- the item backend changes its item store, whether the call succeeds or fails
      have hdone : ∀ {r : ItemStore × Except Error Unit}, r.1.FilesKept →
          ({ t with backend := .items r.1 } : TableStore).FilesKept := fun hr => hr
      cases c with
      | initialise => exact hdone (ht.of_fileTable ItemStore.initialisePartitions_fileTable)
      | initialiseWith ps => exact hdone (ht.of_fileTable ItemStore.initialisePartitions_fileTable)
      | initialiseFiles => simpa only [FilesKept, hb] using ht
      | split parent c1 c2 => exact hdone (ht.of_fileTable ItemStore.split_fileTable)
      | addFiles fs => exact hdone (ItemStore.addFiles_filesKept ht)
      | replaceFiles old new => exact hdone (ItemStore.replaceFiles_filesKept ht)
      | assignJob job fs => exact hdone (ItemStore.assignJob_filesKept ht)
      | markGcPending => exact hdone (ItemStore.markGcPending_filesKept ht)
      | deleteLifecycle names => exact hdone (ItemStore.deleteLifecycle_filesKept ht)
    | snapshot sn p =>
      -- the snapshot backend stays a snapshot backend
      cases c <;> trivial

end TableStore

namespace TableChange

theorem isFileEdit_cases {c : TableChange} (hc : c.isFileEdit = true) :
    (∃ fs, c = .addFiles fs) ∨ (∃ old new, c = .replaceFiles old new) ∨
      ∃ job fs, c = .assignJob job fs := by
  cases c <;> simp_all [isFileEdit]

end TableChange

namespace TableStore

/-! ## Both backends follow the outcome -/

/-- A table with its object stores reads, up to order, the file-in-partition records and the
lifecycle records given. -/
def ReadsFiles (r : TableStore × ObjectStores) (FL : List FileRecord × List FileRecord) : Prop :=
  ∃ F L, r.1.fileInPartitionRecords r.2 = .ok F ∧ r.1.lifecycleRecords r.2 = .ok L ∧
    F.Perm FL.1 ∧ L.Perm FL.2

variable {t : TableStore} {o : ObjectStores} {now : Int}

theorem readsFiles_items {s : ItemStore} {FL : List FileRecord × List FileRecord}
    (h : s.FilesHeld FL) : ReadsFiles ({ t with backend := .items s }, o) FL := by
  obtain ⟨ws, hv⟩ := h
  obtain ⟨⟨F, hF, hFp⟩, L, hL, hLp⟩ := hv.reads t.pageSize
  exact ⟨F, L, hF, hL, hFp, hLp⟩

theorem readsFiles_snapshot {sn : SnapshotTable} {st : SnapshotState}
    {FL : List FileRecord × List FileRecord} (h : sn.FilesRead st FL) :
    ReadsFiles ({ t with backend := .snapshot sn st.pointers }, st.objects) FL := by
  obtain ⟨r, rs, hread, hF, hL⟩ := h
  have hrecords : sn.files.records ⟨st.pointers, st.objects⟩ = .ok rs := by
    simp [SnapshotSeries.records, hread]
  refine ⟨FL.1, FL.2, ?_, ?_, .refl _, .refl _⟩
  · simp [fileInPartitionRecords, hrecords, hF]
  · simp [lifecycleRecords, hrecords, hL]

/-- Where the records a table reads come from: a view of its item store's file table, or one
list of its snapshot's files series, ready for a change, of which they are the two parts. -/
inductive FilesSource (t : TableStore) (o : ObjectStores) (F L : List FileRecord) : Prop
  | items {s : ItemStore} {ws : List FileRecord} (hb : t.backend = .items s)
      (hv : s.fileTable.FilesView ws F L)
  | snapshot {sn : SnapshotTable} {p : ItemTable} {cur : RevisionId} {rs : List FileRecord}
      (hb : t.backend = .snapshot sn p) (hready : sn.FilesReady ⟨p, o⟩ cur rs)
      (hF : F = rs.filter (!·.isLifecycle)) (hL : L = rs.filter (·.isLifecycle))

/-- The records a kept table reads come from its backend, while a token is left for a new
revision. -/
theorem filesSource_of_reads (hp : t.PartitionsStored o) (hk : t.FilesKept) (ho : o.Encodable)
    (hof : o.FilesWF) {F L : List FileRecord} (hF : t.fileInPartitionRecords o = .ok F)
    (hL : t.lifecycleRecords o = .ok L) (hroom : o.tokens + 1 < Nat.pow 2 64) :
    t.FilesSource o F L := by
  unfold PartitionsStored at hp
  unfold FilesKept at hk
  unfold fileInPartitionRecords at hF
  unfold lifecycleRecords at hL
  cases hb : t.backend with
  | items s =>
    rw [hb] at hk hF hL
    obtain ⟨ws, hm, hnul⟩ := hk
    exact .items hb (ItemTable.FilesView.of_reads hm hnul hF hL)
  | snapshot sn p =>
    rw [hb] at hp hF hL
    obtain ⟨hsn, -, hwf⟩ := hp
    -- both reads read one list of the files series
    obtain ⟨cur, rs, hready, hF', hL'⟩ :=
      SnapshotTable.filesReady_of_reads hF hL hsn.files hsn.fileFormat hwf ho hof hroom
    exact .snapshot hb hready hF' hL'

/-- A file edit of a table follows the outcome among the records the table reads: it fails as
the outcome does, or the table then reads the outcome's records, up to order. The new files'
counts must fit a signed 64-bit integer, the time must fit one too, and a token must be left for
a new revision. -/
theorem fileEdit_agrees (hp : t.PartitionsStored o) (hk : t.FilesKept) (ho : o.Encodable)
    (hof : o.FilesWF) {F L : List FileRecord} (hF : t.fileInPartitionRecords o = .ok F)
    (hL : t.lifecycleRecords o = .ok L) {c : TableChange} (hc : c.isFileEdit = true)
    (hfit : ∀ f ∈ c.newFiles, f.CountFits) (hnow : isInstant now = true)
    (hroom : o.tokens + 1 < Nat.pow 2 64) :
    ∃ r, FileOutcome F L now c r ∧ Except.Rel ReadsFiles (Except.committed (t.changePart o now c)) r := by
  cases filesSource_of_reads hp hk ho hof hF hL hroom with
  | items hb hv =>
    rcases TableChange.isFileEdit_cases hc with ⟨fs, rfl⟩ | ⟨old, new, rfl⟩ | ⟨job, fs, rfl⟩
    · obtain ⟨r, hr, hrel⟩ := ItemStore.addFiles_outcome hv hfit hnow
      simp only [changePart, hb, committed_items]
      exact ⟨r, hr, hrel.map fun _ _ h => readsFiles_items h⟩
    · obtain ⟨r, hr, hrel⟩ := ItemStore.replaceFiles_outcome hv hfit hnow
      simp only [changePart, hb, committed_items]
      exact ⟨r, hr, hrel.map fun _ _ h => readsFiles_items h⟩
    · obtain ⟨r, hr, hrel⟩ := ItemStore.assignJob_outcome hv job fs
      simp only [changePart, hb, committed_items]
      exact ⟨r, hr, hrel.map fun _ _ h => readsFiles_items h⟩
  | snapshot hb hready hF' hL' =>
    subst hF' hL'
    rcases TableChange.isFileEdit_cases hc with ⟨fs, rfl⟩ | ⟨old, new, rfl⟩ | ⟨job, fs, rfl⟩
    · obtain ⟨r, hr, hrel⟩ := SnapshotTable.addFiles_outcome hready hfit
      simp only [changePart, hb, committed_snapshot]
      exact ⟨r, hr, hrel.map fun _ _ h => readsFiles_snapshot h⟩
    · obtain ⟨r, hr, hrel⟩ := SnapshotTable.replaceFiles_outcome hready hfit
      simp only [changePart, hb, committed_snapshot]
      exact ⟨r, hr, hrel.map fun _ _ h => readsFiles_snapshot h⟩
    · obtain ⟨r, hr, hrel⟩ := SnapshotTable.assignJob_outcome hready job fs
      simp only [changePart, hb, committed_snapshot]
      exact ⟨r, hr, hrel.map fun _ _ h => readsFiles_snapshot h⟩

end TableStore

end TableState
