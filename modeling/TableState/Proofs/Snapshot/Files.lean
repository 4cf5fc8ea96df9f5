import TableState.Proofs.Snapshot.Calls
import TableState.Proofs.Snapshot.Records

/-!
# Consistent file records in the object stores

The object stores of a session are shared by every snapshot table, and a base location with a
query maps every snapshot of a table to one path, so a snapshot may be overwritten by another
table's, or by a snapshot of the other kind. The invariant that survives this is one about all
objects at once: every record list that any object holds is consistent (`ObjectStores.FilesWF`).

A partition series writes only partitions. A file series writes a changed record list computed
from the list it read, which is consistent: an object of files holds a consistent list, and an
object of partitions reads as files only when it is empty. So every change of the files of a
snapshot table keeps the invariant (`SnapshotTable.addFiles_filesWF` and the lemmas after it),
given that the change of the list keeps a list consistent
(`TableState.Proofs.Snapshot.Records`).
-/

set_option autoImplicit false

namespace TableState

/-- An object holds a consistent record list, or partitions. -/
def SnapshotObject.FilesWF : SnapshotObject → Prop
  | .files fs => RecordListWF fs
  | .partitions _ => True

namespace ObjectStores

/-- Every record list that an object holds is consistent. -/
def FilesWF (o : ObjectStores) : Prop :=
  ∀ loc obj, o.get? loc = some obj → obj.FilesWF

variable {o : ObjectStores}

theorem FilesWF.empty : ObjectStores.empty.FilesWF := by
  intro loc obj h
  cases h

theorem FilesWF.put (h : o.FilesWF) {obj : SnapshotObject} (hobj : obj.FilesWF)
    (loc : ObjectLocation) : (o.put loc obj).FilesWF := by
  intro loc' obj' hget
  rw [get?_put] at hget
  split at hget
  · cases hget
    exact hobj
  · exact h loc' obj' hget

theorem FilesWF.pruned (h : o.FilesWF) {o' : ObjectStores} (hp : o.Pruned o') : o'.FilesWF :=
  fun loc obj hget => h loc obj (hp.1 loc obj hget)

end ObjectStores

namespace SnapshotSeries

variable {st st' : SnapshotState}

/-- The objects of partitions hold no record list. -/
theorem partitions_encode_filesWF {ps : List Partition} {obj : SnapshotObject}
    (h : partitionFormat.encode ps = .ok obj) : obj.FilesWF := by
  obtain ⟨_, -, rfl⟩ := Except.map_eq_ok.1 h
  trivial

/-- An update of a partition series keeps the record lists of the objects consistent. -/
theorem update_partitions_filesWF {s : SnapshotSeries Partition} (hs : s.format = partitionFormat)
    {change : List Partition → Except Error (Option (List Partition))}
    (h : st.objects.FilesWF) (hu : s.update st change = (st', .ok ())) : st'.objects.FilesWF := by
  rcases update_eq_ok hu with rfl | ⟨_, _, _, loc, obj, -, -, henc, hobjs⟩
  · exact h
  · rw [hobjs]
    rw [hs] at henc
    exact h.put (partitions_encode_filesWF henc) loc

/-- An initialisation of a partition series keeps the record lists of the objects consistent. -/
theorem initialise_partitions_filesWF {s : SnapshotSeries Partition}
    (hs : s.format = partitionFormat) {ps : List Partition} (h : st.objects.FilesWF)
    (hi : s.initialise st ps = (st', .ok ())) : st'.objects.FilesWF := by
  obtain ⟨loc, obj, henc, hobjs⟩ := initialise_eq_ok hi
  rw [hobjs]
  rw [hs] at henc
  exact h.put (partitions_encode_filesWF henc) loc

variable {s : SnapshotSeries FileRecord}

/-- The records a file series reads from consistent objects are consistent. -/
theorem read_files_wf (hs : s.format = fileFormat) (h : st.objects.FilesWF) {r : RevisionId}
    {rs : List FileRecord} (hr : s.read st = .ok (r, rs)) : RecordListWF rs := by
  obtain ⟨loc, obj, hget, hdec⟩ := read_eq_ok hr
  have hobj := h loc obj hget
  rw [hs] at hdec
  cases obj with
  | files fs =>
    cases hdec
    exact hobj
  | partitions ps =>
    cases ps with
    | nil =>
      cases hdec
      exact RecordListWF.nil
    | cons _ _ => cases hdec

/-- Two lists read through the records of one series are parts of one list the series reads. -/
theorem read_of_parts {f g : List FileRecord → List FileRecord} {F L : List FileRecord}
    (hF : (s.records st).map f = .ok F) (hL : (s.records st).map g = .ok L) :
    ∃ cur rs, s.read st = .ok (cur, rs) ∧ F = f rs ∧ L = g rs := by
  obtain ⟨rs, hrs, rfl⟩ := Except.map_eq_ok.1 hF
  obtain ⟨rs', hrs', rfl⟩ := Except.map_eq_ok.1 hL
  rw [hrs] at hrs'
  cases hrs'
  obtain ⟨⟨cur, rs₁⟩, hread, rfl⟩ := Except.map_eq_ok.1 hrs
  exact ⟨cur, rs₁, hread, rfl, rfl⟩

/-- A file series writes the record list it encodes. -/
theorem files_encode_filesWF {rs : List FileRecord} (hrs : RecordListWF rs) {obj : SnapshotObject}
    (h : fileFormat.encode rs = .ok obj) : obj.FilesWF := by
  obtain ⟨_, -, rfl⟩ := Except.map_eq_ok.1 h
  exact hrs

/-- An update of a file series whose change keeps record lists consistent keeps the record lists
of the objects consistent. -/
theorem update_files_filesWF (hs : s.format = fileFormat)
    {change : List FileRecord → Except Error (Option (List FileRecord))}
    (hchange : ∀ rs rs', RecordListWF rs → change rs = .ok (some rs') → RecordListWF rs')
    (h : st.objects.FilesWF) (hu : s.update st change = (st', .ok ())) : st'.objects.FilesWF := by
  rcases update_eq_ok hu with rfl | ⟨_, rs, rs', loc, obj, hread, hch, henc, hobjs⟩
  · exact h
  · rw [hobjs]
    rw [hs] at henc
    exact h.put (files_encode_filesWF (hchange rs rs' (read_files_wf hs h hread) hch) henc) loc

/-- An initialisation of a file series with a consistent list keeps the record lists of the
objects consistent. -/
theorem initialise_files_filesWF (hs : s.format = fileFormat) {rs : List FileRecord}
    (hrs : RecordListWF rs) (h : st.objects.FilesWF) (hi : s.initialise st rs = (st', .ok ())) :
    st'.objects.FilesWF := by
  obtain ⟨loc, obj, henc, hobjs⟩ := initialise_eq_ok hi
  rw [hobjs]
  rw [hs] at henc
  exact h.put (files_encode_filesWF hrs henc) loc

end SnapshotSeries

namespace SnapshotTable

/-- The series of a snapshot table store partitions and files in their own formats, as every
table built from a base location does. -/
def Formatted (t : SnapshotTable) : Prop :=
  t.partitions.format = partitionFormat ∧ t.files.format = fileFormat

theorem formatted_ofBase (urls : UrlLibrary) (base : Url) (maxAttempts : Nat) :
    (ofBase urls base maxAttempts).Formatted :=
  ⟨rfl, rfl⟩

variable {t : SnapshotTable} {st st' : SnapshotState}

open SnapshotSeries

theorem initialisePartitions_filesWF (ht : t.Formatted) (h : st.objects.FilesWF)
    {ps : List Partition} : (t.initialisePartitions st ps).1.objects.FilesWF := by
  refine initialisePartitions_error.keeps (fun _ hp => h.pruned hp) fun st' hi => ?_
  exact initialise_partitions_filesWF ht.1 h (initialisePartitions_eq_ok.1 hi).2

theorem initialiseFiles_filesWF (ht : t.Formatted) (h : st.objects.FilesWF) :
    (t.initialiseFiles st).1.objects.FilesWF :=
  initialiseFiles_error.keeps (fun _ hp => h.pruned hp) fun _ hi =>
    initialise_files_filesWF ht.2 RecordListWF.nil h hi

theorem split_filesWF (ht : t.Formatted) (h : st.objects.FilesWF) {parent c1 c2 : Partition} :
    (t.split st parent c1 c2).1.objects.FilesWF := by
  refine split_error.keeps (fun _ hp => h.pruned hp) fun st' hs => ?_
  exact update_partitions_filesWF ht.1 h (split_eq_ok.1 hs).2

theorem addFiles_filesWF (ht : t.Formatted) (h : st.objects.FilesWF) {now : Int}
    {fs : List FileRecord} : (t.addFiles st now fs).1.objects.FilesWF := by
  refine addFiles_error.keeps (fun _ hp => h.pruned hp) fun st' ha => ?_
  obtain ⟨hv, ha⟩ := addFiles_eq_ok.1 ha
  refine update_files_filesWF ht.2 ?_ h ha
  intro rs rs' hrs hch
  obtain ⟨rs'', hins, hsome⟩ := Except.fmap_eq_ok.1 hch
  cases hsome
  exact hrs.insertFiles hv hins

theorem replaceFiles_filesWF (ht : t.Formatted) (h : st.objects.FilesWF) {now : Int}
    {old new : List FileRecord} : (t.replaceFiles st now old new).1.objects.FilesWF := by
  refine replaceFiles_error.keeps (fun _ hp => h.pruned hp) fun st' hr => ?_
  obtain ⟨-, hv, hr⟩ := replaceFiles_eq_ok.1 hr
  refine update_files_filesWF ht.2 ?_ h hr
  intro rs rs' hrs hch
  obtain ⟨rs₁, hrem, hch⟩ := Except.bind_eq_ok.1 hch
  obtain ⟨rs₂, hins, hsome⟩ := Except.fmap_eq_ok.1 hch
  cases hsome
  exact (hrs.removeRecords hrem).insertFiles hv hins

theorem assignJob_filesWF (ht : t.Formatted) (h : st.objects.FilesWF) {job : String}
    {fs : List FileRecord} : (t.assignJob st job fs).1.objects.FilesWF := by
  refine assignJob_error.keeps (fun _ hp => h.pruned hp) fun st' ha => ?_
  obtain ⟨-, -, ha⟩ := assignJob_eq_ok.1 ha
  refine update_files_filesWF ht.2 ?_ h ha
  intro rs rs' hrs hch
  obtain ⟨rs'', hclaim, hsome⟩ := Except.fmap_eq_ok.1 hch
  cases hsome
  exact hrs.claim hclaim

theorem markGcPending_filesWF (ht : t.Formatted) (h : st.objects.FilesWF) {now : Int} :
    (t.markGcPending st now).1.objects.FilesWF := by
  refine markGcPending_error.keeps (fun _ hp => h.pruned hp) fun st' hm => ?_
  refine update_files_filesWF ht.2 ?_ h hm
  intro rs rs' hrs hch
  exact hrs.markUnreferenced (Except.pure_eq_ok.1 hch)

theorem deleteLifecycle_filesWF (ht : t.Formatted) (h : st.objects.FilesWF)
    {names : List String} : (t.deleteLifecycle st names).1.objects.FilesWF := by
  refine deleteLifecycle_error.keeps (fun _ hp => h.pruned hp) fun st' hd => ?_
  refine update_files_filesWF ht.2 ?_ h hd
  intro rs rs' hrs hch
  obtain ⟨rs₁, hrem, hpure⟩ := Except.bind_eq_ok.1 hch
  have hsome := Except.pure_eq_ok.1 hpure
  split at hsome
  · cases hsome
  · cases hsome
    exact hrs.removeLifecycle hrem

end SnapshotTable

end TableState
