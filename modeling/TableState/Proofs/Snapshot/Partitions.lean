import TableState.Proofs.Snapshot.Calls
import TableState.Proofs.Snapshot.Series
import TableState.Proofs.Item.Table
import TableState.Proofs.Partition.Tree

/-!
# Partition trees in the object stores

The snapshot backend reads a table's partitions from the object that its partitions pointer
names. Which object that is depends on how the base location maps snapshot names to paths, so
the invariant is one about every object at once (`ObjectStores.TreeWF`): each object that reads
as partitions reads as a tree. An object of partitions holds its list; an object of files reads
as partitions only when it holds no records, so it must hold some.

A partition series writes only partitions: its first snapshot, and then the result of a split of
the list it read (`Partition.applySplit_wf`). Each keeps the invariant. Once the pointer exists,
every further initialisation fails (`SnapshotSeries.initialise_ne_ok`).
-/

set_option autoImplicit false

namespace TableState

/-- An object reads as the partitions of a tree over `n` dimensions, or not as partitions. -/
def SnapshotObject.TreeWF (n : Nat) : SnapshotObject → Prop
  | .partitions ps => PartitionTreeWF n ps
  | .files fs => fs ≠ []

namespace ObjectStores

/-- Every object that reads as partitions reads as a tree over `n` dimensions. -/
def TreeWF (n : Nat) (o : ObjectStores) : Prop :=
  ∀ loc obj, o.get? loc = some obj → obj.TreeWF n

variable {n : Nat} {o : ObjectStores}

theorem treeWF_empty : ObjectStores.empty.TreeWF n := by
  intro loc obj h
  cases h

theorem TreeWF.put (h : o.TreeWF n) {obj : SnapshotObject} (hobj : obj.TreeWF n)
    (loc : ObjectLocation) : (o.put loc obj).TreeWF n := by
  intro loc' obj' hget
  rw [get?_put] at hget
  split at hget
  · cases hget
    exact hobj
  · exact h loc' obj' hget

theorem TreeWF.pruned (h : o.TreeWF n) {o' : ObjectStores} (hp : o.Pruned o') : o'.TreeWF n :=
  fun loc obj hget => h loc obj (hp.1 loc obj hget)

end ObjectStores

/-- An object of partitions holds the partitions it was written with. -/
theorem partitionFormat_encode {ps : List Partition} {obj : SnapshotObject}
    (h : partitionFormat.encode ps = .ok obj) : obj = .partitions ps := by
  obtain ⟨_, -, rfl⟩ := Except.map_eq_ok.1 h
  rfl

/-- An object of a tree reads as partitions only as that tree. -/
theorem partitionFormat_decode_wf {n : Nat} {obj : SnapshotObject} (h : obj.TreeWF n)
    {ps : List Partition} (hdec : partitionFormat.decode obj = .ok ps) : PartitionTreeWF n ps := by
  cases obj with
  | partitions qs =>
    cases hdec
    exact h
  | files fs =>
    cases fs with
    | nil => exact absurd rfl h
    | cons f fs => cases hdec

end TableState

namespace TableState

namespace Partition

/-- Marking the split form changes the first partition with the parent's id, where it stands. -/
theorem markSplit_eq {parent stored : Partition} :
    ∀ {ps : List Partition}, ps.find? (·.id == parent.id) = some stored →
      ∃ pre post, ps = pre ++ stored :: post ∧ markSplit parent ps =
        pre ++ { stored with isLeaf := false, childIds := parent.childIds,
                             splitDimension := parent.splitDimension } :: post
  | p :: ps, h => by
    rw [List.find?_cons] at h
    by_cases hp : p.id = parent.id
    · simp only [hp, BEq.rfl, Option.some.injEq] at h
      subst h
      exact ⟨[], ps, rfl, by simp [markSplit, hp]⟩
    · have hne : (p.id == parent.id) = false := by simpa using hp
      simp only [hne] at h
      obtain ⟨pre, post, h₁, h₂⟩ := markSplit_eq h
      exact ⟨p :: pre, post, by simp [h₁], by simp [markSplit, hp, h₂]⟩
  | [], h => by cases h

/-- A split of a stored list of partitions that form a tree, whose checks pass, gives a tree. -/
theorem applySplit_wf {n : Nat} {ps ps' : List Partition} (h : PartitionTreeWF n ps)
    {parent c1 c2 : Partition} (hchk : SplitChecked parent c1 c2)
    (hs : applySplit ps parent c1 c2 = .ok ps') : PartitionTreeWF n ps' := by
  simp only [applySplit] at hs
  split at hs
  · rename_i stored hfind
    split_ifs at hs
    all_goals try cases hs
    rename_i hleaf hreg h₁ h₂
    obtain ⟨pre, post, hps, hmark⟩ := markSplit_eq hfind
    have hid : stored.id = parent.id := by simpa using List.find?_some hfind
    have hperm : ps.Perm (stored :: (pre ++ post)) := by
      rw [hps]
      exact List.perm_middle
    -- no stored partition has a child's id
    have hfresh : ∀ q ∈ stored :: (pre ++ post), q.id ≠ c1.id ∧ q.id ≠ c2.id := by
      intro q hq
      have hq' := hperm.mem_iff.2 hq
      simp only [List.any_eq_true, beq_iff_eq, not_exists, not_and] at h₁ h₂
      exact ⟨h₁ q hq', h₂ q hq'⟩
    have hsplit := (h.perm hperm).split_leaf (by simpa using hleaf) hid (by simpa using hreg)
      hfresh hchk parent.splitDimension
    -- the children move from the front to the end
    have hmove : List.Perm ([c1, c2] ++ (pre ++ post)) (pre ++ (post ++ [c1, c2])) :=
      calc List.Perm ([c1, c2] ++ (pre ++ post)) (pre ++ post ++ [c1, c2]) :=
            List.perm_append_comm
        _ = pre ++ (post ++ [c1, c2]) := List.append_assoc ..
    rw [hmark, List.append_assoc]
    exact hsplit.perm ((List.Perm.cons _ hmove).trans List.perm_middle.symm)
  · cases hs

end Partition

namespace ItemTable

/-- A committed single put leaves its item under its key. -/
theorem get?_of_applyAll_put {t t' : ItemTable} {n : Nat} {k : String} {i : Item}
    {c : Condition} (h : t.applyAll n [.put k i c] = .ok t') : t'.get? k = some i := by
  rw [applyAll_cons] at h
  split at h
  · cases h
    simp [WriteOp.key, WriteOp.apply]
  · cases h

end ItemTable

namespace SnapshotSeries

variable {st st' : SnapshotState} {n : Nat}

/-- Reading partitions from stores whose objects read as trees gives a tree. -/
theorem read_wf {s : SnapshotSeries Partition} (hs : s.format = partitionFormat)
    (h : st.objects.TreeWF n) {r : RevisionId} {ps : List Partition}
    (hread : s.read st = .ok (r, ps)) : PartitionTreeWF n ps := by
  obtain ⟨loc, obj, hget, hdec⟩ := read_eq_ok hread
  rw [hs] at hdec
  exact partitionFormat_decode_wf (h loc obj hget) hdec

/-- Writing a tree as the first snapshot keeps the objects trees. -/
theorem initialise_treeWF {s : SnapshotSeries Partition} (hs : s.format = partitionFormat)
    (h : st.objects.TreeWF n) {ps : List Partition} (hwf : PartitionTreeWF n ps)
    (hinit : s.initialise st ps = (st', .ok ())) : st'.objects.TreeWF n := by
  obtain ⟨loc, obj, henc, ho⟩ := initialise_eq_ok hinit
  rw [hs] at henc
  rw [ho, partitionFormat_encode henc]
  exact ObjectStores.TreeWF.put (fun loc obj hget => h loc obj hget)
    (show (SnapshotObject.partitions ps).TreeWF n from hwf) loc

/-- An initialisation that succeeds leaves the pointer of its kind. -/
theorem initialise_pointer {α : Type} {s : SnapshotSeries α} {rs : List α}
    (hinit : s.initialise st rs = (st', .ok ())) :
    (st'.pointers.get? s.format.kind.pointerKey).isSome := by
  obtain ⟨loc, obj, t, -, -, hcreate, rfl⟩ := initialise_cases hinit
  simp [ItemTable.get?_of_applyAll_put (ItemTable.transact_eq_committed.1 hcreate)]

/-- An update that succeeds keeps the pointer of its kind. -/
theorem update_pointer {α : Type} {s : SnapshotSeries α}
    {change : List α → Except Error (Option (List α))}
    (hp : (st.pointers.get? s.format.kind.pointerKey).isSome)
    (hupdate : s.update st change = (st', .ok ())) :
    (st'.pointers.get? s.format.kind.pointerKey).isSome := by
  rcases update_cases hupdate with rfl | ⟨cur, rs, rs', loc, obj, t, -, -, -, -, hmove, rfl⟩
  · exact hp
  · simp [ItemTable.get?_of_applyAll_put (ItemTable.transact_eq_committed.1 hmove)]

/-- Once the pointer of a kind exists, initialising that kind fails: it is initialised, or its
pointer does not read. -/
theorem initialise_ne_ok {α : Type} {s : SnapshotSeries α} {rs : List α}
    (hp : (st.pointers.get? s.format.kind.pointerKey).isSome) :
    s.initialise st rs ≠ (st', .ok ()) := by
  intro hinit
  obtain ⟨loc, obj, t, hcur, -⟩ := initialise_cases hinit
  obtain ⟨i, hi⟩ := Option.isSome_iff_exists.1 hp
  -- the pointer reads as some revision, or the read fails
  simp only [RevisionKind.current, hi] at hcur
  split at hcur
  · obtain ⟨r, -, hr⟩ := Except.map_eq_ok.1 hcur
    cases hr
  · cases hcur

end SnapshotSeries

namespace SnapshotTable

variable {t : SnapshotTable} {st st' : SnapshotState} {n : Nat}

/-- Initialising the partitions with a tree keeps the objects trees and leaves the pointer. -/
theorem initialisePartitions_treeWF (hs : t.partitions.format = partitionFormat)
    (h : st.objects.TreeWF n) {ps : List Partition} (hwf : PartitionTreeWF n ps)
    (hinit : t.initialisePartitions st ps = (st', .ok ())) :
    st'.objects.TreeWF n ∧ (st'.pointers.get? RevisionKind.partitions.pointerKey).isSome := by
  obtain ⟨-, hinit⟩ := initialisePartitions_eq_ok.1 hinit
  have hp := SnapshotSeries.initialise_pointer hinit
  rw [hs] at hp
  exact ⟨SnapshotSeries.initialise_treeWF hs h hwf hinit, hp⟩

/-- Once the partitions pointer exists, initialising the partitions fails. -/
theorem initialisePartitions_ne_ok (hs : t.partitions.format = partitionFormat)
    (hp : (st.pointers.get? RevisionKind.partitions.pointerKey).isSome) (ps : List Partition) :
    t.initialisePartitions st ps ≠ (st', .ok ()) := by
  intro hinit
  obtain ⟨-, hinit⟩ := initialisePartitions_eq_ok.1 hinit
  rw [← show partitionFormat.kind = RevisionKind.partitions from rfl, ← hs] at hp
  exact SnapshotSeries.initialise_ne_ok hp hinit

/-- A split whose children's ranges at the split dimension hold values keeps the objects trees
and the pointer. -/
theorem split_treeWF (hs : t.partitions.format = partitionFormat) (h : st.objects.TreeWF n)
    (hp : (st.pointers.get? RevisionKind.partitions.pointerKey).isSome)
    {parent c1 c2 : Partition}
    (hne : ∀ d, parent.splitDimension = some d →
      ∀ c ∈ [c1, c2], ∀ r, c.region.ranges[d]? = some r → r.Nonempty)
    (hsplit : t.split st parent c1 c2 = (st', .ok ())) :
    st'.objects.TreeWF n ∧ (st'.pointers.get? RevisionKind.partitions.pointerKey).isSome := by
  obtain ⟨hval, hupdate⟩ := split_eq_ok.1 hsplit
  have hkind : t.partitions.format.kind = RevisionKind.partitions := by rw [hs]; rfl
  refine ⟨?_, hkind ▸ SnapshotSeries.update_pointer (hkind ▸ hp) hupdate⟩
  rcases SnapshotSeries.update_eq_ok hupdate with rfl | ⟨cur, rs, rs', loc, obj, hread, hchange,
    henc, ho⟩
  · exact h
  · -- the list written is the split of the tree read
    obtain ⟨rs'', happly, hsome⟩ := Except.map_eq_ok.1 hchange
    cases hsome
    have hwf := Partition.applySplit_wf (SnapshotSeries.read_wf hs h hread)
      (Partition.splitChecked_of_validateSplit hval hne) happly
    rw [hs] at henc
    rw [ho, partitionFormat_encode henc]
    exact ObjectStores.TreeWF.put (fun loc obj hget => h loc obj hget)
      (show (SnapshotObject.partitions rs').TreeWF n from hwf) loc

end SnapshotTable

end TableState
