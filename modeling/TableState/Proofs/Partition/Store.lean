import TableState.Proofs.Table.Calls
import TableState.Partition.Split
import TableState.Proofs.Item.Partitions
import TableState.Proofs.Snapshot.Partitions

/-!
# The partition tree of a table

A table's partitions form a tree in every state its partition store reaches
(`TableStore.PartitionRun.allPartitions_tree`). A run starts with the first initialisation that
succeeds, and it must write the root alone or the tree for split points of the table's schema.
After that, every successful partition call is a split, or, on a snapshot table, a further
initialisation, which always fails once the partitions pointer exists. A call that fails, of any
kind, is a step of the run too: it leaves the table as it was and at most prunes the objects.

Two conditions of the run exclude what the stores accept without keeping a tree:

* the checks on a split ask that the lower child's range at the split dimension holds a value,
  but not the upper child's; a split whose upper range ends below where it starts gives a leaf
  that holds keys outside its parent's region. A split step asks that both children's ranges
  hold values (`TableStore.SplitHoldsValues`).
* the item store refuses an initialisation only when a partition id is already stored, so a
  second initialisation with new ids adds a second root. A run initialises an item table once.

The invariant of a state (`TableStore.PartitionsWF`) is that of the backend: an item table that
holds a tree, or a partitions pointer with object stores in which every object that reads as
partitions reads as a tree.
-/

set_option autoImplicit false

namespace TableState

namespace TableStore

/-- A change that initialises a table's partitions with a tree: the root alone, or the tree for
split points of the schema. -/
def InitialisesTree (s : Schema) : TableChange → Prop
  | .initialise => True
  | .initialiseWith ps => ∃ points idPrefix, Partition.fromSplitPoints s points idPrefix = .ok ps
  | _ => False

/-- A change that initialises a table's partitions, with whatever list. -/
def Initialises : TableChange → Prop
  | .initialise | .initialiseWith _ => True
  | _ => False

/-- The children of a split hold values at the split dimension: neither range there is empty. -/
def SplitHoldsValues (parent c1 c2 : Partition) : Prop :=
  ∀ d, parent.splitDimension = some d →
    ∀ c ∈ [c1, c2], ∀ r, c.region.ranges[d]? = some r → r.Nonempty

/-- A table whose partitions have not been written: an empty partition table, or object stores
in which every object that reads as partitions reads as a tree. -/
def PartitionsNew (t : TableStore) (o : ObjectStores) : Prop :=
  match t.backend with
  | .items s => s.partitionTable = .empty
  | .snapshot sn _ => sn.partitions.format = partitionFormat ∧ o.TreeWF t.schema.numDimensions

/-- A table whose partitions form a tree: an item table that holds one, or a partitions pointer
with object stores in which every object that reads as partitions reads as a tree. -/
def PartitionsWF (t : TableStore) (o : ObjectStores) : Prop :=
  match t.backend with
  | .items s => ItemPartitionsWF t.schema.numDimensions s.partitionTable
  | .snapshot sn p => sn.partitions.format = partitionFormat ∧
      (p.get? RevisionKind.partitions.pointerKey).isSome ∧ o.TreeWF t.schema.numDimensions

/-- The states a table's partition store reaches by partition calls that succeed, from the first
initialisation on. -/
inductive PartitionRun : TableStore → ObjectStores → Prop
  /-- The first initialisation, with the root alone or the tree for split points. -/
  | init {t t' : TableStore} {o o' : ObjectStores} {now : Int} {c : TableChange}
      (hnew : t.PartitionsNew o) (hc : InitialisesTree t.schema c)
      (h : t.changePart o now c = ((t', o'), .ok ())) : PartitionRun t' o'
  /-- A split whose children hold values at the split dimension. -/
  | split {t t' : TableStore} {o o' : ObjectStores} {now : Int} {parent c1 c2 : Partition}
      (hrun : PartitionRun t o) (hne : SplitHoldsValues parent c1 c2)
      (h : t.changePart o now (.split parent c1 c2) = ((t', o'), .ok ())) : PartitionRun t' o'
  /-- A further initialisation of a snapshot table, with any list. -/
  | reinitialise {t t' : TableStore} {o o' : ObjectStores} {now : Int} {c : TableChange}
      {sn : SnapshotTable} {p : ItemTable}
      (hrun : PartitionRun t o) (hb : t.backend = .snapshot sn p) (hc : Initialises c)
      (h : t.changePart o now c = ((t', o'), .ok ())) : PartitionRun t' o'
  /-- A call of any kind that fails. -/
  | fail {t t' : TableStore} {o o' : ObjectStores} {now : Int} {c : TableChange} {e : Error}
      (hrun : PartitionRun t o) (h : t.changePart o now c = ((t', o'), .error e)) :
      PartitionRun t' o'

variable {t t' : TableStore} {o o' : ObjectStores} {now : Int}

theorem changePart_initialise :
    t.changePart o now .initialise =
      t.changePart o now (.initialiseWith [Partition.root rootId t.schema]) := by
  unfold changePart
  split <;> rfl

/-- A call of the item backend that succeeds replaces the item store by the one it leaves. -/
theorem items_done_eq_ok {r : ItemStore × Except Error Unit}
    (h : (({ t with backend := .items r.1 }, o), r.2) = ((t', o'), .ok ())) :
    r = (r.1, .ok ()) ∧ t' = { t with backend := .items r.1 } := by
  simp only [Prod.mk.injEq] at h
  exact ⟨Prod.ext rfl h.2, h.1.1.symm⟩

/-- A call of the snapshot backend that succeeds keeps the pointers and objects it leaves. -/
theorem snapshot_done_eq_ok {sn : SnapshotTable} {r : SnapshotState × Except Error Unit}
    (h : (({ t with backend := .snapshot sn r.1.pointers }, r.1.objects), r.2) = ((t', o'), .ok ())) :
    r = (r.1, .ok ()) ∧ t' = { t with backend := .snapshot sn r.1.pointers } ∧ o' = r.1.objects := by
  simp only [Prod.mk.injEq] at h
  exact ⟨Prod.ext rfl h.2, h.1.1.symm, h.1.2.symm⟩

theorem changePart_initialiseWith_items {s : ItemStore} (hb : t.backend = .items s)
    {ps : List Partition} (h : t.changePart o now (.initialiseWith ps) = ((t', o'), .ok ())) :
    ∃ s', s.initialisePartitions ps = (s', .ok ()) ∧ t' = { t with backend := .items s' } := by
  simp only [changePart, hb] at h
  exact ⟨_, (items_done_eq_ok h).1, (items_done_eq_ok h).2⟩

theorem changePart_initialiseWith_snapshot {sn : SnapshotTable} {p : ItemTable}
    (hb : t.backend = .snapshot sn p) {ps : List Partition}
    (h : t.changePart o now (.initialiseWith ps) = ((t', o'), .ok ())) :
    ∃ st, sn.initialisePartitions ⟨p, o⟩ ps = (st, .ok ()) ∧
      t' = { t with backend := .snapshot sn st.pointers } ∧ o' = st.objects := by
  simp only [changePart, hb] at h
  exact ⟨_, (snapshot_done_eq_ok h).1, (snapshot_done_eq_ok h).2⟩

theorem changePart_split_items {s : ItemStore} (hb : t.backend = .items s)
    {parent c1 c2 : Partition}
    (h : t.changePart o now (.split parent c1 c2) = ((t', o'), .ok ())) :
    ∃ s', s.split parent c1 c2 = (s', .ok ()) ∧ t' = { t with backend := .items s' } := by
  simp only [changePart, hb] at h
  exact ⟨_, (items_done_eq_ok h).1, (items_done_eq_ok h).2⟩

theorem changePart_split_snapshot {sn : SnapshotTable} {p : ItemTable}
    (hb : t.backend = .snapshot sn p) {parent c1 c2 : Partition}
    (h : t.changePart o now (.split parent c1 c2) = ((t', o'), .ok ())) :
    ∃ st, sn.split ⟨p, o⟩ parent c1 c2 = (st, .ok ()) ∧
      t' = { t with backend := .snapshot sn st.pointers } ∧ o' = st.objects := by
  simp only [changePart, hb] at h
  exact ⟨_, (snapshot_done_eq_ok h).1, (snapshot_done_eq_ok h).2⟩

/-- The trees a run starts with: the root alone, whose region is the whole key space, or the
tree for split points. Both are split on dimension zero or not at all. -/
theorem initial_tree {s : Schema} {c : TableChange} (hc : InitialisesTree s c) :
    ∃ ps, (c = .initialise ∧ ps = [Partition.root rootId s] ∨ c = .initialiseWith ps) ∧
      PartitionTreeWF s.numDimensions ps ∧
      ∀ p ∈ ps, Partition.storedDimension p.splitDimension = p.splitDimension := by
  cases c with
  | initialise =>
    refine ⟨_, .inl ⟨rfl, rfl⟩, PartitionTreeWF.single rfl rfl rfl
      (SplitNode.length_full s), ?_⟩
    intro p hp
    rw [List.mem_singleton.1 hp]
    exact Partition.storedDimension_none
  | initialiseWith ps =>
    obtain ⟨points, idPrefix, h⟩ := hc
    refine ⟨ps, .inr rfl, Partition.fromSplitPoints_wf h, fun p hp => ?_⟩
    rcases Partition.splitDimension_of_fromSplitPoints h p hp with hd | hd <;> rw [hd]
    · exact Partition.storedDimension_none
    · exact Partition.storedDimension_zero
  | _ => exact hc.elim

/-- The first initialisation of a run leaves a tree. -/
theorem PartitionsWF.init {c : TableChange} (hnew : t.PartitionsNew o)
    (hc : InitialisesTree t.schema c) (h : t.changePart o now c = ((t', o'), .ok ())) :
    t'.PartitionsWF o' := by
  obtain ⟨ps, hcps, hwf, hdim⟩ := initial_tree hc
  have h' : t.changePart o now (.initialiseWith ps) = ((t', o'), .ok ()) := by
    rcases hcps with ⟨rfl, rfl⟩ | rfl
    · rwa [← changePart_initialise]
    · exact h
  unfold PartitionsNew at hnew
  cases hb : t.backend with
  | items s =>
    rw [hb] at hnew
    obtain ⟨s', hs', rfl⟩ := changePart_initialiseWith_items hb h'
    exact ItemStore.initialisePartitions_wf hnew hwf hdim hs'
  | snapshot sn p =>
    rw [hb] at hnew
    obtain ⟨st, hst, rfl, rfl⟩ := changePart_initialiseWith_snapshot hb h'
    obtain ⟨hobj, hptr⟩ := SnapshotTable.initialisePartitions_treeWF hnew.1 hnew.2 hwf hst
    exact ⟨hnew.1, hptr, hobj⟩

/-- A split whose children hold values keeps the tree. -/
theorem PartitionsWF.split (hwf : t.PartitionsWF o) {parent c1 c2 : Partition}
    (hne : SplitHoldsValues parent c1 c2)
    (h : t.changePart o now (.split parent c1 c2) = ((t', o'), .ok ())) : t'.PartitionsWF o' := by
  unfold PartitionsWF at hwf
  cases hb : t.backend with
  | items s =>
    rw [hb] at hwf
    obtain ⟨s', hs', rfl⟩ := changePart_split_items hb h
    exact ItemStore.split_wf hwf hne hs'
  | snapshot sn p =>
    rw [hb] at hwf
    obtain ⟨hfmt, hptr, hobj⟩ := hwf
    obtain ⟨st, hst, rfl, rfl⟩ := changePart_split_snapshot hb h
    obtain ⟨hobj', hptr'⟩ := SnapshotTable.split_treeWF hfmt hobj hptr hne hst
    exact ⟨hfmt, hptr', hobj'⟩

/-- Once a snapshot table's partitions are written, no initialisation succeeds. -/
theorem PartitionsWF.not_reinitialise (hwf : t.PartitionsWF o) {sn : SnapshotTable}
    {p : ItemTable} (hb : t.backend = .snapshot sn p) {c : TableChange} (hc : Initialises c) :
    t.changePart o now c ≠ ((t', o'), .ok ()) := by
  unfold PartitionsWF at hwf
  rw [hb] at hwf
  obtain ⟨hfmt, hptr, -⟩ := hwf
  intro h
  have h' : ∃ ps, t.changePart o now (.initialiseWith ps) = ((t', o'), .ok ()) := by
    cases c with
    | initialise => exact ⟨_, by rwa [← changePart_initialise]⟩
    | initialiseWith ps => exact ⟨ps, h⟩
    | _ => exact hc.elim
  obtain ⟨ps, h'⟩ := h'
  obtain ⟨st, hst, -, -⟩ := changePart_initialiseWith_snapshot hb h'
  exact SnapshotTable.initialisePartitions_ne_ok hfmt hptr ps hst

/-- A call that fails keeps the tree: it leaves the table as it was and at most prunes the
objects. -/
theorem PartitionsWF.fail (hwf : t.PartitionsWF o) {c : TableChange} {e : Error}
    (h : t.changePart o now c = ((t', o'), .error e)) : t'.PartitionsWF o' := by
  obtain ⟨ht, hp⟩ := changePart_error (show (t.changePart o now c).2 = .error e by rw [h])
  rw [h] at ht hp
  dsimp only at ht hp
  subst ht
  unfold PartitionsWF at hwf ⊢
  split at hwf
  · exact hwf
  · exact ⟨hwf.1, hwf.2.1, hwf.2.2.pruned hp⟩

/-- Reading the partitions of a table whose partitions form a tree gives the tree. -/
theorem PartitionsWF.allPartitions_wf (hwf : t.PartitionsWF o) {ps : List Partition}
    (hread : t.allPartitions o = .ok ps) : PartitionTreeWF t.schema.numDimensions ps := by
  unfold PartitionsWF at hwf
  unfold allPartitions at hread
  cases hb : t.backend with
  | items s =>
    rw [hb] at hwf hread
    exact ItemStore.allPartitions_wf hwf hread
  | snapshot sn p =>
    rw [hb] at hwf hread
    obtain ⟨⟨r, ps'⟩, hr, hps⟩ := Except.map_eq_ok.1 hread
    cases hps
    exact SnapshotSeries.read_wf hwf.1 hwf.2.2 hr

/-- Every state of a run has its partitions in a tree. -/
theorem PartitionRun.partitionsWF (h : PartitionRun t o) : t.PartitionsWF o := by
  induction h with
  | init hnew hc h => exact PartitionsWF.init hnew hc h
  | split _ hne h ih => exact ih.split hne h
  | reinitialise _ hb hc h ih => exact absurd h (ih.not_reinitialise hb hc)
  | fail _ h ih => exact ih.fail h

/-- In every state a table's partition store reaches, reading its partitions gives a tree over
the schema's keys: unique ids, one root, leaves exactly the partitions without children, every
child stored and naming its parent, two children splitting each internal partition's region, and
every key with a value at each dimension in at most one leaf, in exactly one when the root holds
it. -/
theorem PartitionRun.allPartitions_tree (h : PartitionRun t o) {ps : List Partition}
    (hread : t.allPartitions o = .ok ps) : PartitionTreeWF t.schema.numDimensions ps :=
  h.partitionsWF.allPartitions_wf hread

/-- An item table initialised with the tree for the split points 0 and 10 of a long key, whose
leaf of the keys from 10 on is then split at 20, reads back as a tree of seven partitions. -/
theorem split_points_tree_wf :
    ∃ t o ps, PartitionRun t o ∧ t.allPartitions o = .ok ps ∧
      ps.map (·.id) = ["p0", "p1", "p2", "p2.L", "p2.R", "p3", "p4"] ∧
      PartitionTreeWF t.schema.numDimensions ps := by
  let s : Schema := .single "key" .long
  let t := TableStore.build "t" s 100 0 (.items ItemStore.empty)
  let tree := (Partition.fromSplitPoints s [.long 0, .long 10] "p").toOption.getD []
  have h₀ : Partition.fromSplitPoints s [.long 0, .long 10] "p" = .ok tree :=
    Except.eq_ok_getD _ (by decide +kernel)
  -- the states are named by their components, so that no step has to evaluate them
  let r₁ := (t.changePart .empty 0 (.initialiseWith tree)).1
  have h₁ : t.changePart .empty 0 (.initialiseWith tree) = (r₁, .ok ()) :=
    Prod.ext rfl (by decide +kernel)
  have hinit : InitialisesTree t.schema (.initialiseWith tree) := ⟨_, _, h₀⟩
  have hnew : t.PartitionsNew .empty := rfl
  have hrun₁ : PartitionRun r₁.1 r₁.2 := PartitionRun.init hnew hinit h₁
  -- the leaf of the keys from 10 on, split at 20
  let leaf := (tree.find? (·.id == "p2")).getD (Partition.root "p2" s)
  let sp := (Partition.split leaf 0 (.long 20) "p2.L" "p2.R").toOption.getD ⟨leaf, leaf, leaf⟩
  have hchildren : sp.parent.childIds = [sp.left.id, sp.right.id] := by decide +kernel
  have hv : Partition.validateSplit sp.parent sp.left sp.right = .ok () := by
    refine Partition.validateSplit_eq_ok_iff.2 ⟨by decide +kernel, 0, by decide +kernel,
      by decide +kernel, by rw [hchildren], by decide +kernel, ?_, by decide +kernel⟩
    simp only [List.mem_cons, List.not_mem_nil, or_false, forall_eq_or_imp, forall_eq]
    exact ⟨⟨by decide +kernel, by decide +kernel, by decide +kernel⟩,
      by decide +kernel, by decide +kernel, by decide +kernel⟩
  have hne : SplitHoldsValues sp.parent sp.left sp.right := by
    intro d hd c hc r hr
    obtain rfl : d = 0 := Option.some.inj (hd.symm.trans (by decide +kernel))
    simp only [List.mem_cons, List.not_mem_nil, or_false] at hc
    -- the lower child ends at 20 and the upper child has no end
    rcases hc with rfl | rfl
    · obtain rfl : r = ⟨"key", .long 10, some (.long 20)⟩ :=
        Option.some.inj (hr.symm.trans (by decide +kernel))
      exact fun m hm => by cases hm; decide
    · obtain rfl : r = ⟨"key", .long 20, none⟩ := Option.some.inj (hr.symm.trans (by decide +kernel))
      exact fun m hm => by cases hm
  let r₂ := (r₁.1.changePart r₁.2 0 (.split sp.parent sp.left sp.right)).1
  have h₂ : r₁.1.changePart r₁.2 0 (.split sp.parent sp.left sp.right) =
      ((r₂.1, r₂.2), .ok ()) := by
    refine Prod.ext (Prod.mk.eta (p := r₂)).symm ?_
    -- the kernel does not evaluate the merge sort of the checks, which have passed
    simp only [TableStore.changePart, ItemStore.split, hv]
    decide +kernel
  have hrun : PartitionRun r₂.1 r₂.2 := hrun₁.split hne h₂
  let ps := (r₂.1.allPartitions r₂.2).toOption.getD []
  have h₃ : r₂.1.allPartitions r₂.2 = .ok ps := Except.eq_ok_getD _ (by
    simp only [r₂, TableStore.changePart, ItemStore.split, hv]
    decide +kernel)
  have hids : ps.map (·.id) = ["p0", "p1", "p2", "p2.L", "p2.R", "p3", "p4"] := by
    simp only [ps, r₂, TableStore.changePart, ItemStore.split, hv]
    decide +kernel
  exact ⟨r₂.1, r₂.2, ps, hrun, h₃, hids, hrun.allPartitions_tree h₃⟩

end TableStore

end TableState
