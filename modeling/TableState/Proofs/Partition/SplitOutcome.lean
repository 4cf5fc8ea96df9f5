import TableState.Proofs.Item.Mirror
import TableState.Proofs.Item.Partitions
import TableState.Proofs.Snapshot.Standing

/-!
# The outcome of a split

A split of `parent` into `c1` and `c2` has one outcome among the stored partitions, whichever
backend holds them (`Partition.splitOutcome`). The checks of the split come first; then a
partition with the parent's id must be stored, be a leaf and have the parent's region, and no
partition may have either child's id. The stored partition then takes its split form
(`Partition.splitAs`): its own id, region and parent, with the parent's children and split
dimension; and the children are added as given.

The snapshot backend makes these checks on its list in this order, and its new list differs from
the outcome only in order (`Partition.applySplit_agrees`). The item backend makes them as the
conditions of one transaction: an update of the parent's item on its leaf flag and on the JSON
text of its region, then a put of each child's item where no item is. A stored region's text is
the text of its region, so the condition on the text holds exactly when the regions are equal
(`Region.json_inj`), and the first write refused names the error (`ItemStore.split_agrees`).
Items read back with their split dimensions as stored (`Partition.asStored`); for splits whose
dimensions the columns hold, the outcome on the partitions read back is the outcome on those
written, read back (`Partition.splitOutcome_asStored`).
-/

set_option autoImplicit false

namespace TableState

theorem Region.json_inj {r r' : Region} (h : r.json = r'.json) : r = r' := by
  have hr := Region.ofJson_json r
  rw [h, Region.ofJson_json] at hr
  exact (Option.some.inj hr).symm

namespace Partition

/-! ## The reference outcome -/

/-- The split form of a stored partition `p` for a split of `parent`: not a leaf, with the
children and split dimension of `parent`, and its own id, region and parent. -/
def splitAs (p parent : Partition) : Partition :=
  { p with isLeaf := false, childIds := parent.childIds, splitDimension := parent.splitDimension }

@[simp] theorem id_splitAs (p parent : Partition) : (p.splitAs parent).id = p.id := rfl

/-- The partitions after a split of `parent` into `c1` and `c2` among the stored partitions `ps`,
or the error of the first check that fails. -/
def splitOutcome (ps : List Partition) (parent c1 c2 : Partition) : Except Error (List Partition) := do
  validateSplit parent c1 c2
  match ps.find? (·.id == parent.id) with
  | none => throw (.unknownPartition parent.id)
  | some p =>
    if !p.isLeaf then throw (.concurrentModification ("partition '" ++ parent.id ++ "'"))
    else if p.region ≠ parent.region then throw (.parentRegionMismatch parent.id)
    else if ps.any (·.id == c1.id) then throw (.partitionAlreadyExists c1.id)
    else if ps.any (·.id == c2.id) then throw (.partitionAlreadyExists c2.id)
    else pure (p.splitAs parent :: c1 :: c2 :: ps.erase p)

/-- A split that succeeds turned a stored partition into its split form and added the
children. -/
theorem splitOutcome_eq_ok {ps S : List Partition} {parent c1 c2 : Partition}
    (h : splitOutcome ps parent c1 c2 = .ok S) :
    ∃ p ∈ ps, p.id = parent.id ∧ S = p.splitAs parent :: c1 :: c2 :: ps.erase p := by
  simp only [splitOutcome, Except.bind_eq_ok] at h
  obtain ⟨_, -, h⟩ := h
  split at h
  · cases h
  · rename_i p hfind
    split_ifs at h
    exact ⟨p, List.mem_of_find?_eq_some hfind, by simpa using List.find?_some hfind,
      (Except.pure_eq_ok.1 h).symm⟩

/-- The children of a split that passes its checks have distinct ids. -/
theorem ids_ne_of_validateSplit {parent c1 c2 : Partition} (h : validateSplit parent c1 c2 = .ok ()) :
    c1.id ≠ c2.id := by
  obtain ⟨-, d, -, -, -, hne, -⟩ := validateSplit_eq_ok_iff.1 h
  exact hne

/-! ## Split dimensions as stored -/

/-- A partition as its item reads back: its split dimension as stored. -/
def asStored (p : Partition) : Partition :=
  { p with splitDimension := storedDimension p.splitDimension }

@[simp] theorem id_asStored (p : Partition) : p.asStored.id = p.id := rfl
@[simp] theorem isLeaf_asStored (p : Partition) : p.asStored.isLeaf = p.isLeaf := rfl
@[simp] theorem region_asStored (p : Partition) : p.asStored.region = p.region := rfl

theorem ofItem_toItem_asStored (p : Partition) : ofItem p.toItem = .ok p.asStored :=
  ofItem_toItem p

/-- The columns hold the split dimension of a partition: it is below 2^31. -/
def DimensionFits (p : Partition) : Prop :=
  ∀ d, p.splitDimension = some d → d ≤ 2147483647

theorem dimensionCell_isOk (sd : Option Nat) :
    (∃ c, PartitionColumns.dimensionCell sd = .ok c) ↔ ∀ d, sd = some d → d ≤ 2147483647 := by
  cases sd with
  | none => simp [PartitionColumns.dimensionCell]
  | some d =>
    by_cases hd : d ≤ 2147483647 <;> simp [PartitionColumns.dimensionCell, hd]

/-- The columns hold a list of partitions exactly when they hold each split dimension. -/
theorem ofPartitions_isOk_iff {ps : List Partition} :
    (∃ c, PartitionColumns.ofPartitions ps = .ok c) ↔ ∀ p ∈ ps, p.DimensionFits := by
  constructor
  · rintro ⟨c, hc⟩ p hp
    obtain ⟨dims, hdims, -⟩ := Except.bind_eq_ok.1 hc
    obtain ⟨d, -, hd⟩ := (List.forall₂_of_mapM_eq_ok hdims).exists_of_mem_left hp
    exact (dimensionCell_isOk _).1 ⟨d, hd⟩
  · intro hfit
    obtain ⟨dims, hdims⟩ := List.mapM_eq_ok_of_forall fun (p : Partition) hp =>
      (dimensionCell_isOk p.splitDimension).2 (hfit p hp)
    exact ⟨_, by simp [PartitionColumns.ofPartitions, hdims, bind, Except.bind]; rfl⟩

theorem asStored_of_fits {p : Partition} (h : p.DimensionFits) : p.asStored = p := by
  rcases p with ⟨id, region, isLeaf, parentId, childIds, _ | d⟩
  · rfl
  · have hd := h d rfl
    have hint : (Int64.ofInt (d : Int)).toInt = d :=
      Int64.toInt_ofInt_of_le (by omega) (by omega)
    simp [asStored, storedDimension, splitDimensionNumber, hint]

/-- The split form takes its dimension from the parent, so it reads back as written when the
parent's does. -/
theorem asStored_splitAs (p : Partition) {parent : Partition} (h : parent.DimensionFits) :
    (p.splitAs parent).asStored = p.asStored.splitAs parent := by
  have hpar := congrArg splitDimension (asStored_of_fits h)
  simp only [asStored, splitAs] at hpar ⊢
  rw [hpar]

/-! ## The snapshot backend -/

/-- Marking the split form changes the first partition with the parent's id, where it stands. -/
theorem markSplit_perm {parent p : Partition} :
    ∀ {ps : List Partition}, ps.find? (·.id == parent.id) = some p →
      (markSplit parent ps).Perm (p.splitAs parent :: ps.erase p)
  | q :: ps, h => by
    rw [List.find?_cons] at h
    by_cases hq : q.id = parent.id
    · simp only [hq, BEq.rfl, Option.some.injEq] at h
      subst h
      simp [markSplit, hq, splitAs]
    · have hne : (q.id == parent.id) = false := by simpa using hq
      simp only [hne] at h
      have hqp : q ≠ p := fun he => hq (he ▸ by simpa using List.find?_some h)
      rw [markSplit, if_neg hq, List.erase_cons_tail (by simpa using hqp)]
      exact ((markSplit_perm h).cons q).trans (List.Perm.swap _ _ _)
  | [], h => by cases h

/-- The snapshot backend's split of a list agrees with the outcome, up to order. -/
theorem applySplit_agrees {ps : List Partition} {parent c1 c2 : Partition}
    (hv : validateSplit parent c1 c2 = .ok ()) :
    Except.Rel List.Perm (applySplit ps parent c1 c2) (splitOutcome ps parent c1 c2) := by
  simp only [applySplit, splitOutcome, hv, bind, Except.bind]
  cases hfind : ps.find? (·.id == parent.id) with
  | none => exact .error _
  | some p =>
    simp only
    by_cases hleaf : p.isLeaf = true
    · by_cases hreg : p.region = parent.region
      · by_cases h₁ : ps.any (·.id == c1.id) = true
        · simp [hleaf, hreg, h₁]
          exact .error _
        · by_cases h₂ : ps.any (·.id == c2.id) = true
          · simp [hleaf, hreg, h₁, h₂]
            exact .error _
          · simp [hleaf, hreg, h₁, h₂]
            refine .ok ?_
            -- the children move from the end to just after the split form
            calc List.Perm (markSplit parent ps ++ [c1, c2]) ([c1, c2] ++ markSplit parent ps) :=
                  List.perm_append_comm
              _ = c1 :: c2 :: markSplit parent ps := rfl
              List.Perm _ (c1 :: c2 :: (p.splitAs parent :: ps.erase p)) :=
                  ((markSplit_perm hfind).cons c2).cons c1
              List.Perm _ (p.splitAs parent :: c1 :: c2 :: ps.erase p) :=
                  (List.perm_middle : List.Perm ([c1, c2] ++ p.splitAs parent :: ps.erase p) _)
      · simp [hleaf, hreg]
        exact .error _
    · simp [hleaf]
      exact .error _

/-! ## Reading back -/

theorem any_id_asStored {ps : List Partition} (k : String) :
    (ps.map asStored).any (·.id == k) = ps.any (·.id == k) := by
  simp [List.any_map, Function.comp_def]

/-- The split form keeps the stored partition's id, so putting it in that partition's place keeps
the ids. -/
theorem any_id_splitAs_erase {xs : List Partition} {x : Partition} (hx : x ∈ xs)
    (parent : Partition) (k : String) :
    (x.splitAs parent :: xs.erase x).any (·.id == k) = xs.any (·.id == k) := by
  rw [(List.perm_cons_erase hx).any_eq, List.any_cons, List.any_cons, id_splitAs]

/-- On partitions with distinct ids, the outcome of a split among the partitions read back is the
outcome among those written, read back, when the columns hold the split's dimensions. -/
theorem splitOutcome_asStored {xs S : List Partition} (hnd : (xs.map id).Nodup)
    (hS : S.Perm (xs.map asStored)) {parent c1 c2 : Partition}
    (hfit : ∀ p ∈ [parent, c1, c2], p.DimensionFits) :
    Except.Rel (fun xs' S' => List.Perm S' (xs'.map asStored))
      (splitOutcome xs parent c1 c2) (splitOutcome S parent c1 c2) := by
  have hSnd : (S.map id).Nodup := by
    rw [(hS.map id).nodup_iff, List.map_map]
    exact hnd
  have hany : ∀ k, S.any (·.id == k) = xs.any (·.id == k) := fun k => by
    rw [hS.any_eq, any_id_asStored]
  unfold splitOutcome
  refine Except.Rel.bind_left fun u _ => ?_
  cases hfind : xs.find? (·.id == parent.id) with
  | none =>
    -- no partition written has the parent's id, so none read back has
    have hnone : S.find? (·.id == parent.id) = none := by
      rw [List.find?_eq_none]
      intro q hq
      obtain ⟨x, hx, rfl⟩ := List.mem_map.1 (hS.mem_iff.1 hq)
      simpa using List.find?_eq_none.1 hfind x hx
    rw [hnone]
    exact .error _
  | some x =>
    have hx := List.mem_of_find?_eq_some hfind
    have hxid : x.id = parent.id := by simpa using List.find?_some hfind
    have hSx : x.asStored ∈ S := hS.mem_iff.2 (List.mem_map_of_mem hx)
    have hfindS : S.find? (·.id == parent.id) = some x.asStored := by
      rw [← hxid]
      exact find?_id_of_mem hSnd hSx
    -- the rest read back is the rest written, read back
    have hrest : List.Perm (S.erase x.asStored) ((xs.erase x).map asStored) :=
      ((List.perm_cons_erase hSx).symm.trans
        (hS.trans ((List.perm_cons_erase hx).map asStored))).cons_inv
    rw [hfindS]
    simp only [isLeaf_asStored, region_asStored, hany]
    split_ifs
    · exact .error _
    · exact .error _
    · exact .error _
    · exact .error _
    · refine .ok ?_
      simp only [List.map_cons, asStored_splitAs x (hfit parent (by simp)),
        asStored_of_fits (hfit c1 (by simp)), asStored_of_fits (hfit c2 (by simp))]
      exact ((hrest.cons c2).cons c1).cons _

end Partition

namespace SnapshotTable

open TableState.Partition

/-- The snapshot backend's split of the partitions it reads agrees with the outcome among them:
it fails with the outcome's error, or commits a revision that reads back as the outcome, up to
order, when the columns hold the split's dimensions and fewer than 2^64 - 1 tokens have been
issued. -/
theorem split_agrees {t : SnapshotTable} {st : SnapshotState}
    (hs : t.partitions.Standing) (hfmt : t.partitions.format = partitionFormat)
    (hwf : RevisionKind.partitions.PointerWF st.pointers st.objects.tokens)
    (ho : st.objects.Encodable) {cur : RevisionId} {rs : List Partition}
    (hread : t.partitions.read st = .ok (cur, rs)) {parent c1 c2 : Partition}
    (hfit : ∀ p ∈ [parent, c1, c2], p.DimensionFits) (hroom : st.objects.tokens + 1 < Nat.pow 2 64) :
    Except.Rel (fun st' S' => ∃ r S'', t.partitions.read st' = .ok (r, S'') ∧ S''.Perm S')
      (Except.committed (t.split st parent c1 c2)) (splitOutcome rs parent c1 c2) := by
  -- the partitions read fit the columns, since their object does
  have hrs : ∀ p ∈ rs, p.DimensionFits := by
    obtain ⟨-, u, loc, obj, -, -, hobj, hdec⟩ := SnapshotSeries.read_current hread
    rw [hfmt] at hdec
    obtain ⟨obj', henc⟩ := partitionFormat_decode_encodable (ho loc obj hobj) hdec
    obtain ⟨c, hc, -⟩ := Except.map_eq_ok.1 henc
    exact ofPartitions_isOk_iff.1 ⟨c, hc⟩
  unfold SnapshotTable.split
  cases hv : validateSplit parent c1 c2 with
  | error e =>
    simp only [splitOutcome, hv, bind, Except.bind]
    exact .error e
  | ok u =>
    have hagree : Except.Rel List.Perm (applySplit rs parent c1 c2) (splitOutcome rs parent c1 c2) :=
      applySplit_agrees hv
    generalize hA : applySplit rs parent c1 c2 = A at hagree
    generalize hB : splitOutcome rs parent c1 c2 = B at hagree
    cases hagree with
    | error e =>
      rw [SnapshotSeries.update_change_error hs.attempts hread (by rw [hA]; rfl)]
      exact .error e
    | ok hperm =>
      rename_i ps' S'
      obtain ⟨p, hp, -, rfl⟩ := splitOutcome_eq_ok hB
      -- the split form takes the parent's dimension, and the rest were read
      have hfit' : ∀ q ∈ ps', q.DimensionFits := by
        intro q hq
        rcases List.mem_cons.1 (hperm.mem_iff.1 hq) with rfl | hq
        · exact hfit parent (by simp)
        rcases List.mem_cons.1 hq with hq | hq
        · exact hq ▸ hfit c1 (by simp)
        rcases List.mem_cons.1 hq with hq | hq
        · exact hq ▸ hfit c2 (by simp)
        · exact hrs q (List.mem_of_mem_erase hq)
      obtain ⟨c, hc⟩ := ofPartitions_isOk_iff.2 hfit'
      have henc : t.partitions.format.encode ps' = .ok (.partitions ps') := by
        rw [hfmt]
        simp [partitionFormat, hc]
      obtain ⟨st', hupdate, r, hr⟩ :=
        SnapshotSeries.update_commits hs (by rw [hfmt]; exact hwf)
          (fun ps => some <$> applySplit ps parent c1 c2) hread (by rw [hA]; rfl) henc hroom
      rw [hupdate]
      exact .ok ⟨r, ps', hr, hperm⟩

end SnapshotTable

namespace Partition

/-! ## The item backend -/

theorem toItem_sorted (p : Partition) : p.toItem.Sorted := by
  rw [toItem_eq]
  exact (((((Item.sorted_empty.set _ _).set _ _).set _ _).set _ _).set _ _).setOpt _ _

/-- A split's update of a partition's item gives the item of its split form. -/
theorem toItem_merge_splitUpdate (p parent : Partition) :
    p.toItem.merge parent.splitUpdate = (p.splitAs parent).toItem := by
  refine Item.ext_of_sorted ((toItem_sorted p).merge _) (toItem_sorted _) fun m => ?_
  rw [Item.get?_merge _ (splitUpdate_sorted parent)]
  simp only [toItem_eq, splitUpdate, splitAs, Item.get?_setOpt, Item.get?_set, Item.get?_empty]
  split_ifs <;> simp_all

end Partition

namespace ItemStore

variable {s : ItemStore} {xs : List Partition}

/-- Reading a partition table that mirrors the partitions written gives them read back, in some
order. -/
theorem allPartitions_perm_asStored (h : s.partitionTable.Mirrors Partition.id Partition.toItem xs)
    {n : Nat} {S : List Partition} (hread : s.allPartitions n = .ok S) :
    S.Perm (xs.map Partition.asStored) := by
  have hperm : S.Perm ((xs.filter fun x => "".isPrefixOf x.id).map Partition.asStored) :=
    h.read_perm (f := Partition.asStored) (fun x _ y hy => (Except.ok.inj ((Partition.ofItem_toItem_asStored x).symm.trans hy)).symm) hread
  rwa [List.filter_eq_self.2 fun x _ => by simp [isPrefixOf_iff]] at hperm

/-- A partition table that mirrors the partitions written can be read. -/
theorem allPartitions_isOk (h : s.partitionTable.Mirrors Partition.id Partition.toItem xs)
    (n : Nat) : ∃ S, s.allPartitions n = .ok S :=
  h.read_isOk (fun x _ _ => ⟨_, Partition.ofItem_toItem_asStored x⟩) n

theorem admits_put_absent (t : ItemTable) (k : String) (i : Item) :
    t.admits (.put k i .absent) = (t.get? k).isNone := by
  simp [ItemTable.admits, WriteOp.key, WriteOp.condition, Condition.holds]

/-- The update of a split's parent is admitted by the item of a stored partition exactly when
that partition is a leaf of the parent's region: the texts of two regions are equal exactly when
the regions are. -/
theorem admits_splitUpdate {t : ItemTable} {parent x : Partition}
    (hget : t.get? parent.id = some x.toItem) (u : Item) :
    t.admits (.update parent.id u [] (.all [.attributeEquals "isLeaf" (.bool true),
        .attributeEquals "region" (.string parent.region.json)])) =
      (x.isLeaf && decide (x.region = parent.region)) := by
  have hjson : (x.region.json = parent.region.json) ↔ x.region = parent.region :=
    ⟨Region.json_inj, congrArg Region.json⟩
  simp only [ItemTable.admits, WriteOp.key, WriteOp.condition, hget, Condition.holds,
    Condition.holdsAll]
  rw [Bool.eq_iff_iff]
  simp [Partition.toItem_eq, hjson]

/-- The split's transaction on a table with no item under the parent's id: the update is
refused. -/
theorem transact_splitWrites_of_get?_eq_none {t : ItemTable} {parent c1 c2 : Partition}
    (hget : t.get? parent.id = none) :
    t.transact (splitWrites parent c1 c2) = (.conditionFailed 0 parent.id, t) := by
  simp [ItemTable.transact, splitWrites, ItemTable.applyAll_cons, ItemTable.admits, WriteOp.key,
    hget]

/-- The split's transaction on a table that holds the item of `x` under the parent's id: the
update is refused unless `x` is a leaf of the parent's region, and then leaves the item of its
split form; each child's put is refused where an item is; otherwise all three take effect. -/
theorem transact_splitWrites_of_get? {t : ItemTable} {parent x c1 c2 : Partition}
    (hget : t.get? parent.id = some x.toItem) :
    t.transact (splitWrites parent c1 c2) =
      if !(x.isLeaf && decide (x.region = parent.region)) then (.conditionFailed 0 parent.id, t)
      else if !((t.put parent.id (x.splitAs parent).toItem).get? c1.id).isNone then
        (.conditionFailed 1 c1.id, t)
      else if !(((t.put parent.id (x.splitAs parent).toItem).put c1.id c1.toItem).get? c2.id).isNone
      then (.conditionFailed 2 c2.id, t)
      else (.committed,
        ((t.put parent.id (x.splitAs parent).toItem).put c1.id c1.toItem).put c2.id c2.toItem) := by
  have hadm₀ := admits_splitUpdate hget parent.splitUpdate
  have hstore₀ : t.store parent.id ((WriteOp.update parent.id parent.splitUpdate []
      (.all [.attributeEquals "isLeaf" (.bool true),
        .attributeEquals "region" (.string parent.region.json)])).apply (t.get? parent.id)) =
      t.put parent.id (x.splitAs parent).toItem := by
    simp [WriteOp.apply, hget, ItemTable.store, Partition.toItem_merge_splitUpdate]
  simp only [ItemTable.transact, splitWrites, ItemTable.applyAll_cons, hadm₀, WriteOp.key,
    hstore₀, admits_put_absent]
  split_ifs <;> simp_all [WriteOp.apply, ItemTable.store, ItemTable.applyAll_nil]

/-- Why a split's update was refused, read from the item of the stored partition with the
parent's id, if any. -/
theorem splitRejected_of_find? (h : s.partitionTable.Mirrors Partition.id Partition.toItem xs)
    {parent x : Partition} (hx : x ∈ xs) (hxid : x.id = parent.id) :
    s.splitRejected parent = .ok (if !x.isLeaf then
      .concurrentModification ("partition '" ++ parent.id ++ "'")
      else if x.region ≠ parent.region then .parentRegionMismatch parent.id
      else .concurrentModification ("partition '" ++ parent.id ++ "'")) := by
  have hget : s.partitionTable.get? parent.id = some x.toItem := hxid ▸ h.get?_of_mem x hx
  simp only [splitRejected, hget, Partition.ofItem_toItem_asStored, bind, Except.bind,
    Partition.isLeaf_asStored, Partition.region_asStored]
  by_cases hl : x.isLeaf = true <;> by_cases hr : x.region = parent.region <;> simp [hl, hr]

/-- The item backend's split agrees with the outcome among the partitions written: a refused
write names the error of the first failing check, and a committed split leaves the table
mirroring the outcome. -/
theorem split_agrees (h : s.partitionTable.Mirrors Partition.id Partition.toItem xs)
    (parent c1 c2 : Partition) :
    Except.Rel (fun s' xs' => s'.partitionTable.Mirrors Partition.id Partition.toItem xs' ∧
        s'.fileTable = s.fileTable)
      (Except.committed (s.split parent c1 c2)) (Partition.splitOutcome xs parent c1 c2) := by
  unfold split transactPartitions Partition.splitOutcome
  cases hv : Partition.validateSplit parent c1 c2 with
  | error e => exact .error e
  | ok u => ?_
  have hne := Partition.ids_ne_of_validateSplit hv
  cases hfind : xs.find? (·.id == parent.id) with
  | none =>
    -- no partition has the parent's id: the update finds no item
    have hget : s.partitionTable.get? parent.id = none :=
      h.get?_eq_none _ fun x hx he => by simpa [he] using List.find?_eq_none.1 hfind x hx
    have hrej : s.splitRejected parent = .ok (.unknownPartition parent.id) := by
      simp [splitRejected, hget]
    simp only [transact_splitWrites_of_get?_eq_none hget, hrej, bind, Except.bind]
    exact .error _
  | some x =>
    have hx := List.mem_of_find?_eq_some hfind
    have hxid : x.id = parent.id := by simpa using List.find?_some hfind
    have hget : s.partitionTable.get? parent.id = some x.toItem := hxid ▸ h.get?_of_mem x hx
    rw [transact_splitWrites_of_get? hget]
    by_cases hok : x.isLeaf = true ∧ x.region = parent.region
    · obtain ⟨hleaf, hreg⟩ := hok
      -- the update puts the split form in the partition's place, with the same ids
      have h₁ := h.put_replace (y := x.splitAs parent) hx rfl
      rw [Partition.id_splitAs, hxid] at h₁
      have hany := Partition.any_id_splitAs_erase hx parent
      simp only [hleaf, hreg, decide_true, Bool.and_self, Bool.not_true, Bool.false_eq_true,
        if_false, ne_eq, not_true_eq_false, h₁.isNone_get?, hany, Bool.not_not]
      by_cases hc₁ : xs.any (·.id == c1.id) = true
      · -- a partition has the first child's id, so its put is refused
        simp only [hc₁, if_true]
        exact .error _
      rw [Bool.not_eq_true] at hc₁
      have h₂ := h₁.put_new (y := c1) fun z hz => by
        simpa using List.any_eq_false.1 ((hany c1.id).trans hc₁) z hz
      simp only [hc₁, Bool.false_eq_true, if_false, h₂.isNone_get?, List.any_cons, hany,
        beq_false_of_ne hne, Bool.false_or, Bool.not_not]
      by_cases hc₂ : xs.any (·.id == c2.id) = true
      · -- a partition has the second child's id, so its put is refused
        simp only [hc₂, if_true]
        exact .error _
      -- every write takes effect: the table mirrors the split form and both children
      rw [Bool.not_eq_true] at hc₂
      have h₃ := h₂.put_new (y := c2) fun z hz => by
        have hc₂' : (c1 :: x.splitAs parent :: xs.erase x).any (·.id == c2.id) = false := by
          rw [List.any_cons, hany, beq_false_of_ne hne, hc₂, Bool.false_or]
        simpa using List.any_eq_false.1 hc₂' z hz
      simp only [hc₂, Bool.false_eq_true, if_false]
      -- the children were put in turn in front of the split form
      exact .ok ⟨h₃.perm ((List.perm_middle : List.Perm ([c2, c1] ++ _ :: _) _) |>.trans
        ((List.Perm.swap c1 c2 _).cons _)), rfl⟩
    · -- the update is refused: the stored partition tells why
      have hrefused : (x.isLeaf && decide (x.region = parent.region)) = false := by
        simpa using hok
      simp only [hrefused, Bool.not_false, if_true, splitRejected_of_find? h hx hxid, bind,
        Except.bind]
      by_cases hl : x.isLeaf = true
      · have hr : x.region ≠ parent.region := fun hr => hok ⟨hl, hr⟩
        simp [hl, hr]
        exact .error _
      · simp [hl]
        exact .error _

end ItemStore

end TableState
