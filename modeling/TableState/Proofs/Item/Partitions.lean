import TableState.Proofs.Item.Store
import TableState.Proofs.Item.Format
import TableState.Proofs.Item.Scan
import TableState.Proofs.Item.Transact
import TableState.Proofs.Region.Json
import TableState.Proofs.Partition.SplitPoints

/-!
# Partition items

The item backend keeps each partition as an item under its id. An item reads back as the
partition it was written from, but for its split dimension, which is stored as a signed 64-bit
number (`Partition.ofItem_toItem`); a split's update of the parent's item reads back as the
parent's split form (`Partition.ofItem_merge_splitUpdate`).

The partition table holds a tree (`ItemPartitionsWF`) when it is sorted and its items read back
as the partitions of a tree, each under its id (`ItemTable.HoldsPartitions`). Reading the table
then gives the tree in key order (`ItemStore.allPartitions_perm`). Initialising an empty table
with a tree keeps that tree, and a split whose children hold values keeps the table a tree.
-/

set_option autoImplicit false

namespace TableState

namespace Partition

/-- The split dimension a partition's item reads back as. -/
def storedDimension (sd : Option Nat) : Option Nat :=
  let dimension := splitDimensionNumber sd
  if dimension.toInt < 0 then none else some dimension.toInt.toNat

theorem storedDimension_none : storedDimension none = none := by
  decide

theorem storedDimension_zero : storedDimension (some 0) = some 0 := by
  decide

/-- The item of a partition: its fixed attributes, then its parent if it has one. -/
theorem toItem_eq (p : Partition) : p.toItem =
    (Item.empty.set "partitionId" (.string p.id)
      |>.set "isLeaf" (.bool p.isLeaf)
      |>.set "childPartitionIds" (.stringList p.childIds)
      |>.set "region" (.string p.region.json)
      |>.set "splitDimension" (.number (splitDimensionNumber p.splitDimension))).setOpt
      "parentPartitionId" (p.parentId.map .string) := by
  rcases p with ⟨id, region, isLeaf, parentId, childIds, sd⟩
  cases parentId <;> rfl

/-- An item with an id, a region text that reads as a region, a split dimension and a leaf flag
reads as the partition of those, its parent and its children. -/
theorem ofItem_of_get? {i : Item} {id text : String} {r : Region} {n : Int64} {b : Bool}
    (hid : i.get? "partitionId" = some (.string id))
    (hregion : i.get? "region" = some (.string text)) (hr : Region.ofJson? text = some r)
    (hdim : i.get? "splitDimension" = some (.number n))
    (hleaf : i.get? "isLeaf" = some (.bool b)) :
    ofItem i = .ok ⟨id, r, b, i.getString? "parentPartitionId",
      (i.getStringList? "childPartitionIds").getD [],
      if n.toInt < 0 then none else some n.toInt.toNat⟩ := by
  simp only [ofItem, Item.getString?, Item.getNumber?, Item.getBool?, hid, hregion, hr, hdim,
    hleaf]
  rfl

/-- A partition's item reads back as the partition, its split dimension as stored. -/
theorem ofItem_toItem (p : Partition) :
    ofItem p.toItem = .ok { p with splitDimension := storedDimension p.splitDimension } := by
  rw [@ofItem_of_get? p.toItem p.id p.region.json p.region
    (splitDimensionNumber p.splitDimension) p.isLeaf (by simp [toItem_eq]) (by simp [toItem_eq])
    (Region.ofJson_json p.region) (by simp [toItem_eq]) (by simp [toItem_eq])]
  rcases p with ⟨id, region, isLeaf, parentId, childIds, sd⟩
  cases parentId <;> simp [toItem_eq, Item.getString?, Item.getStringList?, storedDimension]

theorem getString?_eq_some {i : Item} {name s : String} :
    i.getString? name = some s ↔ i.get? name = some (.string s) := by
  unfold Item.getString?
  split <;> simp_all

/-- A partition read from an item has the item's id, region, leaf flag, parent and children. -/
theorem ofItem_eq_ok {i : Item} {p : Partition} (h : ofItem i = .ok p) :
    ∃ text n, i.get? "partitionId" = some (.string p.id) ∧
      i.get? "region" = some (.string text) ∧ Region.ofJson? text = some p.region ∧
      i.get? "splitDimension" = some (.number n) ∧ i.get? "isLeaf" = some (.bool p.isLeaf) ∧
      p.parentId = i.getString? "parentPartitionId" ∧
      p.childIds = (i.getStringList? "childPartitionIds").getD [] := by
  simp only [ofItem] at h
  -- each attribute is read in turn; every branch that does not read it throws
  split at h
  · rename_i id hid
    split at h
    · rename_i text htext
      split at h
      · rename_i r hr
        split at h
        · rename_i n hn
          split at h
          · rename_i b hb
            obtain rfl := (Except.pure_eq_ok.1 h).symm
            refine ⟨text, n, getString?_eq_some.1 hid, getString?_eq_some.1 htext, hr, ?_, ?_,
              rfl, rfl⟩
            · unfold Item.getNumber? at hn
              split at hn <;> simp_all
            · unfold Item.getBool? at hb
              split at hb <;> simp_all
          · cases h
        · cases h
      · cases h
    · cases h
  · cases h

theorem splitUpdate_sorted (p : Partition) : p.splitUpdate.Sorted :=
  ((Item.sorted_empty.set _ _).set _ _).set _ _

/-- The parent's item updated by a split reads back as the stored partition in the split form
of the parent: no longer a leaf, with the parent's children and split dimension. -/
theorem ofItem_merge_splitUpdate {i : Item} {sp : Partition} (h : ofItem i = .ok sp)
    (parent : Partition) :
    ofItem (i.merge parent.splitUpdate) =
      .ok { sp with isLeaf := false, childIds := parent.childIds,
                    splitDimension := storedDimension parent.splitDimension } := by
  obtain ⟨text, n, hid, hregion, hr, hdim, hleaf, hparent, hchildren⟩ := ofItem_eq_ok h
  have hget := fun m => Item.get?_merge i (splitUpdate_sorted parent) m
  rw [@ofItem_of_get? _ sp.id text sp.region (splitDimensionNumber parent.splitDimension) false
    (by rw [hget]; simp [splitUpdate, hid]) (by rw [hget]; simp [splitUpdate, hregion]) hr
    (by rw [hget]; simp [splitUpdate]) (by rw [hget]; simp [splitUpdate])]
  rcases sp with ⟨id, region, isLeaf, parentId, childIds, sd⟩
  simp only at hparent
  simp only [Item.getString?, Item.getStringList?, hget]
  simp [hparent, Item.getString?, splitUpdate, storedDimension]

end Partition

namespace ItemTable

/-- The items of a table read back as the partitions `ps`, each under its id. -/
def HoldsPartitions (t : ItemTable) (ps : List Partition) : Prop :=
  (∀ k i, t.get? k = some i → ∃ p ∈ ps, p.id = k ∧ Partition.ofItem i = .ok p) ∧
    ∀ p ∈ ps, ∃ i, t.get? p.id = some i ∧ Partition.ofItem i = .ok p

end ItemTable

/-- The partition table of the item backend holds a tree over keys of `n` dimensions. -/
structure ItemPartitionsWF (n : Nat) (t : ItemTable) : Prop where
  sorted : t.Sorted
  tree : ∃ ps, PartitionTreeWF n ps ∧ t.HoldsPartitions ps

namespace ItemStore

/-- Reading a sorted partition table whose items read back as partitions with distinct ids gives
those partitions, in key order. -/
theorem allPartitions_perm {s : ItemStore} {pageSize : Nat} {ps qs : List Partition}
    (hs : s.partitionTable.Sorted) (hold : s.partitionTable.HoldsPartitions ps)
    (hnd : (ps.map (·.id)).Nodup) (hread : s.allPartitions pageSize = .ok qs) : qs.Perm ps := by
  unfold allPartitions at hread
  rw [hs.scanAll_eq, List.filter_eq_self.2 fun e _ => by simp [isPrefixOf_iff]] at hread
  have hF := List.forall₂_of_mapM_eq_ok hread
  -- every partition read is one of `ps`, under its own id
  have hread_mem : ∀ e ∈ s.partitionTable.entries, ∀ q, Partition.ofItem e.2 = .ok q →
      q ∈ ps ∧ q.id = e.1 := by
    intro e he q hq
    obtain ⟨p, hp, hid, hdec⟩ :=
      hold.1 e.1 e.2 ((hs.mem_entries_iff e.1 e.2).1 he)
    obtain rfl : p = q := Except.ok.inj (hdec.symm.trans hq)
    exact ⟨hp, hid⟩
  have hids : qs.map (·.id) = s.partitionTable.entries.map (·.1) :=
    (hF.map_eq fun e he q hq => (hread_mem e he q hq).2.symm).symm
  have hkeys : (s.partitionTable.entries.map (·.1)).Nodup := by
    rw [List.Nodup, List.pairwise_map]
    exact hs.imp ne_of_lt
  refine (List.perm_ext_iff_of_nodup (List.Nodup.of_map _ (hids ▸ hkeys))
    (List.Nodup.of_map _ hnd)).2 fun q => ⟨fun hq => ?_, fun hq => ?_⟩
  · obtain ⟨e, he, hdec⟩ := hF.exists_of_mem_right hq
    exact (hread_mem e he q hdec).1
  · obtain ⟨i, hget, hdec⟩ := hold.2 q hq
    obtain ⟨q', hq', hdec'⟩ :=
      hF.exists_of_mem_left ((hs.mem_entries_iff q.id i).2 hget)
    rwa [Except.ok.inj (hdec.symm.trans hdec')]

/-- What a committed split does to the partition table: the parent's item, a leaf of the
parent's region, is updated by the split, and the children's items are added where no item was;
every other key keeps its item. -/
theorem splitWrites_committed {t t' : ItemTable} {parent c1 c2 : Partition}
    (h : t.applyAll 0 (splitWrites parent c1 c2) = .ok t') :
    ∃ i, t.get? parent.id = some i ∧ i.get? "isLeaf" = some (.bool true) ∧
      i.get? "region" = some (.string parent.region.json) ∧
      t.get? c1.id = none ∧ t.get? c2.id = none ∧ c1.id ≠ parent.id ∧ c2.id ≠ parent.id ∧
      t'.get? parent.id = some (i.merge parent.splitUpdate) ∧
      t'.get? c1.id = some c1.toItem ∧ t'.get? c2.id = some c2.toItem ∧
      ∀ k, k ≠ parent.id → k ≠ c1.id → k ≠ c2.id → t'.get? k = t.get? k := by
  rw [splitWrites, ItemTable.applyAll_cons] at h
  split at h
  · rename_i hadm
    simp only [WriteOp.key] at h
    cases hcur : t.get? parent.id with
    | none => simp [ItemTable.admits, WriteOp.key, hcur] at hadm
    | some i =>
      simp [ItemTable.admits, WriteOp.key, WriteOp.condition, hcur, Condition.holds] at hadm
      obtain ⟨hleaf, hregion⟩ := hadm
      -- after the update, the children are inserted where no item is
      have hins : ItemTable.Inserting
          [.put c1.id c1.toItem .absent, .put c2.id c2.toItem .absent] := by
        intro op hop
        simp only [List.mem_cons, List.not_mem_nil, or_false] at hop
        rcases hop with rfl | rfl <;> exact ⟨fun _ => rfl, fun _ => rfl⟩
      have hmid : ∀ k, (t.store parent.id ((WriteOp.update parent.id parent.splitUpdate []
          (.all [.attributeEquals "isLeaf" (.bool true),
            .attributeEquals "region" (.string parent.region.json)])).apply (t.get? parent.id))).get? k =
          if k = parent.id then some (i.merge parent.splitUpdate) else t.get? k := by
        intro k
        simp [WriteOp.apply, hcur]
      have hnone₁ := ItemTable.get?_eq_none_of_applyAll_inserting hins h (List.mem_cons_self ..)
      have hnone₂ := ItemTable.get?_eq_none_of_applyAll_inserting hins h
        (List.mem_cons_of_mem _ (List.mem_cons_self ..))
      simp only [WriteOp.key, hmid] at hnone₁ hnone₂
      have hne₁ : c1.id ≠ parent.id := fun he => by simp [he] at hnone₁
      have hne₂ : c2.id ≠ parent.id := fun he => by simp [he] at hnone₂
      simp only [hne₁, hne₂, if_false] at hnone₁ hnone₂
      have huntouched : ∀ k, k ≠ c1.id → k ≠ c2.id → t'.get? k = if k = parent.id then
          some (i.merge parent.splitUpdate) else t.get? k := by
        intro k h₁ h₂
        rw [ItemTable.get?_of_applyAll_untouched h, hmid]
        intro op hop
        simp only [List.mem_cons, List.not_mem_nil, or_false] at hop
        rcases hop with rfl | rfl
        · exact Ne.symm h₁
        · exact Ne.symm h₂
      refine ⟨i, rfl, hleaf, hregion, hnone₁, hnone₂, hne₁, hne₂, ?_, ?_, ?_, ?_⟩
      · simpa using huntouched parent.id (Ne.symm hne₁) (Ne.symm hne₂)
      · exact ItemTable.get?_of_applyAll_inserting_mem hins h (List.mem_cons_self ..)
      · exact ItemTable.get?_of_applyAll_inserting_mem hins h
          (List.mem_cons_of_mem _ (List.mem_cons_self ..))
      · intro k hk h₁ h₂
        simpa [hk] using huntouched k h₁ h₂
  · cases h

/-- Reading a partition table that holds a tree gives the tree. -/
theorem allPartitions_wf {s : ItemStore} {n pageSize : Nat}
    (h : ItemPartitionsWF n s.partitionTable) {qs : List Partition}
    (hread : s.allPartitions pageSize = .ok qs) : PartitionTreeWF n qs := by
  obtain ⟨ps, hwf, hold⟩ := h.tree
  exact hwf.perm (allPartitions_perm h.sorted hold hwf.ids_nodup hread).symm

/-- Initialising an empty partition table with a tree whose split dimensions read back as
written leaves the table holding that tree. -/
theorem initialisePartitions_wf {s s' : ItemStore} {n : Nat} {ps : List Partition}
    (hempty : s.partitionTable = .empty) (hwf : PartitionTreeWF n ps)
    (hdim : ∀ p ∈ ps, Partition.storedDimension p.splitDimension = p.splitDimension)
    (h : s.initialisePartitions ps = (s', .ok ())) : ItemPartitionsWF n s'.partitionTable := by
  obtain ⟨-, t, htr, rfl⟩ := initialisePartitions_eq_ok.1 h
  have ha := ItemTable.transact_eq_committed.1 htr
  have hins : ItemTable.Inserting (ps.map fun p => .put p.id p.toItem .absent) := by
    intro op hop
    obtain ⟨p, -, rfl⟩ := List.mem_map.1 hop
    exact ⟨fun _ => rfl, fun _ => rfl⟩
  -- each partition's item reads back as the partition
  have hread : ∀ p ∈ ps, Partition.ofItem p.toItem = .ok p := by
    intro p hp
    rw [Partition.ofItem_toItem, hdim p hp]
  rw [hempty] at ha
  refine ⟨ItemTable.sorted_empty.applyAll ha, ps, hwf, fun k i hk => ?_, fun p hp => ?_⟩
  · rcases ItemTable.get?_of_applyAll_inserting hins ha k with hsame | ⟨op, hop, hkey, -, hres⟩
    · simp [hsame] at hk
    · obtain ⟨p, hp, rfl⟩ := List.mem_map.1 hop
      rw [hk] at hres
      cases hres
      exact ⟨p, hp, hkey, hread p hp⟩
  · have hop : WriteOp.put p.id p.toItem .absent ∈
        ps.map fun p => WriteOp.put p.id p.toItem .absent := List.mem_map_of_mem hp
    exact ⟨p.toItem, ItemTable.get?_of_applyAll_inserting_mem hins ha hop, hread p hp⟩

/-- A split whose children's ranges at the split dimension hold values keeps the partition table
a tree. -/
theorem split_wf {s s' : ItemStore} {n : Nat} (h : ItemPartitionsWF n s.partitionTable)
    {parent c1 c2 : Partition}
    (hne : ∀ d, parent.splitDimension = some d →
      ∀ c ∈ [c1, c2], ∀ r, c.region.ranges[d]? = some r → r.Nonempty)
    (hs : s.split parent c1 c2 = (s', .ok ())) : ItemPartitionsWF n s'.partitionTable := by
  obtain ⟨hval, t, htr, rfl⟩ := split_eq_ok.1 hs
  have ha := ItemTable.transact_eq_committed.1 htr
  obtain ⟨i, hget, hleaf, hregion, hn₁, hn₂, hne₁, hne₂, hpar, hc₁, hc₂, hrest⟩ :=
    splitWrites_committed ha
  obtain ⟨ps, hwf, hold⟩ := h.tree
  -- the stored parent is a leaf of the parent's region
  obtain ⟨sp, hsp, hspid, hdec⟩ := hold.1 _ _ hget
  obtain ⟨text, _, -, hregion', hr, -, hleaf', -, -⟩ := Partition.ofItem_eq_ok hdec
  have hspleaf : sp.isLeaf = true := by
    rw [hleaf] at hleaf'
    exact (AttrValue.bool.inj (Option.some.inj hleaf')).symm
  have hspreg : sp.region = parent.region := by
    rw [hregion] at hregion'
    cases hregion'
    rw [Region.ofJson_json] at hr
    exact (Option.some.inj hr).symm
  have hperm : ps.Perm (sp :: ps.erase sp) := List.perm_cons_erase hsp
  have hnodup : ps.Nodup := List.Nodup.of_map _ hwf.ids_nodup
  -- no stored partition has a child's id
  have hfresh : ∀ q ∈ ps, q.id ≠ c1.id ∧ q.id ≠ c2.id := by
    intro q hq
    obtain ⟨iq, hq', -⟩ := hold.2 q hq
    refine ⟨fun he => ?_, fun he => ?_⟩
    · rw [he, hn₁] at hq'
      cases hq'
    · rw [he, hn₂] at hq'
      cases hq'
  have hrest_mem : ∀ q ∈ ps.erase sp, q ∈ ps ∧ q.id ≠ parent.id := by
    intro q hq
    obtain ⟨hqsp, hq⟩ := (List.Nodup.mem_erase_iff hnodup).1 hq
    exact ⟨hq, fun he => hqsp (List.inj_on_of_nodup_map hwf.ids_nodup hq hsp (he.trans hspid.symm))⟩
  have hchk := (Partition.splitChecked_of_validateSplit hval hne).withSplitDimension
    (Partition.storedDimension c1.splitDimension) (Partition.storedDimension c2.splitDimension)
  have hfresh' : ∀ q ∈ sp :: ps.erase sp,
      q.id ≠ ({ c1 with splitDimension := Partition.storedDimension c1.splitDimension } :
        Partition).id ∧
      q.id ≠ ({ c2 with splitDimension := Partition.storedDimension c2.splitDimension } :
        Partition).id :=
    fun q hq => hfresh q (hperm.mem_iff.2 hq)
  refine ⟨h.sorted.applyAll ha, _, (hwf.perm hperm).split_leaf hspleaf hspid hspreg hfresh' hchk
    (Partition.storedDimension parent.splitDimension), fun k i' hk => ?_, fun p hp => ?_⟩
  · -- an item is the updated parent, a new child, or an item it was
    by_cases hkp : k = parent.id
    · subst hkp
      rw [hpar] at hk
      cases hk
      exact ⟨_, List.mem_cons_self .., hspid, Partition.ofItem_merge_splitUpdate hdec parent⟩
    by_cases hk₁ : k = c1.id
    · subst hk₁
      rw [hc₁] at hk
      cases hk
      exact ⟨{ c1 with splitDimension := Partition.storedDimension c1.splitDimension }, by simp,
        rfl, Partition.ofItem_toItem c1⟩
    by_cases hk₂ : k = c2.id
    · subst hk₂
      rw [hc₂] at hk
      cases hk
      exact ⟨{ c2 with splitDimension := Partition.storedDimension c2.splitDimension }, by simp,
        rfl, Partition.ofItem_toItem c2⟩
    rw [hrest k hkp hk₁ hk₂] at hk
    obtain ⟨p, hp, hpk, hpdec⟩ := hold.1 k i' hk
    have hpsp : p ≠ sp := fun he => hkp (hpk ▸ he ▸ hspid)
    exact ⟨p, List.mem_cons_of_mem _ (List.mem_cons_of_mem _ (List.mem_cons_of_mem _
      ((List.mem_erase_of_ne hpsp).2 hp))), hpk, hpdec⟩
  · simp only [List.mem_cons] at hp
    rcases hp with rfl | rfl | rfl | hp
    · exact ⟨_, hspid ▸ hpar, Partition.ofItem_merge_splitUpdate hdec parent⟩
    · exact ⟨_, hc₁, Partition.ofItem_toItem c1⟩
    · exact ⟨_, hc₂, Partition.ofItem_toItem c2⟩
    · obtain ⟨hp, hpp⟩ := hrest_mem p hp
      obtain ⟨i'', hget'', hdec''⟩ := hold.2 p hp
      exact ⟨i'', (hrest p.id hpp (hfresh p hp).1 (hfresh p hp).2).trans hget'', hdec''⟩

end ItemStore

end TableState
