import TableState.Proofs.Partition.Descent
import TableState.Proofs.Partition.Balanced
import TableState.Proofs.Partition.Splitter

/-!
# Trees grown by splits find every key's leaf

A table's partitions start as the root alone or as the tree of split points, and grow by splits
of leaves, each made by `Partition.split` with ids for the two children that no partition has
(`Partition.Reachable`). Every list reached so has a tree, its root covers the schema's region,
and for every key with a value the walk from the root ends at the one leaf whose region holds
the key, the leaf a search through the whole list finds
(`Partition.Reachable.leafForKey_finds_leaf`).

The invariant that carries this is `Partition.DescentTree`: ids are unique and one partition is
the root; every child a partition lists is stored and names it as its parent; an internal
partition that holds a key with a value has a child that holds it; and such a key lies in one
leaf when the root's region holds it, in none otherwise. It depends on the partitions as a set
(`Partition.DescentTree.perm`). The tree of split points has it, though its internal partitions
cut the first dimension only: every key with a value has one there. A split keeps it
(`Partition.DescentTree.split_leaf`), since a split's children cut the leaf's region for every
key. Its links make the walk end and its cover makes the walk end at a leaf that holds the key
(`PartitionTree.leafForKey_isSome`, `PartitionTree.descend_eq_leaf`); the count makes that leaf
the only one.
-/

set_option autoImplicit false

namespace TableState

/-- A key that lies in one leaf: that leaf is all a search of the leaves finds. -/
theorem filter_leaves_eq_singleton {ps : List Partition} {k : Key} {p : Partition}
    (hcount : leavesHolding ps k = 1) (hp : p ∈ ps) (hleaf : p.isLeaf = true)
    (hk : p.region.contains k = true) :
    ps.filter (fun q => q.isLeaf && q.region.contains k) = [p] := by
  rw [leavesHolding, List.countP_eq_length_filter, List.length_eq_one_iff] at hcount
  obtain ⟨x, hx⟩ := hcount
  have hmem : p ∈ ps.filter (fun q => q.isLeaf && q.region.contains k) :=
    List.mem_filter.2 ⟨hp, by simp [hleaf, hk]⟩
  rw [hx, List.mem_singleton] at hmem
  rw [hx, hmem]

/-- A key with a value lies in a region whose range at dimension zero is replaced by one of two
ranges that cover it exactly when it lies in the region with one of the two: it has a value at
dimension zero. -/
theorem Region.contains_withRange_zero_cover {r : Region} (hd : 0 < r.ranges.length)
    {p lo hi : Range} (hcover : ∀ v, p.contains v = true → lo.contains v = true ∨ hi.contains v = true)
    {k : Key} (hk : k.values ≠ []) (h : (r.withRange 0 p).contains k = true) :
    (r.withRange 0 lo).contains k = true ∨ (r.withRange 0 hi).contains k = true := by
  obtain ⟨v, vs, hvs⟩ := List.exists_cons_of_ne_nil hk
  have hv : k.get? 0 = some v := by simp [Key.get?, hvs]
  rw [contains_withRange hd p hv] at h
  rw [contains_withRange hd lo hv, contains_withRange hd hi hv]
  exact (hcover v h.2).imp (fun h₁ => ⟨h.1, h₁⟩) (fun h₂ => ⟨h.1, h₂⟩)

namespace Partition

/-- A split that succeeds was made of a leaf, strictly inside its range at the dimension, with
the ids given, and its children cut the leaf's region. -/
theorem split_eq_ok_inv {P : Partition} {d : Nat} {v : KeyValue} {leftId rightId : String}
    {res : SplitResult} (h : P.split d v leftId rightId = .ok res) :
    P.isLeaf = true ∧ ∃ r, res.IsSplitOf P d r v ∧ res.left.id = leftId ∧
      res.right.id = rightId ∧ P.region.CutInto res.left.region res.right.region := by
  obtain ⟨hnot, hnodim, htype, hout, hok⟩ := split_spec P d v leftId rightId
  -- every check that fails makes the split an error
  cases hleaf : P.isLeaf with
  | false => rw [hnot hleaf] at h; cases h
  | true =>
    cases hr : P.region.range? d with
    | none => rw [hnodim hleaf hr] at h; cases h
    | some r =>
      by_cases ht : r.min.keyType = v.keyType
      · cases hin : r.strictlyContains v with
        | false => rw [hout r hleaf hr ht hin] at h; cases h
        | true =>
          obtain ⟨res', hres', hsplit, hl, hr', hcut, -⟩ := hok r hleaf hr ht hin
          rw [hres'] at h
          cases h
          exact ⟨rfl, r, hsplit, hl, hr', hcut⟩
      · rw [htype r hleaf hr ht] at h; cases h

/-! ## The invariant -/

/-- Partitions in which the walk finds every key's leaf: ids are unique and one partition is the
root; every child a partition lists is stored and names it as its parent; an internal partition
that holds a key with a value has a child that holds it; and a key with a value lies in one leaf
when the root's region holds it, and in none otherwise. -/
structure DescentTree (ps : List Partition) : Prop where
  ids_nodup : (ps.map (·.id)).Nodup
  root : ∃ r ∈ ps, r.parentId = none ∧ ∀ q ∈ ps, q.parentId = none → q.id = r.id
  links : ∀ p ∈ ps, ∀ c ∈ p.childIds, ∃ q ∈ ps, q.id = c ∧ q.parentId = some p.id
  cover : ∀ k : Key, k.values ≠ [] → ∀ p ∈ ps, p.isLeaf = false → p.region.contains k = true →
    ∃ c ∈ ps, c.id ∈ p.childIds ∧ c.region.contains k = true
  leaves : ∀ k : Key, k.values ≠ [] → ∀ r ∈ ps, r.parentId = none →
    leavesHolding ps k = if r.region.contains k = true then 1 else 0

namespace DescentTree

theorem perm {ps ps' : List Partition} (h : DescentTree ps) (hp : ps.Perm ps') :
    DescentTree ps' := by
  have hmem : ∀ q, q ∈ ps' ↔ q ∈ ps := fun q => hp.mem_iff.symm
  refine ⟨(hp.map _).nodup_iff.1 h.ids_nodup, ?_, ?_, ?_, ?_⟩
  · obtain ⟨r, hr, hroot, huniq⟩ := h.root
    exact ⟨r, (hmem r).2 hr, hroot, fun q hq => huniq q ((hmem q).1 hq)⟩
  · intro p hp' c hc
    obtain ⟨q, hq, hqc⟩ := h.links p ((hmem p).1 hp') c hc
    exact ⟨q, (hmem q).2 hq, hqc⟩
  · intro k hk p hp' hleaf hpk
    obtain ⟨c, hc, hcp⟩ := h.cover k hk p ((hmem p).1 hp') hleaf hpk
    exact ⟨c, (hmem c).2 hc, hcp⟩
  · intro k hk r hr hroot
    rw [leavesHolding, ← hp.countP_eq]
    exact h.leaves k hk r ((hmem r).1 hr) hroot

/-- The root alone, a leaf that lists no children, is such a tree. -/
theorem single {r : Partition} (hroot : r.parentId = none) (hleaf : r.isLeaf = true)
    (hchildren : r.childIds = []) : DescentTree [r] := by
  refine ⟨by simp, ⟨r, List.mem_singleton_self r, hroot, fun q hq _ => by
    rw [List.mem_singleton.1 hq]⟩, fun p hp c hc => ?_, fun k _ p hp hp' => ?_,
    fun k _ r' hr' _ => ?_⟩
  · rw [List.mem_singleton.1 hp, hchildren] at hc
    cases hc
  · rw [List.mem_singleton.1 hp, hleaf] at hp'
    cases hp'
  · rw [List.mem_singleton.1 hr']
    simp [leavesHolding, hleaf]

/-- A leaf split into two children with new ids: the leaf takes its split form in place, and
the children are added. The children cut the leaf's region for every key, so the count of
leaves that hold a key does not change. -/
theorem split_leaf {P : Partition} {rest : List Partition} {res : SplitResult} {d : Nat}
    {rng : Range} {v : KeyValue} (h : DescentTree (P :: rest)) (hleaf : P.isLeaf = true)
    (hsplit : res.IsSplitOf P d rng v) (hcut : P.region.CutInto res.left.region res.right.region)
    (hfresh : ∀ q ∈ P :: rest, q.id ≠ res.left.id ∧ q.id ≠ res.right.id)
    (hne : res.left.id ≠ res.right.id) :
    DescentTree (res.parent :: res.left :: res.right :: rest) := by
  obtain ⟨hleaf₁, -, -⟩ := hsplit.left_leaf
  obtain ⟨hleaf₂, -, -⟩ := hsplit.right_leaf
  have hs : LeafSplit P res.parent res.left res.right :=
    { id := by rw [hsplit.parent], region := by rw [hsplit.parent]
      parentId := by rw [hsplit.parent], not_leaf := by rw [hsplit.parent]
      children := fun c hc => by
        rw [hsplit.parent] at hc
        exact List.mem_pair.1 hc
      child₁ := hsplit.left_leaf, child₂ := hsplit.right_leaf, ids_ne := hne }
  refine ⟨hs.ids_nodup h.ids_nodup hfresh, hs.root h.root, hs.links h.links, ?cover,
    fun k hk => hs.leaves hleaf (hcut.count k) (h.leaves k hk)⟩
  intro k hk p hp hpleaf hpk
  rcases LeafSplit.mem_iff.1 hp with rfl | rfl | rfl | hp
  · -- the leaf's region is cut by its children's, which the split form lists
    rw [hs.region] at hpk
    rw [hsplit.parent]
    rcases ((hcut k).1.1 hpk) with h₁ | h₂
    · exact ⟨res.left, by simp, by simp, h₁⟩
    · exact ⟨res.right, by simp, by simp, h₂⟩
  · rw [hleaf₁] at hpleaf; cases hpleaf
  · rw [hleaf₂] at hpleaf; cases hpleaf
  · obtain ⟨c, hc, hcid, hck⟩ := h.cover k hk p (List.mem_cons_of_mem _ hp) hpleaf hpk
    obtain ⟨c', hc', hid', hreg', -⟩ := hs.lift hc
    exact ⟨c', hc', hid' ▸ hcid, hreg' ▸ hck⟩

/-- The walk in such a tree: the list has a tree rooted at its root, and for a key with a value
that the root's region holds, the walk ends at the one leaf that holds the key. -/
theorem leafForKey_eq {ps : List Partition} (h : DescentTree ps) :
    ∃ r ∈ ps, r.parentId = none ∧ PartitionTree.ofPartitions ps = .ok ⟨r.id, ps⟩ ∧
      (⟨r.id, ps⟩ : PartitionTree).find? r.id = some r ∧
      ∀ k : Key, k.values ≠ [] → r.region.contains k = true →
        ∃ p, (⟨r.id, ps⟩ : PartitionTree).leafForKey k = some (.ok p) ∧
          ps.filter (fun q => q.isLeaf && q.region.contains k) = [p] := by
  obtain ⟨r, hr, hroot, huniq⟩ := h.root
  set t : PartitionTree := ⟨r.id, ps⟩
  have hfind : t.find? t.rootId = some r := find?_id_of_mem h.ids_nodup hr
  refine ⟨r, hr, hroot, PartitionTree.ofPartitions_eq_ok h.ids_nodup hr hroot huniq, hfind,
    fun k hk hrk => ?_⟩
  -- the walk ends, since every listed child names its lister
  obtain ⟨x, hx⟩ := Option.isSome_iff_exists.1
    (PartitionTree.leafForKey_isSome (k := k) h.ids_nodup hfind hroot fun p hp _ => h.links p hp)
  have hstored : ∀ p ∈ t.partitions, p.isLeaf = false → ∀ c ∈ p.childIds, ∃ q, t.find? c = some q :=
    fun p hp _ c hc => by
      obtain ⟨q, hq, rfl, -⟩ := h.links p hp c hc
      exact ⟨q, PartitionTree.find?_of_mem (t := t) h.ids_nodup hq⟩
  -- and it ends at a leaf that holds the key, which is the only one
  have hwalk : t.descend k (t.size + 1) r = some x := by rw [← hx, PartitionTree.leafForKey, hfind]
  obtain ⟨p, hp, rfl, hleaf, hpk⟩ :=
    PartitionTree.descend_eq_leaf h.ids_nodup hstored (h.cover k hk) _ r x hr hrk hwalk
  have hcount : leavesHolding ps k = 1 := by rw [h.leaves k hk r hr hroot, if_pos hrk]
  exact ⟨p, hx, filter_leaves_eq_singleton hcount hp hleaf hpk⟩

end DescentTree

end Partition

/-! ## The tree of split points -/

/-- The tree of a finished build is such a tree, when `name` gives distinct ids: an internal
node's children cover its range on the first dimension, where every key with a value has one. -/
theorem SplitNode.Built.descentTree {s : Schema} {name : Nat → String}
    (hname : Function.Injective name) {ls B : List SplitNode} {top : SplitNode}
    (h : SplitNode.Built s.firstField.keyType.minValue ls B [top]) (hls : SplitNode.Chain ls)
    (hlo : ls.head?.map SplitNode.lower = some s.firstField.keyType.minValue)
    (hnone : ∀ y ∈ ls, y.children = none) :
    Partition.DescentTree (B.map (SplitNode.toPartition s name B)) := by
  set T := SplitNode.toPartition s name B with hT
  have hwf := h.treeWF hname hls hlo hnone
  refine ⟨hwf.ids_nodup, hwf.root, hwf.children, fun k hk p hp hleaf hpk => ?_,
    fun k hk r hr hroot => ?_⟩
  · obtain ⟨y, hy, rfl⟩ := List.mem_map.1 hp
    have hsome : y.children.isSome = true := by
      rw [hT, SplitNode.toPartition_isLeaf] at hleaf
      cases hc : y.children <;> simp_all
    obtain ⟨a, ha, b, hb, hch, hlow, hup, hab, hao, hbf⟩ := h.joins y hy hsome
    have hcover : ∀ v, (y.range s.firstField.name).contains v = true →
        (a.range s.firstField.name).contains v = true ∨
          (b.range s.firstField.name).contains v = true :=
      fun v hv => (@Range.contains_split (y.range s.firstField.name) (a.range s.firstField.name)
        (b.range s.firstField.name) hlow.symm hab hup.symm (hao _ hab) hbf v).1.1 hv
    rw [hT, SplitNode.toPartition_region] at hpk
    rcases Region.contains_withRange_zero_cover (SplitNode.zero_lt_length_full s) hcover hk hpk
      with h₁ | h₂
    · exact ⟨T a, List.mem_map_of_mem ha, by simp [hT, SplitNode.toPartition_childIds, hch],
        by rwa [hT, SplitNode.toPartition_region]⟩
    · exact ⟨T b, List.mem_map_of_mem hb, by simp [hT, SplitNode.toPartition_childIds, hch],
        by rwa [hT, SplitNode.toPartition_region]⟩
  · -- a key with a value has one at dimension zero, where the leaves cut the type's range
    obtain ⟨x, hx, rfl⟩ := List.mem_map.1 hr
    obtain ⟨v, vs, hvs⟩ := List.exists_cons_of_ne_nil hk
    have hv : k.get? 0 = some v := by simp [Key.get?, hvs]
    rw [hT, SplitNode.toPartition_parentId, Option.map_eq_none_iff, h.parentOf_eq_none hx]
      at hroot
    subst hroot
    rw [hT, h.leavesHolding_eq hls hlo hnone hv, h.region_top name]

namespace Partition

/-- The partitions for split points form such a tree, and their root covers the schema's
region. -/
theorem descentTree_of_fromSplitPoints {s : Schema} {points : List KeyValue} {idPrefix : String}
    {ps : List Partition} (h : fromSplitPoints s points idPrefix = .ok ps) :
    DescentTree ps ∧ ∀ r ∈ ps, r.parentId = none → r.region = Region.full s := by
  obtain ⟨htypes, hinc, rfl⟩ := fromSplitPoints_eq_ok h
  have hname : Function.Injective fun i : Nat => idPrefix ++ toString i := fun a b hab =>
    Text.toString_nat_injective ((String.append_right_inj idPrefix).1 hab)
  -- every point has the first field's type, so the first is at least that type's minimum
  have hlo : ∀ p ∈ points.head?, s.firstField.keyType.minValue ≤ p := by
    intro p hp
    rw [← htypes p (List.mem_of_mem_head? hp)]
    exact KeyValue.minValue_le p
  obtain ⟨rest, hcons⟩ := SplitNode.leaves_eq_cons 0 s.firstField.keyType.minValue points
  obtain ⟨top, htop⟩ := SplitNode.built_tree hlo hinc
  refine ⟨htop.descentTree hname (SplitNode.chain_leaves 0 _ points hlo hinc)
    (by rw [hcons]; rfl) (SplitNode.children_leaves 0 _ points), fun r hr hroot => ?_⟩
  obtain ⟨-, hroots⟩ := htop.root_partition (SplitNode.lists_lt_tree _ points) s hname
  rw [(hroots r hr).1 hroot]
  exact htop.region_top _

/-! ## The lists a table reaches -/

/-- The lists of partitions a table of schema `s` can reach: it starts from the root alone or
from the tree of split points, and each step splits a leaf, giving its children ids that no
partition has; the new list holds the leaf's split form and the two children in place of the
leaf, in any order. -/
inductive Reachable (s : Schema) : List Partition → Prop
  | root (id : String) : Reachable s [Partition.root id s]
  | splitPoints {points : List KeyValue} {idPrefix : String} {ps : List Partition} :
      fromSplitPoints s points idPrefix = .ok ps → Reachable s ps
  | split {ps ps' : List Partition} {P : Partition} {d : Nat} {v : KeyValue}
      {leftId rightId : String} {res : SplitResult} :
      Reachable s ps → P ∈ ps → P.split d v leftId rightId = .ok res → leftId ≠ rightId →
      (∀ q ∈ ps, q.id ≠ leftId ∧ q.id ≠ rightId) →
      ps'.Perm (res.parent :: res.left :: res.right :: ps.erase P) → Reachable s ps'

namespace Reachable

variable {s : Schema} {ps : List Partition}

/-- Every list a table reaches is a tree in which the walk finds every key's leaf. -/
theorem descentTree (h : Reachable s ps) : DescentTree ps := by
  induction h with
  | root id => exact .single rfl rfl rfl
  | splitPoints hps => exact (descentTree_of_fromSplitPoints hps).1
  | @split ps ps' P d v leftId rightId res _ hP hsplit hne hfresh hperm ih =>
    obtain ⟨hleaf, r, hres, rfl, rfl, hcut⟩ := split_eq_ok_inv hsplit
    -- the leaf is moved to the front, and its split takes its place
    have hmove := List.perm_cons_erase hP
    exact (DescentTree.split_leaf (ih.perm hmove) hleaf hres hcut
      (fun q hq => hfresh q (hmove.symm.subset hq)) hne).perm hperm.symm

/-- The roots of every list a table reaches cover the schema's region: a split keeps the leaf's
region and parent, and gives its children a parent. -/
theorem root_region (h : Reachable s ps) :
    ∀ r ∈ ps, r.parentId = none → r.region = Region.full s := by
  induction h with
  | root id =>
    intro r hr _
    rw [List.mem_singleton.1 hr]
    rfl
  | splitPoints hps => exact (descentTree_of_fromSplitPoints hps).2
  | @split ps ps' P d v leftId rightId res _ hP hsplit _ _ hperm ih =>
    obtain ⟨-, r, hres, -, -, -⟩ := split_eq_ok_inv hsplit
    have hreg : res.parent.region = P.region := by rw [hres.parent]
    have hparent : res.parent.parentId = P.parentId := by rw [hres.parent]
    intro q hq hroot
    rcases List.mem_cons.1 (hperm.subset hq) with rfl | hq
    · rw [hreg]
      exact ih P hP (hparent ▸ hroot)
    rcases List.mem_cons.1 hq with rfl | hq
    · rw [hres.left_leaf.2.2] at hroot; cases hroot
    rcases List.mem_cons.1 hq with rfl | hq
    · rw [hres.right_leaf.2.2] at hroot; cases hroot
    · exact ih q (List.mem_of_mem_erase hq) hroot

/-- On every list of partitions that a table reaches, from the root alone or from split points
by splits of leaves with new ids, the list has a tree whose root covers the schema's region, and
for every key with a value that the root's region holds, the walk from the root ends at the one
leaf whose region holds the key: the leaf a search of the whole list finds. -/
theorem leafForKey_finds_leaf (h : Reachable s ps) :
    ∃ t root, PartitionTree.ofPartitions ps = .ok t ∧ t.find? t.rootId = some root ∧
      root.region = Region.full s ∧
      ∀ k : Key, k.values ≠ [] → root.region.contains k = true →
        ∃ p, t.leafForKey k = some (.ok p) ∧
          ps.filter (fun q => q.isLeaf && q.region.contains k) = [p] := by
  obtain ⟨r, hr, hroot, htree, hfind, hwalk⟩ := h.descentTree.leafForKey_eq
  exact ⟨_, r, htree, hfind, h.root_region r hr hroot, hwalk⟩

/-- The root of a long key split at zero into `L` and `R`: the list is reached, and the walk
finds every key's leaf in it. -/
theorem root_split_finds_leaf :
    ∃ res : SplitResult,
      (Partition.root "root" (.single "key" .long)).split 0 (.long 0) "L" "R" = .ok res ∧
      Reachable (.single "key" .long) [res.parent, res.left, res.right] ∧
      ∃ t root, PartitionTree.ofPartitions [res.parent, res.left, res.right] = .ok t ∧
        t.find? t.rootId = some root ∧ root.region = Region.full (.single "key" .long) ∧
        ∀ k : Key, k.values ≠ [] → root.region.contains k = true →
          ∃ p, t.leafForKey k = some (.ok p) ∧
            [res.parent, res.left, res.right].filter
              (fun q => q.isLeaf && q.region.contains k) = [p] := by
  obtain ⟨res, hsplit, -⟩ := split_eq_ok (P := Partition.root "root" (.single "key" .long))
    (d := 0) (v := .long 0) "L" "R" rfl rfl (by decide) (by decide)
  have hreach : Reachable (.single "key" .long) [res.parent, res.left, res.right] :=
    .split (.root "root") (List.mem_singleton_self _) hsplit (by decide) (by decide)
      (by rw [List.erase_cons_head])
  exact ⟨res, hsplit, hreach, leafForKey_finds_leaf hreach⟩

end Reachable

end Partition

end TableState
