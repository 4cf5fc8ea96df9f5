import TableState.Proofs.Partition.SplitPoints

/-!
# The partitions of split points, position by position

`Partition.fromSplitPoints` refuses the first point whose type is not the first field's, then
points that do not strictly increase; each point below the next is each point below every later
one (`Partition.strictlyIncreasing_iff`). Otherwise it lists the partitions of its tree in
position order, and `Partition.BalancedTree` says what stands at each position: the leaves
first, in key order, then the internal partitions level by level (`Partition.Levels`), each after
its two children, and the root last (`Partition.fromSplitPoints_spec`).

Each round of the build pairs one level from the left (`SplitNode.pairsUp_pairLevel`), so the
internal nodes are the levels above the leaves (`SplitNode.levels_upperNodes`). Three more facts
about the build give the order of the list. A level of `m + 1` nodes has `m` internal
nodes above it (`SplitNode.length_upperNodes`), so the tree over `n` points has `2 n + 1` nodes.
Every node lists only nodes that come before it (`SplitNode.lists_lt_tree`), so the root, which
no node lists, is the last (`SplitNode.Built.getLast?_eq_top`). The nodes past the leaves are
internal (`SplitNode.Built.children_isSome`).

The checks on the points never compare the first point with its type's minimum. When the two
are equal, the first leaf's range is empty (`SplitNode.nonempty_leafRange`,
`Partition.split_at_minimum_first_leaf_empty`). The rest still holds: the empty range holds no
value, so a key with a value lies in one leaf.
-/

set_option autoImplicit false

namespace TableState

namespace Partition

/-- `parents` pair the adjacent partitions of `level` from the left, each listing the two as its
children, and `next`, the level above, holds the parents and then the partition left over at the
end of an odd level. -/
inductive PairsUp : List Partition → List Partition → List Partition → Prop
  | nil : PairsUp [] [] []
  | single (a : Partition) : PairsUp [a] [] [a]
  | pair {a b p : Partition} {level parents next : List Partition} :
      p.childIds = [a.id, b.id] → PairsUp level parents next →
      PairsUp (a :: b :: level) (p :: parents) (p :: next)

/-- The partitions made above a level, level by level: the parents that pair the partitions of
a level of two or more, then those made above the level they form, until one partition is
left. -/
inductive Levels : List Partition → List Partition → Prop
  | top (p : Partition) : Levels [p] []
  | pair {a b : Partition} {level parents next rest : List Partition} :
      PairsUp (a :: b :: level) parents next → Levels next rest →
      Levels (a :: b :: level) (parents ++ rest)

end Partition

namespace SplitNode

/-! ## The length of the tree and its leaves -/

theorem getElem?_leaves (i : Nat) (lo : KeyValue) (ps : List KeyValue) (j : Nat) :
    (leaves i lo ps)[j]? = ((lo :: ps)[j]?).map fun b => ⟨i + j, b, ps[j]?, none⟩ := by
  induction ps generalizing i lo j with
  | nil => cases j <;> simp [leaves]
  | cons p ps ih =>
    cases j with
    | zero => simp [leaves]
    | succ j =>
      rw [leaves, List.getElem?_cons_succ, ih, List.getElem?_cons_succ, List.getElem?_cons_succ]
      simp only [Nat.add_right_comm i 1 j, Nat.add_assoc]

/-- Above a level of `m + 1` nodes stand `m` internal nodes. -/
theorem length_upperNodes :
    ∀ (fuel next : Nat) (L : List SplitNode), L ≠ [] → L.length ≤ fuel + 1 →
      (upperNodes fuel next L).length + 1 = L.length
  | 0, _, L, hne, hlen => by
    match L, hne, hlen with
    | [_], _, _ => rfl
  | fuel + 1, next, L, hne, hlen => by
    match L, hne, hlen with
    | [_], _, _ => rfl
    | a :: b :: rest, _, hlen =>
      -- the next level has the new parents and the node left over
      have hP := length_pairLevel next (a :: b :: rest)
      have hL' := congrArg List.length (pairLevel_fst next (a :: b :: rest))
      rw [List.length_append] at hL'
      have hpos : 0 < (pairLevel next (a :: b :: rest)).2.length := by
        rw [pairLevel_cons_cons]
        simp
      have ih := length_upperNodes fuel (next + (pairLevel next (a :: b :: rest)).2.length)
        (pairLevel next (a :: b :: rest)).1 (List.ne_nil_of_length_pos (by omega))
        (by simp only [List.length_cons] at hlen hP; omega)
      simp only [upperNodes, List.length_append]
      simp only [List.length_cons] at hP ⊢
      omega

/-- The tree over `n` points has `n + 1` leaves and `n` internal nodes. -/
theorem length_tree (lo : KeyValue) (points : List KeyValue) :
    (tree lo points).length = 2 * points.length + 1 := by
  have hne : leaves 0 lo points ≠ [] := by
    obtain ⟨rest, h⟩ := leaves_eq_cons 0 lo points
    simp [h]
  have hup := length_upperNodes (leaves 0 lo points).length (leaves 0 lo points).length _ hne
    (Nat.le_succ _)
  rw [length_leaves] at hup
  rw [tree, List.length_append, length_leaves]
  omega

/-! ## The order of the internal nodes -/

section Levels

variable (s : Schema) (name : Nat → String) (B : List SplitNode)

/-- The parents of a level pair its nodes, as partitions made against any nodes. -/
theorem pairsUp_pairLevel : ∀ (next : Nat) (L : List SplitNode),
    Partition.PairsUp (L.map (toPartition s name B))
      ((pairLevel next L).2.map (toPartition s name B))
      ((pairLevel next L).1.map (toPartition s name B))
  | next, a :: b :: rest => by
    rw [pairLevel_cons_cons]
    exact .pair (by simp [toPartition_childIds]) (pairsUp_pairLevel (next + 1) rest)
  | _, [_] => .single _
  | _, [] => .nil

/-- The internal nodes above a level are, as partitions, the levels above its partitions. The
induction follows the rounds of the build, each pairing one level. -/
theorem levels_upperNodes :
    ∀ (fuel next : Nat) (L : List SplitNode), L ≠ [] → L.length ≤ fuel + 1 →
      Partition.Levels (L.map (toPartition s name B))
        ((upperNodes fuel next L).map (toPartition s name B))
  | 0, _, L, hne, hlen => by
    match L, hne, hlen with
    | [_], _, _ => exact .top _
  | fuel + 1, next, L, hne, hlen => by
    match L, hne, hlen with
    | [_], _, _ => exact .top _
    | a :: b :: rest, _, hlen =>
      -- the next level has the new parents and the node left over, so it is shorter
      have hP := length_pairLevel next (a :: b :: rest)
      have hL' := congrArg List.length (pairLevel_fst next (a :: b :: rest))
      rw [List.length_append] at hL'
      have hpos : 0 < (pairLevel next (a :: b :: rest)).2.length := by
        rw [pairLevel_cons_cons]
        simp
      have ih := levels_upperNodes fuel (next + (pairLevel next (a :: b :: rest)).2.length)
        (pairLevel next (a :: b :: rest)).1 (List.ne_nil_of_length_pos (by omega))
        (by simp only [List.length_cons] at hlen hP; omega)
      simp only [upperNodes, List.map_append]
      exact .pair (pairsUp_pairLevel s name B next (a :: b :: rest)) ih

end Levels

/-- The first `n + 1` nodes of the tree over `n` points are its leaves. -/
theorem getElem?_tree_leaf {lo : KeyValue} {points : List KeyValue} {j : Nat}
    (hj : j < points.length + 1) :
    (tree lo points)[j]? = ((lo :: points)[j]?).map fun b => ⟨j, b, points[j]?, none⟩ := by
  rw [tree, List.getElem?_append_left (by rw [length_leaves]; exact hj), getElem?_leaves,
    Nat.zero_add]

/-- The range of leaf `j` holds a value unless it is the first leaf and the first point is its
type's minimum. -/
theorem nonempty_leafRange {t : KeyType} {points : List KeyValue} (f : String)
    (htypes : ∀ p ∈ points, p.keyType = t) (hinc : points.Pairwise (· < ·)) {j : Nat}
    {lower : KeyValue} (hj : (t.minValue :: points)[j]? = some lower) :
    Range.Nonempty ⟨f, lower, points[j]?⟩ ↔ ¬(j = 0 ∧ points.head? = some t.minValue) := by
  cases j with
  | zero =>
    cases hj
    cases points with
    | nil => simp [Range.Nonempty]
    | cons p ps =>
      have hle : t.minValue ≤ p := by
        rw [← htypes p List.mem_cons_self]
        exact KeyValue.minValue_le p
      simp only [Range.Nonempty, List.getElem?_cons_zero, Option.some.injEq, forall_eq',
        List.head?_cons, true_and]
      -- the first point is above the minimum exactly when it is not the minimum
      constructor
      · intro hlt he
        rw [he] at hlt
        exact KeyValue.lt_irrefl _ hlt
      · intro hne
        exact KeyValue.lt_of_le_of_ne hle (Ne.symm hne)
  | succ i =>
    simp only [Range.Nonempty, Nat.succ_ne_zero, false_and, not_false_eq_true, iff_true]
    intro m hm
    rw [List.getElem?_cons_succ] at hj
    obtain ⟨hi, rfl⟩ := List.getElem?_eq_some_iff.1 hj
    obtain ⟨hi', rfl⟩ := List.getElem?_eq_some_iff.1 hm
    exact List.pairwise_iff_getElem.1 hinc i (i + 1) hi hi' (Nat.lt_succ_self i)

/-! ## Children come first -/

/-- A new parent lists only nodes of the level, which come before it. -/
theorem lists_lt_pairLevel (next : Nat) :
    ∀ L : List SplitNode, (∀ x ∈ L, x.index < next) →
      ∀ y ∈ (pairLevel next L).2, ∀ i, y.lists i = true → i < y.index
  | a :: b :: rest, hL, y, hy, i, hi => by
    rw [pairLevel_cons_cons, List.mem_cons] at hy
    rcases hy with rfl | hy
    · have ha := hL a (by simp)
      have hb := hL b (by simp)
      simp only [lists, Bool.or_eq_true, beq_iff_eq] at hi
      show i < next
      omega
    · have hrest : ∀ x ∈ rest, x.index < next + 1 := fun x hx =>
        Nat.lt_succ_of_lt (hL x (.tail _ (.tail _ hx)))
      exact lists_lt_pairLevel (next + 1) rest hrest y hy i hi
  | [_], _, y, hy, _, _ => by cases hy
  | [], _, y, hy, _, _ => by cases hy

/-- The nodes of the next level come before the first position after the new parents. -/
theorem index_lt_pairLevel_fst {next : Nat} {L : List SplitNode}
    (hL : ∀ x ∈ L, x.index < next) :
    ∀ x ∈ (pairLevel next L).1, x.index < next + (pairLevel next L).2.length := by
  intro x hx
  rw [pairLevel_fst, List.mem_append] at hx
  rcases hx with hx | hx
  · have hmem : x.index ∈ (pairLevel next L).2.map index := List.mem_map_of_mem hx
    rw [pairLevel_indices, List.mem_range'_1] at hmem
    exact hmem.2
  · exact Nat.lt_add_right _ (hL x (leftover_subset L x hx))

/-- Every internal node lists only nodes that come before it. -/
theorem lists_lt_upperNodes :
    ∀ (fuel next : Nat) (L : List SplitNode), (∀ x ∈ L, x.index < next) →
      ∀ y ∈ upperNodes fuel next L, ∀ i, y.lists i = true → i < y.index
  | 0, _, _, _, y, hy, _, _ => by cases hy
  | fuel + 1, next, L, hL, y, hy, i, hi => by
    match L, hL, hy with
    | a :: b :: rest, hL, hy =>
      rw [upperNodes, List.mem_append] at hy
      rcases hy with hy | hy
      · exact lists_lt_pairLevel next _ hL y hy i hi
      · exact lists_lt_upperNodes fuel _ _ (index_lt_pairLevel_fst hL) y hy i hi

/-- Every node of the tree lists only nodes that come before it. -/
theorem lists_lt_tree (lo : KeyValue) (points : List KeyValue) :
    ∀ y ∈ tree lo points, ∀ i, y.lists i = true → i < y.index := by
  intro y hy i hi
  rw [tree, List.mem_append] at hy
  rcases hy with hy | hy
  · simp [lists, children_leaves 0 lo points y hy] at hi
  · refine lists_lt_upperNodes _ _ _ (fun x hx => ?_) y hy i hi
    obtain ⟨j, hj, rfl⟩ := List.getElem_of_mem hx
    rw [getElem_index_leaves]
    omega

theorem parentOf_eq_none_iff {nodes : List SplitNode} {i : Nat} :
    parentOf nodes i = none ↔ ∀ y ∈ nodes, y.lists i = false := by
  rw [parentOf_eq, Option.map_eq_none_iff, List.find?_eq_none]
  simp

/-- The node that `parentOf` names lists the node. -/
theorem exists_of_parentOf_eq_some {nodes : List SplitNode} {i j : Nat}
    (h : parentOf nodes i = some j) : ∃ y ∈ nodes, y.index = j ∧ y.lists i = true := by
  rw [parentOf_eq, Option.map_eq_some_iff] at h
  obtain ⟨y, hy, rfl⟩ := h
  have hl := List.find?_some hy
  exact ⟨y, List.mem_of_find?_eq_some hy, rfl, hl⟩

/-! ## The partitions of a finished build -/

@[simp] theorem toPartition_splitDimension (s : Schema) (name : Nat → String)
    (nodes : List SplitNode) (n : SplitNode) :
    (toPartition s name nodes n).splitDimension = n.children.map fun _ => 0 := by
  unfold toPartition; split <;> simp_all

/-- A node that lists a position names it among the children of its partition. -/
theorem name_mem_childIds (s : Schema) (name : Nat → String) (nodes : List SplitNode)
    {y : SplitNode} {i : Nat} (hl : y.lists i = true) :
    name i ∈ (toPartition s name nodes y).childIds := by
  rw [toPartition_childIds]
  rcases hch : y.children with _ | ⟨l, r⟩
  · simp [SplitNode.lists, hch] at hl
  · simp only [SplitNode.lists, hch, Bool.or_eq_true, beq_iff_eq] at hl
    rcases hl with rfl | rfl <;> simp

/-- The partitions of nodes that form a tree pass the checks before they are stored, when no id
that `name` gives holds NUL: each partition's parent lists it. -/
theorem validateList_map_toPartition {n : Nat} {s : Schema} {name : Nat → String}
    {B : List SplitNode} (hwf : PartitionTreeWF n (B.map (toPartition s name B)))
    (hnul : ∀ i, '\x00' ∉ (name i).toList) :
    Partition.validateList (B.map (toPartition s name B)) = .ok () := by
  refine Partition.validateList_eq_ok hwf (fun p hp => ?_) (fun p hp pid hpid => ?_)
  · obtain ⟨x, -, rfl⟩ := List.mem_map.1 hp
    rw [toPartition_id]
    exact hnul _
  · obtain ⟨x, -, rfl⟩ := List.mem_map.1 hp
    rw [toPartition_parentId, Option.map_eq_some_iff] at hpid
    obtain ⟨j, hj, rfl⟩ := hpid
    obtain ⟨y, hy, rfl, hl⟩ := exists_of_parentOf_eq_some hj
    exact ⟨toPartition s name B y, List.mem_map_of_mem hy, toPartition_id .., by
      rw [toPartition_id]
      exact name_mem_childIds s name B hl⟩

section Finished

variable {lo : KeyValue} {ls B L : List SplitNode} {top : SplitNode}

/-- A node of a build sits at its own position. -/
theorem Built.getElem?_index (h : Built lo ls B L) {x : SplitNode} (hx : x ∈ B) :
    B[x.index]? = some x := by
  obtain ⟨j, hj, rfl⟩ := List.getElem_of_mem hx
  rw [h.positions j hj, List.getElem?_eq_getElem hj]

/-- The partition at position `j` has the id that `name` gives `j`. -/
theorem Built.id_getElem? (h : Built lo ls B L) (s : Schema) (name : Nat → String) {j : Nat}
    {p : Partition} (hp : (B.map (toPartition s name B))[j]? = some p) : p.id = name j := by
  rw [List.getElem?_map, Option.map_eq_some_iff] at hp
  obtain ⟨x, hx, rfl⟩ := hp
  obtain ⟨hj, rfl⟩ := List.getElem?_eq_some_iff.1 hx
  rw [toPartition_id, h.positions j hj]

/-- Nodes past the leaves of a build are internal. -/
theorem Built.children_isSome (h : Built lo ls B L) {j : Nat} {y : SplitNode}
    (hj : ls.length ≤ j) (hy : B[j]? = some y) : y.children.isSome = true := by
  obtain ⟨I, rfl, hint⟩ := h.internal
  rw [List.getElem?_append_right hj] at hy
  exact hint y (List.mem_of_getElem? hy)

/-- When every node lists only nodes before it, the root of a finished build is its last node. -/
theorem Built.getLast?_eq_top (h : Built lo ls B [top])
    (hlt : ∀ y ∈ B, ∀ i, y.lists i = true → i < y.index) : B.getLast? = some top := by
  have hne : B ≠ [] := List.ne_nil_of_mem (h.level top (List.mem_singleton_self top))
  have hlast : B.getLast hne ∈ B := List.getLast_mem hne
  have hidx : (B.getLast hne).index = B.length - 1 := by
    rw [List.getLast_eq_getElem, h.positions]
  -- a node listing the last one would come after it
  have hnone : parentOf B (B.getLast hne).index = none := by
    refine parentOf_eq_none_iff.2 fun y hy => ?_
    by_contra hl
    have h₁ := hlt y hy _ (Bool.not_eq_false _ ▸ hl)
    have h₂ := h.index_lt hy
    omega
  rw [List.getLast?_eq_some_getLast hne, (h.parentOf_eq_none hlast).1 hnone]

/-- Each internal node of a finished build, when nodes list only earlier nodes, becomes a
partition split on dimension zero with two children at earlier positions that name it as their
parent; its range on dimension zero is cut where the first child's ends and the second's
starts. -/
theorem Built.internal_partition (h : Built lo ls B [top])
    (hlt : ∀ y ∈ B, ∀ i, y.lists i = true → i < y.index) (s : Schema) (name : Nat → String)
    {y : SplitNode} (hy : y ∈ B) (hsome : y.children.isSome = true) :
    (toPartition s name B y).isLeaf = false ∧ (toPartition s name B y).splitDimension = some 0 ∧
      ∃ a ∈ B, ∃ b ∈ B, a.index < y.index ∧ b.index < y.index ∧
        (toPartition s name B y).childIds =
          [(toPartition s name B a).id, (toPartition s name B b).id] ∧
        (toPartition s name B a).parentId = some (toPartition s name B y).id ∧
        (toPartition s name B b).parentId = some (toPartition s name B y).id ∧
        ∃ lower mid upper,
          (toPartition s name B y).region =
            (Region.full s).withRange 0 ⟨s.firstField.name, lower, upper⟩ ∧
          (toPartition s name B a).region =
            (Region.full s).withRange 0 ⟨s.firstField.name, lower, some mid⟩ ∧
          (toPartition s name B b).region =
            (Region.full s).withRange 0 ⟨s.firstField.name, mid, upper⟩ := by
  obtain ⟨a, ha, b, hb, hch, hlow, hup, hab, -, -⟩ := h.joins y hy hsome
  have hla : y.lists a.index = true := by simp [SplitNode.lists, hch]
  have hlb : y.lists b.index = true := by simp [SplitNode.lists, hch]
  -- each child names the one node that lists it
  have hparent : ∀ x ∈ B, y.lists x.index = true →
      (toPartition s name B x).parentId = some (toPartition s name B y).id := by
    intro x _ hl
    rw [toPartition_parentId, h.parentOf_of_lists hy hl, toPartition_id]
    rfl
  refine ⟨by simp [hch], by simp [hch], a, ha, b, hb, hlt y hy _ hla, hlt y hy _ hlb,
    by simp [toPartition_childIds, hch], hparent a ha hla, hparent b hb hlb,
    y.lower, b.lower, y.upper, ?_, ?_, ?_⟩
  · rw [toPartition_region]
    rfl
  · rw [toPartition_region, range, ← hlow, hab]
  · rw [toPartition_region, range, hup]

/-- The root of a finished build, when nodes list only earlier nodes, gives the last partition,
and the one partition without a parent when `name` gives distinct ids. -/
theorem Built.root_partition (h : Built lo ls B [top])
    (hlt : ∀ y ∈ B, ∀ i, y.lists i = true → i < y.index) (s : Schema) {name : Nat → String}
    (hname : Function.Injective name) :
    (B.map (toPartition s name B)).getLast? = some (toPartition s name B top) ∧
      ∀ q ∈ B.map (toPartition s name B), q.parentId = none ↔ q = toPartition s name B top := by
  refine ⟨by rw [List.getLast?_map, h.getLast?_eq_top hlt]; rfl, fun q hq => ?_⟩
  obtain ⟨x, hx, rfl⟩ := List.mem_map.1 hq
  rw [toPartition_parentId, Option.map_eq_none_iff, h.parentOf_eq_none hx]
  constructor
  · rintro rfl
    rfl
  · -- partitions with one id come from one position
    intro he
    have hid := congrArg Partition.id he
    rw [toPartition_id, toPartition_id] at hid
    exact h.eq_of_index_eq hx (h.level top (List.mem_singleton_self top)) (hname hid)

end Finished

end SplitNode

/-- Ids made of a prefix without NUL and a position hold no NUL. -/
theorem nul_not_mem_append_toString {idPrefix : String} (h : '\x00' ∉ idPrefix.toList)
    (i : Nat) : '\x00' ∉ (idPrefix ++ toString i).toList := by
  rw [String.toList_append, List.mem_append, not_or]
  refine ⟨h, fun hc => ?_⟩
  have hd := Text.digit_of_mem_toDigits (by simpa [Nat.toList_repr] using hc)
  exact absurd hd.1 (by decide)

namespace Partition

/-! ## The checks on the points -/

theorem checkPointTypes_eq_ok {t : KeyType} :
    ∀ {points : List KeyValue}, (∀ p ∈ points, p.keyType = t) → checkPointTypes t points = .ok ()
  | [], _ => rfl
  | p :: ps, h => by
    rw [checkPointTypes, if_pos (h p List.mem_cons_self)]
    exact checkPointTypes_eq_ok fun q hq => h q (List.mem_cons_of_mem _ hq)

/-- The check on the points' types fails at the first point of another type. -/
theorem checkPointTypes_eq_error {t : KeyType} {p : KeyValue} {post : List KeyValue}
    (hp : p.keyType ≠ t) :
    ∀ {pre : List KeyValue}, (∀ q ∈ pre, q.keyType = t) →
      checkPointTypes t (pre ++ p :: post) = .error (.keyTypeMismatch t p.keyType)
  | [], _ => by rw [List.nil_append, checkPointTypes, if_neg hp]
  | q :: pre, h => by
    rw [List.cons_append, checkPointTypes, if_pos (h q List.mem_cons_self)]
    exact checkPointTypes_eq_error hp fun x hx => h x (List.mem_cons_of_mem _ hx)

/-- Each point below the next is each point below every later one. -/
theorem strictlyIncreasing_iff :
    ∀ {l : List KeyValue}, strictlyIncreasing l = true ↔ l.Pairwise (· < ·)
  | [] => by simp [strictlyIncreasing]
  | [a] => by simp [strictlyIncreasing]
  | a :: b :: rest => by
    rw [strictlyIncreasing, Bool.and_eq_true, decide_eq_true_iff, strictlyIncreasing_iff]
    constructor
    · rintro ⟨hab, hrest⟩
      refine List.Pairwise.cons (fun x hx => ?_) hrest
      rcases List.mem_cons.1 hx with rfl | hx
      · exact hab
      · exact KeyValue.lt_trans hab (List.rel_of_pairwise_cons hrest hx)
    · intro h
      exact ⟨List.rel_of_pairwise_cons h List.mem_cons_self, h.of_cons⟩

section FromSplitPoints

variable {s : Schema} {points : List KeyValue} (idPrefix : String)

theorem fromSplitPoints_eq_keyTypeMismatch {pre post : List KeyValue} {p : KeyValue}
    (hpre : ∀ q ∈ pre, q.keyType = s.firstField.keyType)
    (hp : p.keyType ≠ s.firstField.keyType) :
    fromSplitPoints s (pre ++ p :: post) idPrefix =
      .error (.keyTypeMismatch s.firstField.keyType p.keyType) := by
  simp only [fromSplitPoints, checkPointTypes_eq_error hp hpre]
  rfl

theorem fromSplitPoints_eq_unsorted (htypes : ∀ p ∈ points, p.keyType = s.firstField.keyType)
    (hinc : ¬points.Pairwise (· < ·)) :
    fromSplitPoints s points idPrefix = .error .unsortedSplitPoints := by
  have hfalse : strictlyIncreasing points = false := by
    rw [← Bool.not_eq_true, strictlyIncreasing_iff]
    exact hinc
  simp only [fromSplitPoints, checkPointTypes_eq_ok htypes, hfalse]
  rfl

theorem fromSplitPoints_eq_tree (htypes : ∀ p ∈ points, p.keyType = s.firstField.keyType)
    (hinc : points.Pairwise (· < ·)) :
    fromSplitPoints s points idPrefix =
      .ok ((SplitNode.tree s.firstField.keyType.minValue points).map
        (SplitNode.toPartition s (fun i => idPrefix ++ toString i)
          (SplitNode.tree s.firstField.keyType.minValue points))) := by
  simp only [fromSplitPoints, checkPointTypes_eq_ok htypes, strictlyIncreasing_iff.2 hinc]
  rfl

end FromSplitPoints

/-! ## The balanced tree -/

/-- The partitions of the balanced tree over increasing split points `points` of the first
field's type, position by position. The first `points.length + 1` are leaves in key order: leaf
`j` takes the first dimension from the `j`-th of the type's minimum and the points up to the next
point, the last without end, and every other dimension whole; its range there holds a value
unless it is the first and the first point is the type's minimum. The internal partitions
follow level by level: the parents of adjacent leaves, paired from the left, then the parents of
the level they make with a leaf left over, and so on. Each comes after its two children and is
split on dimension zero where the first child's range ends and the second's starts. The last is the root, the one partition without a parent, over the
schema's whole region. The list passes the checks before it is stored, and a key with a value,
whose values have the schema's types, lies in exactly one leaf. -/
structure BalancedTree (s : Schema) (points : List KeyValue) (idPrefix : String)
    (ps : List Partition) : Prop where
  length : ps.length = 2 * points.length + 1
  ids : ∀ (j : Nat) (p : Partition), ps[j]? = some p → p.id = idPrefix ++ toString j
  ids_nodup : (ps.map (·.id)).Nodup
  leaf : ∀ (j : Nat) (lower : KeyValue),
    (s.firstField.keyType.minValue :: points)[j]? = some lower →
    ∃ p, ps[j]? = some p ∧ p.isLeaf = true ∧ p.childIds = [] ∧
      p.region = (Region.full s).withRange 0 ⟨s.firstField.name, lower, points[j]?⟩ ∧
      (Range.Nonempty ⟨s.firstField.name, lower, points[j]?⟩ ↔
        ¬(j = 0 ∧ points.head? = some s.firstField.keyType.minValue))
  internal : ∀ (j : Nat) (p : Partition), points.length < j → ps[j]? = some p →
    p.isLeaf = false ∧ p.splitDimension = some 0 ∧
      ∃ (i₁ : Nat) (c₁ : Partition) (i₂ : Nat) (c₂ : Partition), i₁ < j ∧ i₂ < j ∧
        ps[i₁]? = some c₁ ∧ ps[i₂]? = some c₂ ∧
        p.childIds = [c₁.id, c₂.id] ∧ c₁.parentId = some p.id ∧ c₂.parentId = some p.id ∧
        ∃ lower mid upper,
          p.region = (Region.full s).withRange 0 ⟨s.firstField.name, lower, upper⟩ ∧
          c₁.region = (Region.full s).withRange 0 ⟨s.firstField.name, lower, some mid⟩ ∧
          c₂.region = (Region.full s).withRange 0 ⟨s.firstField.name, mid, upper⟩
  levels : Levels (ps.take (points.length + 1)) (ps.drop (points.length + 1))
  root : ∃ r, ps.getLast? = some r ∧ r.region = Region.full s ∧
    ∀ q ∈ ps, q.parentId = none ↔ q = r
  valid : '\x00' ∉ idPrefix.toList → validateList ps = .ok ()
  one_leaf : ∀ k : Key, k.values ≠ [] →
    (∀ i v f, k.get? i = some v → s.rowKeys[i]? = some f → v.keyType = f.keyType) →
    leavesHolding ps k = 1

/-- The partitions of the tree over increasing points of the first field's type form the
balanced tree. -/
theorem balancedTree_tree {s : Schema} {points : List KeyValue} (idPrefix : String)
    (htypes : ∀ p ∈ points, p.keyType = s.firstField.keyType) (hinc : points.Pairwise (· < ·)) :
    BalancedTree s points idPrefix
      ((SplitNode.tree s.firstField.keyType.minValue points).map
        (SplitNode.toPartition s (fun i => idPrefix ++ toString i)
          (SplitNode.tree s.firstField.keyType.minValue points))) := by
  set lo := s.firstField.keyType.minValue with hlo_def
  set name : Nat → String := fun i => idPrefix ++ toString i with hname_def
  set B := SplitNode.tree lo points with hB
  set T := SplitNode.toPartition s name B with hT
  have hname : Function.Injective name := fun a b hab =>
    Text.toString_nat_injective ((String.append_right_inj idPrefix).1 hab)
  -- every point has the first field's type, so the first is at least that type's minimum
  have hlo : ∀ p ∈ points.head?, lo ≤ p := fun p hp => by
    rw [hlo_def, ← htypes p (List.mem_of_mem_head? hp)]
    exact KeyValue.minValue_le p
  have hinc' := strictlyIncreasing_iff.2 hinc
  obtain ⟨top, h⟩ := SplitNode.built_tree hlo hinc'
  have hls := SplitNode.chain_leaves 0 lo points hlo hinc'
  have hhead : (SplitNode.leaves 0 lo points).head?.map SplitNode.lower = some lo := by
    obtain ⟨rest, hcons⟩ := SplitNode.leaves_eq_cons 0 lo points
    rw [hcons]
    rfl
  have hnone := SplitNode.children_leaves 0 lo points
  have hwf := h.treeWF hname hls hhead hnone
  have hlt := SplitNode.lists_lt_tree lo points
  obtain ⟨hlast, hroot⟩ := h.root_partition hlt s hname
  refine ⟨?length, fun j p hp => h.id_getElem? s name hp, hwf.ids_nodup, ?leaf, ?internal,
    ?levels, ⟨T top, hlast, h.region_top name, hroot⟩,
    fun hnul => SplitNode.validateList_map_toPartition hwf (nul_not_mem_append_toString hnul),
    ?one_leaf⟩
  case length => rw [List.length_map, SplitNode.length_tree]
  case leaf =>
    intro j lower hj
    have hjlt : j < points.length + 1 := by
      simpa using (List.getElem?_eq_some_iff.1 hj).1
    refine ⟨T ⟨j, lower, points[j]?, none⟩, ?_, by simp [hT],
      by simp [hT, SplitNode.toPartition_childIds], by rw [hT, SplitNode.toPartition_region]; rfl,
      SplitNode.nonempty_leafRange _ htypes hinc hj⟩
    rw [List.getElem?_map, SplitNode.getElem?_tree_leaf hjlt, hj]
    rfl
  case internal =>
    intro j p hj hp
    rw [List.getElem?_map, Option.map_eq_some_iff] at hp
    obtain ⟨y, hy, rfl⟩ := hp
    obtain ⟨hjB, rfl⟩ := List.getElem?_eq_some_iff.1 hy
    have hyB : B[j] ∈ B := List.getElem_mem hjB
    have hyj : B[j].index = j := h.positions j hjB
    -- past the leaves every node is internal
    have hsome := h.children_isSome (by rw [SplitNode.length_leaves]; omega) hy
    obtain ⟨hleaf, hdim, a, ha, b, hb, hai, hbi, hch, hpa, hpb, hregions⟩ :=
      h.internal_partition hlt s name hyB hsome
    refine ⟨hleaf, hdim, a.index, T a, b.index, T b, hyj ▸ hai, hyj ▸ hbi, ?_, ?_, hch, hpa,
      hpb, hregions⟩
    · rw [List.getElem?_map, h.getElem?_index ha]
      rfl
    · rw [List.getElem?_map, h.getElem?_index hb]
      rfl
  case levels =>
    -- the leaves come first, then the internal nodes of the rounds above them
    have hlen : ((SplitNode.leaves 0 lo points).map T).length = points.length + 1 := by
      rw [List.length_map, SplitNode.length_leaves]
    have hne : SplitNode.leaves 0 lo points ≠ [] :=
      List.ne_nil_of_length_pos (by rw [SplitNode.length_leaves]; omega)
    rw [hB, SplitNode.tree, List.map_append, List.take_left' hlen, List.drop_left' hlen]
    exact SplitNode.levels_upperNodes s name B _ _ _ hne (Nat.le_succ _)
  case one_leaf =>
    intro k hk htyped
    obtain ⟨v, hv⟩ : ∃ v, k.get? 0 = some v := by
      obtain ⟨v, vs, hvs⟩ := List.exists_cons_of_ne_nil hk
      exact ⟨v, by simp [Key.get?, hvs]⟩
    rw [h.leavesHolding_eq hls hhead hnone hv, if_pos (Region.full_contains htyped)]

/-- Split points are refused with the first point whose type is not the first field's, then
when they do not strictly increase; otherwise the partitions for them form the balanced tree:
`2 n + 1` partitions with distinct ids, `n + 1` leaves in key order over consecutive ranges of
the first dimension, the internal partitions after them level by level, each split on dimension
zero into two children that cut its range, and last the one root over the schema's whole
region. The list
passes the checks before it is stored when the prefix of the ids holds no NUL, and every key
with a value, whose values have the schema's types, lies in exactly one leaf. Only the first
leaf's range can be empty: it is when the first point is the type's minimum, which the checks
let through. -/
theorem fromSplitPoints_spec (s : Schema) (points : List KeyValue) (idPrefix : String) :
    (∀ pre p post, points = pre ++ p :: post → (∀ q ∈ pre, q.keyType = s.firstField.keyType) →
        p.keyType ≠ s.firstField.keyType →
        fromSplitPoints s points idPrefix =
          .error (.keyTypeMismatch s.firstField.keyType p.keyType)) ∧
      ((∀ p ∈ points, p.keyType = s.firstField.keyType) → ¬points.Pairwise (· < ·) →
        fromSplitPoints s points idPrefix = .error .unsortedSplitPoints) ∧
      ((∀ p ∈ points, p.keyType = s.firstField.keyType) → points.Pairwise (· < ·) →
        ∃ ps, fromSplitPoints s points idPrefix = .ok ps ∧ BalancedTree s points idPrefix ps) := by
  refine ⟨fun pre p post hpts hpre hp => ?_, fromSplitPoints_eq_unsorted idPrefix,
    fun htypes hinc => ⟨_, fromSplitPoints_eq_tree idPrefix htypes hinc,
      balancedTree_tree idPrefix htypes hinc⟩⟩
  subst hpts
  exact fromSplitPoints_eq_keyTypeMismatch idPrefix hpre hp

/-- A single split point at the minimum of its type passes the checks, and the first leaf of the
tree then covers no value. -/
theorem split_at_minimum_first_leaf_empty :
    ∃ ps, fromSplitPoints (.single "key" .long) [.long Int64.minValue] "p" = .ok ps ∧
      BalancedTree (.single "key" .long) [.long Int64.minValue] "p" ps ∧
      ∃ p, ps[0]? = some p ∧ p.isLeaf = true ∧
        p.region = (Region.full (.single "key" .long)).withRange 0
          ⟨"key", .long Int64.minValue, some (.long Int64.minValue)⟩ ∧
        ¬Range.Nonempty ⟨"key", .long Int64.minValue, some (.long Int64.minValue)⟩ := by
  obtain ⟨-, -, hok⟩ := fromSplitPoints_spec (.single "key" .long) [.long Int64.minValue] "p"
  obtain ⟨ps, hps, hb⟩ := hok (by decide) (List.pairwise_singleton _ _)
  obtain ⟨p, hp, hleaf, -, hregion, hne⟩ := hb.leaf 0 _ rfl
  exact ⟨ps, hps, hb, p, hp, hleaf, hregion, fun h => hne.1 h ⟨rfl, rfl⟩⟩

end Partition

end TableState
