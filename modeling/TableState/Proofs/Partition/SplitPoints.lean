import TableState.Partition.FromSplitPoints
import TableState.Proofs.Partition.Tree
import TableState.Proofs.Text.Json

/-!
# The balanced tree of split points

`Partition.fromSplitPoints` builds its tree level by level: the leaves cut the first dimension
into consecutive ranges, and each level above pairs adjacent nodes of the level below. Two facts
carry the proof that the partitions form a tree (`fromSplitPoints_wf`):

* every level is a *chain* (`SplitNode.Chain`): consecutive ranges from the type's minimum to no
  end, each ending where the next starts, all but the first non-empty. Pairing adjacent nodes
  keeps a chain a chain (`chain_pairLevel`), and a key value lies in exactly one range of a chain
  when it is at least the chain's minimum (`countP_contains_chain`);
* every node but the root is the child of exactly one node (`Built.lists`): pairing makes the
  nodes it pairs children once each, and the node left over, if any, moves up to the next level.

The first carries the count of leaves that hold a key: a key with a value at dimension zero,
whatever its length, lies in one leaf when the schema's region holds it and in none otherwise
(`Built.leavesHolding_eq`).
-/

set_option autoImplicit false

namespace TableState

namespace SplitNode

/-- Whether a node has `i` as a child. -/
def lists (y : SplitNode) (i : Nat) : Bool :=
  match y.children with
  | some (l, r) => l == i || r == i
  | none => false

/-- The range of a node as a range of the first field `f`. -/
def range (f : String) (y : SplitNode) : Range :=
  ⟨f, y.lower, y.upper⟩

/-- A node whose range is ordered: its end, if any, is not below its start. -/
def Ordered (y : SplitNode) : Prop :=
  ∀ u, y.upper = some u → y.lower ≤ u

/-- A node whose range holds a value. -/
def Filled (y : SplitNode) : Prop :=
  ∀ u, y.upper = some u → y.lower < u

theorem Filled.ordered {y : SplitNode} (h : y.Filled) : y.Ordered :=
  fun u hu => KeyValue.le_of_lt (h u hu)

/-- Consecutive ranges to no end: each ends where the next starts, the first is ordered and the
others hold a value. -/
def Chain : List SplitNode → Prop
  | [] => False
  | [y] => y.upper = none
  | y :: z :: rest => y.upper = some z.lower ∧ y.Ordered ∧ z.Filled ∧ Chain (z :: rest)

/-- The nodes a level leaves unpaired: the last one, when there is an odd number. -/
def leftover : List SplitNode → List SplitNode
  | _ :: _ :: rest => leftover rest
  | [a] => [a]
  | [] => []

theorem pairLevel_cons_cons (next : Nat) (a b : SplitNode) (rest : List SplitNode) :
    pairLevel next (a :: b :: rest) =
      (⟨next, a.lower, b.upper, some (a.index, b.index)⟩ :: (pairLevel (next + 1) rest).1,
        ⟨next, a.lower, b.upper, some (a.index, b.index)⟩ :: (pairLevel (next + 1) rest).2) :=
  rfl

/-- The next level is the new parents followed by the node left over. -/
theorem pairLevel_fst (next : Nat) :
    ∀ L : List SplitNode, (pairLevel next L).1 = (pairLevel next L).2 ++ leftover L
  | a :: b :: rest => by
    rw [pairLevel_cons_cons, leftover, List.cons_append, pairLevel_fst (next + 1) rest]
  | [a] => rfl
  | [] => rfl

/-- The new parents take the positions from `next` on. -/
theorem pairLevel_indices (next : Nat) :
    ∀ L : List SplitNode,
      (pairLevel next L).2.map index = List.range' next (pairLevel next L).2.length
  | a :: b :: rest => by
    rw [pairLevel_cons_cons]
    simp only [List.map_cons, List.length_cons, List.range'_succ]
    rw [pairLevel_indices (next + 1) rest]
  | [a] => rfl
  | [] => rfl

theorem length_pairLevel (next : Nat) :
    ∀ L : List SplitNode, 2 * (pairLevel next L).2.length + (leftover L).length = L.length
  | a :: b :: rest => by
    have := length_pairLevel (next + 1) rest
    rw [pairLevel_cons_cons, leftover]
    simp only [List.length_cons]
    omega
  | [a] => rfl
  | [] => rfl

theorem leftover_subset : ∀ L : List SplitNode, ∀ x ∈ leftover L, x ∈ L
  | _ :: _ :: rest, x, hx => by
    rw [leftover] at hx
    exact List.mem_cons_of_mem _ (List.mem_cons_of_mem _ (leftover_subset rest x hx))
  | [a], x, hx => hx
  | [], _, hx => by cases hx

/-- Each new parent lists exactly the nodes of the level that are not left over. -/
theorem countP_lists_pairLevel (i : Nat) :
    ∀ (next : Nat) (L : List SplitNode), (L.map index).Nodup →
      (pairLevel next L).2.countP (·.lists i) =
        if i ∈ L.map index ∧ i ∉ (leftover L).map index then 1 else 0
  | next, a :: b :: rest, hnd => by
    simp only [List.map_cons, List.nodup_cons, List.mem_cons] at hnd
    obtain ⟨ha, hb, hrest⟩ := hnd
    have hsub : ∀ j ∈ (leftover rest).map index, j ∈ rest.map index := by
      intro j hj
      obtain ⟨x, hx, rfl⟩ := List.mem_map.1 hj
      exact List.mem_map_of_mem (leftover_subset rest x hx)
    rw [pairLevel_cons_cons, List.countP_cons, countP_lists_pairLevel i (next + 1) rest hrest,
      leftover]
    simp only [lists, List.map_cons, List.mem_cons]
    by_cases hia : i = a.index
    · subst hia
      have hna : a.index ∉ (leftover rest).map index := fun h => ha (.inr (hsub _ h))
      have hnr : ∀ x ∈ rest, ¬x.index = a.index :=
        fun x hx hxa => ha (.inr (hxa ▸ List.mem_map_of_mem hx))
      simpa [hna] using hnr
    · by_cases hib : i = b.index
      · subst hib
        have hnb : b.index ∉ (leftover rest).map index := fun h => hb (hsub _ h)
        simp [hnb, hb]
      · simp [hia, hib, Ne.symm hia, Ne.symm hib]
  | _, [a], _ => by simp [pairLevel, leftover]
  | _, [], _ => by simp [pairLevel, leftover]

/-- A node that joins `a` and `b`: it has them as children and spans their two ranges, which
meet, the first ordered and the second holding a value. -/
def Joins (y a b : SplitNode) : Prop :=
  y.children = some (a.index, b.index) ∧ y.lower = a.lower ∧ y.upper = b.upper ∧
    a.upper = some b.lower ∧ a.Ordered ∧ b.Filled

/-- The two children a node joins are different nodes: the second starts where the first ends
and holds a value. -/
theorem Joins.ne {y a b : SplitNode} (h : Joins y a b) : a ≠ b := by
  rintro rfl
  exact KeyValue.lt_irrefl _ (h.2.2.2.2.2 _ h.2.2.2.1)

theorem ordered_join {a b : SplitNode} (hab : a.upper = some b.lower) (ha : a.Ordered)
    (hb : b.Ordered) (i : Nat) (ch : Option (Nat × Nat)) :
    Ordered ⟨i, a.lower, b.upper, ch⟩ :=
  fun u hu => KeyValue.le_trans (ha _ hab) (hb u hu)

theorem filled_join {a b : SplitNode} (hab : a.upper = some b.lower) (ha : a.Filled)
    (hb : b.Ordered) (i : Nat) (ch : Option (Nat × Nat)) :
    Filled ⟨i, a.lower, b.upper, ch⟩ :=
  fun u hu => KeyValue.lt_of_lt_of_le (ha _ hab) (hb u hu)

/-- Pairing the nodes of a chain gives a chain. -/
theorem chain_pairLevel (next : Nat) :
    ∀ L : List SplitNode, Chain L → Chain (pairLevel next L).1
  | [a], h => h
  | a :: b :: rest, ⟨hab, ha, hb, htl⟩ => by
    rw [pairLevel_cons_cons]
    match rest, htl with
    | [], htl => exact htl
    | [c], ⟨hbc, hbo, hc, hlast⟩ =>
      exact ⟨hbc, ordered_join hab ha hbo _ _, hc, hlast⟩
    | c :: d :: rest', ⟨hbc, hbo, hc, htl'⟩ =>
      have ih := chain_pairLevel (next + 1) (c :: d :: rest') htl'
      rw [pairLevel_cons_cons] at ih ⊢
      obtain ⟨hcd, -, hd, -⟩ := htl'
      exact ⟨hbc, ordered_join hab ha hbo _ _, filled_join hcd hc hd.ordered _ _, ih⟩

theorem head_lower_pairLevel (next : Nat) :
    ∀ L : List SplitNode, (pairLevel next L).1.head?.map lower = L.head?.map lower
  | _ :: _ :: _ => rfl
  | [_] => rfl
  | [] => rfl

/-- Each new parent joins two nodes of the level. -/
theorem joins_pairLevel (next : Nat) :
    ∀ L : List SplitNode, Chain L → ∀ y ∈ (pairLevel next L).2, ∃ a ∈ L, ∃ b ∈ L, Joins y a b
  | a :: b :: rest, ⟨hab, ha, hb, htl⟩, y, hy => by
    rw [pairLevel_cons_cons, List.mem_cons] at hy
    rcases hy with rfl | hy
    · exact ⟨a, by simp, b, by simp, rfl, rfl, rfl, hab, ha, hb⟩
    · -- the rest of the level is a chain, unless it is empty and has no parents
      match rest, htl, hy with
      | c :: rest', htl, hy =>
        obtain ⟨a', ha', b', hb', hj⟩ :=
          joins_pairLevel (next + 1) (c :: rest') htl.2.2.2 y hy
        exact ⟨a', .tail _ (.tail _ ha'), b', .tail _ (.tail _ hb'), hj⟩
  | [_], _, y, hy => by cases hy
  | [], h, _, _ => h.elim

/-- A value lies in exactly one range of a chain when it is at least the chain's minimum, and in
none otherwise. -/
theorem countP_contains_chain (f : String) (v : KeyValue) :
    ∀ (L : List SplitNode) (lo : KeyValue), Chain L → L.head?.map lower = some lo →
      L.countP (fun y => (y.range f).contains v) = if lo ≤ v then 1 else 0
  | [y], lo, h, hlo => by
    simp only [List.head?_cons, Option.map_some, Option.some.injEq] at hlo
    subst hlo
    simp [range, Range.contains_iff, show y.upper = none from h]
  | y :: z :: rest, lo, h, hlo => by
    simp only [List.head?_cons, Option.map_some, Option.some.injEq] at hlo
    subst hlo
    obtain ⟨hyz, hord, -, htail⟩ := h
    rw [List.countP_cons, countP_contains_chain f v (z :: rest) z.lower htail rfl]
    have hle : y.lower ≤ z.lower := hord z.lower hyz
    -- below the next start the value is in this range, from it on in a later one
    by_cases hv : v < z.lower
    · have hnot : ¬z.lower ≤ v := KeyValue.not_le.2 hv
      simp [range, Range.contains_iff, hyz, hv, hnot]
    · have hzv : z.lower ≤ v := KeyValue.not_lt.1 hv
      simp [range, Range.contains_iff, hyz, hv, hzv, KeyValue.le_trans hle hzv]

theorem getElem_index_pairLevel (next : Nat) (L : List SplitNode) (m : Nat)
    (hm : m < (pairLevel next L).2.length) : (pairLevel next L).2[m].index = next + m := by
  have h := congrArg (·[m]?) (pairLevel_indices next L)
  simp only [List.getElem?_map, List.getElem?_eq_getElem hm, Option.map_some,
    List.getElem?_range' hm, Option.some.injEq, Nat.one_mul] at h
  exact h

theorem length_leftover_le : ∀ L : List SplitNode, (leftover L).length ≤ 1
  | _ :: _ :: rest => length_leftover_le rest
  | [_] => Nat.le_refl 1
  | [] => Nat.zero_le 1

/-- A list whose nodes sit at their own positions lists the positions in order. -/
theorem map_index_eq_range {B : List SplitNode}
    (h : ∀ j (hj : j < B.length), B[j].index = j) : B.map index = List.range B.length :=
  List.ext_getElem (by simp) fun j h₁ _ => by simp [h j (by simpa using h₁)]

/-! ### The leaves -/

theorem length_leaves (i : Nat) (lo : KeyValue) (ps : List KeyValue) :
    (leaves i lo ps).length = ps.length + 1 := by
  induction ps generalizing i lo with
  | nil => rfl
  | cons p ps ih => simp [leaves, ih]

theorem getElem_index_leaves (i : Nat) (lo : KeyValue) (ps : List KeyValue) :
    ∀ j (hj : j < (leaves i lo ps).length), (leaves i lo ps)[j].index = i + j := by
  induction ps generalizing i lo with
  | nil => intro j hj; simp [leaves] at hj ⊢; omega
  | cons p ps ih =>
    intro j hj
    cases j with
    | zero => rfl
    | succ j =>
      simp only [leaves, List.getElem_cons_succ]
      rw [ih]
      omega

theorem children_leaves (i : Nat) (lo : KeyValue) (ps : List KeyValue) :
    ∀ y ∈ leaves i lo ps, y.children = none := by
  induction ps generalizing i lo with
  | nil => simp [leaves]
  | cons p ps ih =>
    intro y hy
    rcases List.mem_cons.1 hy with rfl | hy
    · rfl
    · exact ih _ _ y hy

theorem leaves_eq_cons (i : Nat) (lo : KeyValue) (ps : List KeyValue) :
    ∃ rest, leaves i lo ps = ⟨i, lo, ps.head?, none⟩ :: rest := by
  cases ps <;> exact ⟨_, rfl⟩

/-- The leaves for increasing points from a value at most the first are a chain. -/
theorem chain_leaves (i : Nat) (lo : KeyValue) (ps : List KeyValue)
    (hlo : ∀ p ∈ ps.head?, lo ≤ p) (hinc : Partition.strictlyIncreasing ps = true) :
    Chain (leaves i lo ps) := by
  induction ps generalizing i lo with
  | nil => rfl
  | cons p ps ih =>
    obtain ⟨rest, hrest⟩ := leaves_eq_cons (i + 1) p ps
    -- the next point, if any, is above `p`
    have hnext : ∀ q ∈ ps.head?, p < q := by
      intro q hq
      cases ps with
      | nil => cases hq
      | cons q' ps =>
        cases Option.mem_some_iff.1 hq
        simp only [Partition.strictlyIncreasing, Bool.and_eq_true, decide_eq_true_eq] at hinc
        exact hinc.1
    have hinc' : Partition.strictlyIncreasing ps = true := by
      cases ps with
      | nil => rfl
      | cons q ps =>
        simp only [Partition.strictlyIncreasing, Bool.and_eq_true] at hinc
        exact hinc.2
    have htl := ih (i + 1) p (fun q hq => KeyValue.le_of_lt (hnext q hq)) hinc'
    rw [hrest] at htl
    rw [leaves, hrest]
    exact ⟨rfl, fun u hu => by cases hu; exact hlo p rfl, hnext, htl⟩

/-! ### Building level by level -/

/-- The invariant of the tree built so far: `B` the nodes made, the leaves `ls` first, and `L`
the current level, a chain from `lo`. Every node sits at its position, every node but those of
the current level is the child of exactly one node, and every internal node joins two nodes. -/
structure Built (lo : KeyValue) (ls B L : List SplitNode) : Prop where
  positions : ∀ j (hj : j < B.length), B[j].index = j
  level : ∀ x ∈ L, x ∈ B
  level_nodup : (L.map index).Nodup
  lists : ∀ i, B.countP (·.lists i) = if i < B.length ∧ i ∉ L.map index then 1 else 0
  chain : Chain L
  head : L.head?.map lower = some lo
  joins : ∀ y ∈ B, y.children.isSome → ∃ a ∈ B, ∃ b ∈ B, Joins y a b
  internal : ∃ I, B = ls ++ I ∧ ∀ y ∈ I, y.children.isSome

theorem Built.index_lt {lo : KeyValue} {ls B L : List SplitNode} (h : Built lo ls B L)
    {x : SplitNode} (hx : x ∈ B) : x.index < B.length := by
  obtain ⟨j, hj, rfl⟩ := List.getElem_of_mem hx
  rw [h.positions j hj]
  exact hj

/-- The leaves start the build: they are the current level and nothing lists them yet. -/
theorem built_leaves (lo : KeyValue) (ps : List KeyValue) (hlo : ∀ p ∈ ps.head?, lo ≤ p)
    (hinc : Partition.strictlyIncreasing ps = true) :
    Built lo (leaves 0 lo ps) (leaves 0 lo ps) (leaves 0 lo ps) := by
  have hindex : ∀ j (hj : j < (leaves 0 lo ps).length), (leaves 0 lo ps)[j].index = j :=
    fun j hj => (getElem_index_leaves 0 lo ps j hj).trans (Nat.zero_add j)
  have hrange := map_index_eq_range hindex
  have hnone := children_leaves 0 lo ps
  refine ⟨hindex, fun _ hx => hx, hrange ▸ List.nodup_range, fun i => ?_, chain_leaves 0 lo ps hlo hinc,
    by obtain ⟨rest, h⟩ := leaves_eq_cons 0 lo ps; rw [h]; rfl, ?_, ⟨[], by simp, by simp⟩⟩
  · -- no leaf lists a node, and every position is a leaf
    rw [List.countP_eq_zero.2 fun y hy => by simp [lists, hnone y hy], hrange]
    simp
  · intro y hy hsome
    simp [hnone y hy] at hsome

/-- Pairing a level of two or more nodes keeps the invariant, with the new parents added. -/
theorem Built.addLevel {lo : KeyValue} {ls B L : List SplitNode} (h : Built lo ls B L) :
    Built lo ls (B ++ (pairLevel B.length L).2) (pairLevel B.length L).1 := by
  set P := (pairLevel B.length L).2 with hP
  have hidx : ∀ m (hm : m < P.length), P[m].index = B.length + m :=
    getElem_index_pairLevel B.length L
  have hPidx : ∀ j, j ∈ P.map index ↔ B.length ≤ j ∧ j < B.length + P.length := by
    intro j
    rw [hP, pairLevel_indices, List.mem_range'_1]
  have hLlt : ∀ j ∈ L.map index, j < B.length := by
    intro j hj
    obtain ⟨x, hx, rfl⟩ := List.mem_map.1 hj
    exact h.index_lt (h.level x hx)
  have hleft : ∀ j ∈ (leftover L).map index, j ∈ L.map index := by
    intro j hj
    obtain ⟨x, hx, rfl⟩ := List.mem_map.1 hj
    exact List.mem_map_of_mem (leftover_subset L x hx)
  have hjoins := joins_pairLevel B.length L h.chain
  obtain ⟨I, hI, hint⟩ := h.internal
  refine ⟨?positions, ?level, ?nodup, ?lists, chain_pairLevel _ L h.chain,
    (head_lower_pairLevel _ L).trans h.head, ?joins, ⟨I ++ P, by rw [hI, List.append_assoc], ?int⟩⟩
  case positions =>
    intro j hj
    by_cases hjB : j < B.length
    · rw [List.getElem_append_left hjB]
      exact h.positions j hjB
    · rw [List.getElem_append_right (by omega), hidx]
      omega
  case level =>
    intro x hx
    rw [pairLevel_fst, List.mem_append] at hx
    rcases hx with hx | hx
    · exact List.mem_append_right B hx
    · exact List.mem_append_left P (h.level x (leftover_subset L x hx))
  case nodup =>
    rw [pairLevel_fst, List.map_append, List.nodup_append]
    refine ⟨hP ▸ (pairLevel_indices B.length L ▸ List.nodup_range'), ?_, ?_⟩
    · match hl : leftover L, length_leftover_le L with
      | [], _ => exact List.nodup_nil
      | [_], _ => exact List.nodup_singleton _
    · intro a ha b hb hab
      have := hLlt b (hleft b hb)
      have := ((hPidx a).1 ha).1
      omega
  case lists =>
    intro i
    rw [List.countP_append, h.lists i, hP, countP_lists_pairLevel i _ L h.level_nodup,
      pairLevel_fst, ← hP, List.map_append, List.length_append]
    simp only [List.mem_append, not_or]
    -- a position below the new ones is listed now exactly when it was on the level and is not
    -- left over; the new positions are on the next level
    by_cases hiB : i < B.length
    · have hiP : i ∉ P.map index := fun hi => by have := ((hPidx i).1 hi).1; omega
      have hlt : i < B.length + P.length := by omega
      by_cases hiL : i ∈ L.map index
      · simp only [hiB, hiL, hiP, hlt, not_true, not_false_eq_true, and_false, true_and,
          if_false, Nat.zero_add]
      · have hnl : i ∉ (leftover L).map index := fun hi => hiL (hleft i hi)
        simp only [hiB, hiL, hiP, hlt, hnl, not_false_eq_true, and_self, false_and, if_true,
          if_false]
    · have hiL : i ∉ L.map index := fun hi => hiB (hLlt i hi)
      by_cases hlt : i < B.length + P.length
      · have hiP : i ∈ P.map index := (hPidx i).2 ⟨by omega, hlt⟩
        simp only [hiB, hiL, hiP, false_and, and_false, not_true, if_false]
      · simp only [hiB, hiL, hlt, false_and, if_false]
  case joins =>
    intro y hy hsome
    rcases List.mem_append.1 hy with hy | hy
    · obtain ⟨a, ha, b, hb, hj⟩ := h.joins y hy hsome
      exact ⟨a, List.mem_append_left P ha, b, List.mem_append_left P hb, hj⟩
    · obtain ⟨a, ha, b, hb, hj⟩ := hjoins y hy
      exact ⟨a, List.mem_append_left P (h.level a ha), b, List.mem_append_left P (h.level b hb), hj⟩
  case int =>
    intro y hy
    rcases List.mem_append.1 hy with hy | hy
    · exact hint y hy
    · obtain ⟨a, -, b, -, hj⟩ := hjoins y hy
      simp [hj.1]

/-- The levels above a non-empty level end in a single node, the invariant holding throughout. -/
theorem Built.exists_root {lo : KeyValue} {ls : List SplitNode} :
    ∀ (fuel : Nat) (B L : List SplitNode), Built lo ls B L → L ≠ [] → L.length ≤ fuel + 1 →
      ∃ top, Built lo ls (B ++ upperNodes fuel B.length L) [top]
  | 0, B, L, h, hne, hlen => by
    match L, hne, hlen with
    | [top], _, _ => exact ⟨top, by simpa [SplitNode.upperNodes] using h⟩
  | fuel + 1, B, L, h, hne, hlen => by
    match L, h, hne, hlen with
    | [top], h, _, _ => exact ⟨top, by simpa [SplitNode.upperNodes] using h⟩
    | a :: b :: rest, h, _, hlen =>
      have hstep := h.addLevel
      have hlenP := length_pairLevel B.length (a :: b :: rest)
      have hpos : 0 < (SplitNode.pairLevel B.length (a :: b :: rest)).2.length := by
        rw [pairLevel_cons_cons]
        simp
      have hlenL' := congrArg List.length (pairLevel_fst B.length (a :: b :: rest))
      rw [List.length_append] at hlenL'
      obtain ⟨top, htop⟩ := Built.exists_root fuel _ _ hstep
        (List.ne_nil_of_length_pos (by omega)) (by simp only [List.length_cons] at hlen hlenP; omega)
      refine ⟨top, ?_⟩
      rw [List.length_append, List.append_assoc] at htop
      simpa only [SplitNode.upperNodes] using htop

theorem Built.eq_of_index_eq {lo : KeyValue} {ls B L : List SplitNode} (h : Built lo ls B L)
    {a b : SplitNode} (ha : a ∈ B) (hb : b ∈ B) (hab : a.index = b.index) : a = b := by
  obtain ⟨i, hi, rfl⟩ := List.getElem_of_mem ha
  obtain ⟨j, hj, rfl⟩ := List.getElem_of_mem hb
  rw [h.positions i hi, h.positions j hj] at hab
  subst hab
  rfl

/-- Once the level is a single node, every other node is listed by exactly one node. -/
theorem Built.countP_lists {lo : KeyValue} {ls B : List SplitNode} {top : SplitNode}
    (h : Built lo ls B [top]) (i : Nat) :
    B.countP (·.lists i) = if i < B.length ∧ i ≠ top.index then 1 else 0 := by
  rw [h.lists i]
  simp

/-- The first element that satisfies a predicate only one element satisfies is that element. -/
theorem find?_of_countP_eq_one {p : SplitNode → Bool} :
    ∀ {l : List SplitNode} {y : SplitNode}, l.countP p = 1 → y ∈ l → p y = true →
      l.find? p = some y
  | a :: t, y, h, hy, hp => by
    rw [List.countP_cons] at h
    by_cases ha : p a = true
    · rw [List.find?_cons_of_pos ha]
      simp only [ha, if_true, Nat.add_eq_right, List.countP_eq_zero] at h
      rcases List.mem_cons.1 hy with rfl | hy
      · rfl
      · exact absurd hp (h y hy)
    · rw [List.find?_cons_of_neg ha]
      simp only [ha, if_false, Nat.add_zero, Bool.false_eq_true] at h
      rcases List.mem_cons.1 hy with rfl | hy
      · exact absurd hp ha
      · exact find?_of_countP_eq_one h hy hp

theorem parentOf_eq (nodes : List SplitNode) (i : Nat) :
    parentOf nodes i = (nodes.find? (·.lists i)).map index :=
  rfl

/-- The parent of a node that another node lists is that node. -/
theorem Built.parentOf_of_lists {lo : KeyValue} {ls B : List SplitNode} {top y : SplitNode}
    (h : Built lo ls B [top]) (hy : y ∈ B) {i : Nat} (hl : y.lists i = true) :
    parentOf B i = some y.index := by
  have hcount := h.countP_lists i
  have hpos : 0 < B.countP (·.lists i) := List.countP_pos_iff.2 ⟨y, hy, hl⟩
  have hone : B.countP (·.lists i) = 1 := by
    split at hcount <;> omega
  rw [parentOf_eq, find?_of_countP_eq_one hone hy hl]
  rfl

/-- The root is the only node without a parent. -/
theorem Built.parentOf_eq_none {lo : KeyValue} {ls B : List SplitNode} {top x : SplitNode}
    (h : Built lo ls B [top]) (hx : x ∈ B) : parentOf B x.index = none ↔ x = top := by
  have hcount := h.countP_lists x.index
  have hlt := h.index_lt hx
  rw [parentOf_eq, Option.map_eq_none_iff, List.find?_eq_none]
  constructor
  · intro hnone
    have hzero : B.countP (·.lists x.index) = 0 :=
      List.countP_eq_zero.2 fun y hy => by simpa using hnone y hy
    rw [hzero] at hcount
    by_contra hne
    have hidx : x.index ≠ top.index := fun hi =>
      hne (h.eq_of_index_eq hx (h.level top (List.mem_singleton_self top)) hi)
    simp [hlt, hidx] at hcount
  · rintro rfl y hy hl
    have hpos : 0 < B.countP (·.lists x.index) := List.countP_pos_iff.2 ⟨y, hy, by simpa using hl⟩
    simp only [ne_eq, not_true_eq_false, and_false, if_false] at hcount
    omega

/-! ### The partitions of the tree -/

/-- The partition of a node of the tree `nodes`, as `Partition.fromSplitPoints` makes it, with
`name` giving a position's id. -/
def toPartition (s : Schema) (name : Nat → String) (nodes : List SplitNode) (n : SplitNode) :
    Partition :=
  let region := (Region.full s).withRange 0 (n.range s.firstField.name)
  let parent := (parentOf nodes n.index).map name
  match n.children with
  | some (l, r) => ⟨name n.index, region, false, parent, [name l, name r], some 0⟩
  | none => ⟨name n.index, region, true, parent, [], none⟩

section toPartition

variable (s : Schema) (name : Nat → String) (nodes : List SplitNode) (n : SplitNode)

@[simp] theorem toPartition_id : (toPartition s name nodes n).id = name n.index := by
  unfold toPartition; split <;> rfl

@[simp] theorem toPartition_region :
    (toPartition s name nodes n).region =
      (Region.full s).withRange 0 (n.range s.firstField.name) := by
  unfold toPartition; split <;> rfl

@[simp] theorem toPartition_parentId :
    (toPartition s name nodes n).parentId = (parentOf nodes n.index).map name := by
  unfold toPartition; split <;> rfl

@[simp] theorem toPartition_isLeaf : (toPartition s name nodes n).isLeaf = n.children.isNone := by
  unfold toPartition; split <;> simp_all

theorem toPartition_childIds :
    (toPartition s name nodes n).childIds = n.children.elim [] fun c => [name c.1, name c.2] := by
  unfold toPartition; split <;> simp_all

end toPartition

theorem length_full (s : Schema) : (Region.full s).ranges.length = s.numDimensions := by
  simp [Region.full, Schema.numDimensions]

theorem zero_lt_length_full (s : Schema) : 0 < (Region.full s).ranges.length := by
  rw [length_full, Schema.numDimensions]
  exact List.length_pos_iff.2 s.rowKeys_ne_nil

/-- The regions of a node's children split its region. -/
theorem Joins.splitInto {y a b : SplitNode} (h : Joins y a b) (s : Schema) :
    ((Region.full s).withRange 0 (y.range s.firstField.name)).SplitInto
      ((Region.full s).withRange 0 (a.range s.firstField.name))
      ((Region.full s).withRange 0 (b.range s.firstField.name)) := by
  obtain ⟨-, hlo, hup, hab, ha, hb⟩ := h
  exact Region.splitInto_withRange (zero_lt_length_full s)
    (Range.contains_split hlo.symm hab hup.symm (ha _ hab) hb)

/-- The leaves of a chain from the type's minimum hold a key in their regions exactly once when
the region of the whole first dimension holds it, and never otherwise. -/
theorem countP_region_chain (s : Schema) {k : Key} {v : KeyValue} (hv : k.get? 0 = some v)
    {L : List SplitNode} {lo : KeyValue} (hL : Chain L) (hlo : L.head?.map lower = some lo) :
    L.countP (fun y => ((Region.full s).withRange 0 (y.range s.firstField.name)).contains k) =
      if ((Region.full s).withRange 0 ⟨s.firstField.name, lo, none⟩).contains k = true then 1
      else 0 := by
  have hd := zero_lt_length_full s
  have hwith := fun R => Region.contains_withRange hd R hv
  by_cases haway : (Region.full s).ContainsAway 0 k
  · rw [List.countP_congr fun y _ => (hwith _).trans (and_iff_right haway),
      countP_contains_chain _ v L lo hL hlo]
    simp [hwith, haway, Range.contains_iff]
  · rw [List.countP_eq_zero.2 fun y _ h => haway ((hwith _).1 h).1]
    simp [hwith, haway]

/-- The root of a finished build from the first field's minimum covers the schema's region. -/
theorem Built.region_top {s : Schema} {ls B : List SplitNode} {top : SplitNode}
    (h : Built s.firstField.keyType.minValue ls B [top]) (name : Nat → String) :
    (toPartition s name B top).region = Region.full s := by
  have hup : top.upper = none := h.chain
  have hlow : top.lower = s.firstField.keyType.minValue := Option.some.inj h.head
  rw [toPartition_region, range, hup, hlow]
  exact Region.full_withRange_firstField s

/-- In a finished build whose leaves are a chain from the first field's minimum, a key with a
value at dimension zero lies in one leaf when the schema's region holds it, and in none
otherwise: the internal nodes are no leaves, and the leaves' ranges cut the first dimension. -/
theorem Built.leavesHolding_eq {s : Schema} {name : Nat → String} {ls B : List SplitNode}
    {top : SplitNode} (h : Built s.firstField.keyType.minValue ls B [top]) (hls : Chain ls)
    (hlo : ls.head?.map lower = some s.firstField.keyType.minValue)
    (hnone : ∀ y ∈ ls, y.children = none) {k : Key} {v : KeyValue} (hv : k.get? 0 = some v) :
    leavesHolding (B.map (toPartition s name B)) k =
      if (Region.full s).contains k = true then 1 else 0 := by
  set T := toPartition s name B with hT
  obtain ⟨I, hI, hint⟩ := h.internal
  have hI0 : I.countP ((fun q => q.isLeaf && q.region.contains k) ∘ T) = 0 :=
    List.countP_eq_zero.2 fun y hy => by
      have := hint y hy
      cases hc : y.children <;> simp_all
  have hls' : ls.countP ((fun q => q.isLeaf && q.region.contains k) ∘ T) =
      ls.countP fun y => ((Region.full s).withRange 0 (y.range s.firstField.name)).contains k :=
    List.countP_congr fun y hy => by simp [hT, hnone y hy]
  unfold leavesHolding
  rw [List.countP_map, hI, List.countP_append, hI0, hls', countP_region_chain s hv hls hlo,
    Nat.add_zero]
  exact congrArg (fun R => if R.contains k = true then 1 else 0)
    (Region.full_withRange_firstField s)

/-- A finished build, its leaves a chain from the first field's minimum, gives partitions that
form a tree over the schema's keys, when `name` gives distinct ids. -/
theorem Built.treeWF {s : Schema} {name : Nat → String} (hname : Function.Injective name)
    {ls B : List SplitNode} {top : SplitNode}
    (h : Built s.firstField.keyType.minValue ls B [top]) (hls : Chain ls)
    (hlo : ls.head?.map lower = some s.firstField.keyType.minValue)
    (hnone : ∀ y ∈ ls, y.children = none) :
    PartitionTreeWF s.numDimensions (B.map (toPartition s name B)) := by
  set T := toPartition s name B with hT
  have htop : top ∈ B := h.level top (List.mem_singleton_self top)
  have hroot : ∀ x ∈ B, (T x).parentId = none ↔ x = top := fun x hx => by
    rw [hT, toPartition_parentId, Option.map_eq_none_iff, h.parentOf_eq_none hx]
  refine ⟨?ids, ?root, ?leaf, ?children, ?dims, ?split, ?leaves⟩
  case ids =>
    have hid : (fun q : Partition => q.id) ∘ T = name ∘ index := funext fun n => toPartition_id ..
    rw [List.map_map, hid, ← List.map_map, map_index_eq_range h.positions]
    exact List.nodup_range.map hname
  case root =>
    refine ⟨T top, List.mem_map_of_mem htop, (hroot top htop).2 rfl, ?_⟩
    intro q hq hqp
    obtain ⟨x, hx, rfl⟩ := List.mem_map.1 hq
    rw [(hroot x hx).1 hqp]
  case leaf =>
    intro p hp
    obtain ⟨x, hx, rfl⟩ := List.mem_map.1 hp
    rw [hT, toPartition_isLeaf, toPartition_childIds]
    cases x.children <;> simp
  case children =>
    intro p hp c hc
    obtain ⟨y, hy, rfl⟩ := List.mem_map.1 hp
    rw [hT, toPartition_childIds] at hc
    rcases hch : y.children with _ | ⟨l, r⟩
    · simp [hch] at hc
    · obtain ⟨a, ha, b, hb, hj⟩ := h.joins y hy (by simp [hch])
      obtain ⟨rfl, rfl⟩ := Prod.mk.inj (Option.some.inj (hch.symm.trans hj.1))
      -- each child has this node as its parent, the one node that lists it
      have hparent : ∀ x ∈ B, y.lists x.index = true →
          ∃ q ∈ B.map T, q.id = name x.index ∧ q.parentId = some (T y).id := by
        intro x hx hl
        refine ⟨T x, List.mem_map_of_mem hx, toPartition_id .., ?_⟩
        rw [hT, toPartition_parentId, h.parentOf_of_lists hy hl, toPartition_id]
        rfl
      simp only [hch, Option.elim_some, List.mem_cons, List.not_mem_nil, or_false] at hc
      rcases hc with rfl | rfl
      · exact hparent a ha (by simp [SplitNode.lists, hch])
      · exact hparent b hb (by simp [SplitNode.lists, hch])
  case dims =>
    intro p hp
    obtain ⟨x, hx, rfl⟩ := List.mem_map.1 hp
    rw [hT, toPartition_region, Region.length_withRange, length_full]
  case split =>
    intro p hp hleaf
    obtain ⟨y, hy, rfl⟩ := List.mem_map.1 hp
    have hsome : y.children.isSome = true := by
      rw [hT, toPartition_isLeaf] at hleaf
      cases hc : y.children <;> simp_all
    obtain ⟨a, ha, b, hb, hj⟩ := h.joins y hy hsome
    have hne : a.index ≠ b.index := fun hi => hj.ne (h.eq_of_index_eq ha hb hi)
    refine ⟨T a, List.mem_map_of_mem ha, T b, List.mem_map_of_mem hb, ?_, ?_, ?_⟩
    · simpa [hT] using hname.ne hne
    · rw [hT, toPartition_childIds, hj.1]
      simp
    · simpa [hT] using hj.splitInto s
  case leaves =>
    intro k hk r hr hrp
    obtain ⟨x, hx, rfl⟩ := List.mem_map.1 hr
    obtain rfl := (hroot x hx).1 hrp
    obtain ⟨v, hv⟩ : ∃ v, k.get? 0 = some v := by
      have := zero_lt_length_full s
      rw [length_full] at this
      exact ⟨_, List.getElem?_eq_getElem (by omega)⟩
    rw [hT, h.leavesHolding_eq hls hlo hnone hv, h.region_top name]

/-- Points that increase from at least `lo` build their tree to a single root. -/
theorem built_tree {lo : KeyValue} {points : List KeyValue} (hlo : ∀ p ∈ points.head?, lo ≤ p)
    (hinc : Partition.strictlyIncreasing points = true) :
    ∃ top, Built lo (leaves 0 lo points) (tree lo points) [top] := by
  obtain ⟨rest, hcons⟩ := leaves_eq_cons 0 lo points
  exact Built.exists_root _ _ _ (built_leaves lo points hlo hinc) (by simp [hcons])
    (Nat.le_succ _)

end SplitNode

end TableState

namespace TableState

namespace Partition

theorem keyType_of_checkPointTypes {t : KeyType} :
    ∀ {points : List KeyValue}, checkPointTypes t points = .ok () → ∀ p ∈ points, p.keyType = t
  | [], _, p, hp => by cases hp
  | q :: qs, h, p, hp => by
    unfold checkPointTypes at h
    split at h
    · rcases List.mem_cons.1 hp with rfl | hp
      · assumption
      · exact keyType_of_checkPointTypes h p hp
    · cases h

/-- The partitions for split points, once the points pass the checks, are the partitions of the
nodes of the tree. -/
theorem fromSplitPoints_eq_ok {s : Schema} {points : List KeyValue} {idPrefix : String}
    {ps : List Partition} (h : fromSplitPoints s points idPrefix = .ok ps) :
    (∀ p ∈ points, p.keyType = s.firstField.keyType) ∧ strictlyIncreasing points = true ∧
      ps = (SplitNode.tree s.firstField.keyType.minValue points).map
        (SplitNode.toPartition s (fun i => idPrefix ++ toString i)
          (SplitNode.tree s.firstField.keyType.minValue points)) := by
  simp only [fromSplitPoints, Except.bind_eq_ok] at h
  obtain ⟨_, htypes, h⟩ := h
  split at h
  · cases h
  · rename_i hinc
    simp only [Bool.not_eq_true', Bool.not_eq_false] at hinc
    injection h with h
    exact ⟨keyType_of_checkPointTypes htypes, hinc, h.symm⟩

theorem fromSplitPoints_wf {s : Schema} {points : List KeyValue} {idPrefix : String}
    {ps : List Partition} (h : fromSplitPoints s points idPrefix = .ok ps) :
    PartitionTreeWF s.numDimensions ps := by
  obtain ⟨htypes, hinc, rfl⟩ := fromSplitPoints_eq_ok h
  have hname : Function.Injective fun i : Nat => idPrefix ++ toString i := fun a b hab =>
    Text.toString_nat_injective ((String.append_right_inj idPrefix).1 hab)
  -- every point has the first field's type, so the first is at least that type's minimum
  have hlo : ∀ p ∈ points.head?, s.firstField.keyType.minValue ≤ p := by
    intro p hp
    rw [← htypes p (List.mem_of_mem_head? hp)]
    exact KeyValue.minValue_le p
  obtain ⟨rest, hcons⟩ := SplitNode.leaves_eq_cons 0 s.firstField.keyType.minValue points
  obtain ⟨top, htop⟩ := SplitNode.built_tree hlo hinc
  exact htop.treeWF hname (SplitNode.chain_leaves 0 _ points hlo hinc) (by rw [hcons]; rfl)
    (SplitNode.children_leaves 0 _ points)

/-- The partitions for split points are split on dimension zero or not at all. -/
theorem splitDimension_of_fromSplitPoints {s : Schema} {points : List KeyValue}
    {idPrefix : String} {ps : List Partition} (h : fromSplitPoints s points idPrefix = .ok ps) :
    ∀ p ∈ ps, p.splitDimension = none ∨ p.splitDimension = some 0 := by
  obtain ⟨-, -, rfl⟩ := fromSplitPoints_eq_ok h
  intro p hp
  obtain ⟨n, -, rfl⟩ := List.mem_map.1 hp
  unfold SplitNode.toPartition
  split
  · exact .inr rfl
  · exact .inl rfl

end Partition

end TableState
