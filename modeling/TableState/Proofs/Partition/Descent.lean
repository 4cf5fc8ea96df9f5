import TableState.Proofs.Partition.Tree
import Mathlib.Data.List.Perm.Subperm

/-!
# The walk down to a key's leaf

`PartitionTree.leafForKey` walks down from the root: at an internal partition it goes on to the
first child, in the partition's list of children, whose region holds the key. What it answers
turns on two questions.

* **Whether the walk ends.** It does when every child an internal partition lists is stored and
  names that partition as its parent (`PartitionTree.leafForKey_isSome`). The partitions the walk
  has passed then lead back up to the root by parent links (`Partition.RootPath`). Ids are
  unique, so a partition's parent is the one partition with its parent's id, and a partition has
  one such path; a path therefore never comes back to a partition it has left
  (`Partition.RootPath.nodup`), and the walk passes at most as many partitions as there are.
* **Where it ends.** When every internal partition lists stored children that between them hold
  every key it holds, a walk from a partition that holds the key ends, if it ends, at a stored
  leaf that holds it (`PartitionTree.descend_eq_leaf`).
-/

set_option autoImplicit false

namespace TableState

namespace Partition

/-- `path` leads from `p` up to a root of `ps` by parent links: `p` first, each partition's
parent after it, and last a partition without a parent. -/
inductive RootPath (ps : List Partition) : Partition → List Partition → Prop
  | root {p : Partition} : p ∈ ps → p.parentId = none → RootPath ps p [p]
  | up {p q : Partition} {path : List Partition} : p ∈ ps → p.parentId = some q.id →
      RootPath ps q path → RootPath ps p (p :: path)

namespace RootPath

variable {ps : List Partition} {p : Partition} {path : List Partition}

theorem mem_self (h : RootPath ps p path) : p ∈ path := by
  cases h <;> exact List.mem_cons_self

theorem subset (h : RootPath ps p path) : path ⊆ ps := by
  induction h with
  | root hp _ => exact List.cons_subset.2 ⟨hp, List.nil_subset _⟩
  | up hp _ _ ih => exact List.cons_subset.2 ⟨hp, ih⟩

/-- Each partition on a path has the rest of the path from it as a path of its own. -/
theorem suffix (h : RootPath ps p path) : ∀ x ∈ path, ∃ rest, RootPath ps x rest ∧ rest <:+ path := by
  induction h with
  | root hp hroot =>
    intro x hx
    rw [List.mem_singleton.1 hx]
    exact ⟨_, .root hp hroot, List.suffix_refl _⟩
  | up hp hpar hq ih =>
    intro x hx
    rcases List.mem_cons.1 hx with rfl | hx
    · exact ⟨_, .up hp hpar hq, List.suffix_refl _⟩
    · obtain ⟨rest, hrest, hsuf⟩ := ih x hx
      exact ⟨rest, hrest, hsuf.trans (List.suffix_cons _ _)⟩

/-- With distinct ids a partition has one path: its parent is the partition with its parent's
id. -/
theorem unique (hnd : (ps.map (·.id)).Nodup) {l : List Partition} (h₁ : RootPath ps p path)
    (h₂ : RootPath ps p l) : path = l := by
  induction h₁ generalizing l with
  | root _ hroot =>
    cases h₂ with
    | root => rfl
    | up _ hpar _ => rw [hroot] at hpar; cases hpar
  | @up p q path _ hpar hq ih =>
    cases h₂ with
    | root _ hroot => rw [hpar] at hroot; cases hroot
    | @up _ q' l _ hpar' hq' =>
      have hid : q.id = q'.id := Option.some.inj (hpar.symm.trans hpar')
      obtain rfl := List.inj_on_of_nodup_map hnd (hq.subset hq.mem_self) (hq'.subset hq'.mem_self) hid
      rw [ih hq']

/-- A path never comes back to a partition it has left. -/
theorem nodup (hnd : (ps.map (·.id)).Nodup) (h : RootPath ps p path) : path.Nodup := by
  induction h with
  | root => exact List.nodup_singleton _
  | @up p q path hp hpar hq ih =>
    refine List.nodup_cons.2 ⟨fun hmem => ?_, ih⟩
    -- the path from `p` further on would be a second, shorter path of `p`
    obtain ⟨rest, hrest, hsuf⟩ := hq.suffix p hmem
    have hlen := hsuf.length_le
    rw [← (RootPath.up hp hpar hq).unique hnd hrest, List.length_cons] at hlen
    omega

theorem length_le (hnd : (ps.map (·.id)).Nodup) (h : RootPath ps p path) :
    path.length ≤ ps.length :=
  ((h.nodup hnd).subperm h.subset).length_le

end RootPath

end Partition

namespace PartitionTree

variable {t : PartitionTree} {k : Key}

theorem find?_eq_some {id : String} {p : Partition} (h : t.find? id = some p) :
    p ∈ t.partitions ∧ p.id = id :=
  ⟨List.mem_of_find?_eq_some h, by simpa using List.find?_some h⟩

/-- The children a lookup gives are stored, one for each id the partition lists, in its order. -/
theorem children_eq_ok {id : String} {cs : List Partition} (h : t.children id = .ok cs) :
    ∃ p, t.find? id = some p ∧ List.Forall₂ (fun c q => t.find? c = some q) p.childIds cs := by
  unfold children at h
  split at h
  · cases h
  · rename_i p hp
    refine ⟨p, hp, (List.forall₂_of_mapM_eq_ok h).imp fun c q hcq => ?_⟩
    split at hcq
    · cases hcq
      assumption
    · cases hcq

section Distinct

variable (hnd : (t.partitions.map (·.id)).Nodup)
include hnd

theorem find?_of_mem {p : Partition} (hp : p ∈ t.partitions) : t.find? p.id = some p :=
  Partition.find?_id_of_mem hnd hp

/-- With distinct ids, a stored partition has as its children the stored partitions of the ids
it lists. -/
theorem mem_children {x c : Partition} {cs : List Partition} (hx : x ∈ t.partitions)
    (hcs : t.children x.id = .ok cs) (hc : c ∈ t.partitions) (hid : c.id ∈ x.childIds) :
    c ∈ cs := by
  obtain ⟨x', hx', hrel⟩ := children_eq_ok hcs
  obtain ⟨c', hc', hfind⟩ := hrel.exists_of_mem_left (by
    rw [find?_of_mem hnd hx] at hx'
    cases hx'
    exact hid)
  rw [find?_of_mem hnd hc] at hfind
  cases hfind
  exact hc'

/-- The children of a stored partition are stored partitions whose ids it lists. -/
theorem of_mem_children {x c : Partition} {cs : List Partition} (hx : x ∈ t.partitions)
    (hcs : t.children x.id = .ok cs) (hc : c ∈ cs) :
    c ∈ t.partitions ∧ c.id ∈ x.childIds := by
  obtain ⟨x', hx', hrel⟩ := children_eq_ok hcs
  rw [find?_of_mem hnd hx] at hx'
  cases hx'
  obtain ⟨id, hid, hfind⟩ := hrel.exists_of_mem_right hc
  obtain ⟨hmem, rfl⟩ := find?_eq_some hfind
  exact ⟨hmem, hid⟩

/-- A walk from a partition on a path of `n` partitions up to the root ends when it has more
steps left than there are partitions off the path, when every child an internal partition lists
is stored and names it as its parent. -/
theorem descend_isSome
    (hlinks : ∀ p ∈ t.partitions, p.isLeaf = false →
      ∀ c ∈ p.childIds, ∃ q ∈ t.partitions, q.id = c ∧ q.parentId = some p.id) :
    ∀ (fuel : Nat) (x : Partition) (path : List Partition), Partition.RootPath t.partitions x path →
      t.partitions.length < path.length + fuel → (t.descend k fuel x).isSome := by
  intro fuel
  induction fuel with
  | zero =>
    intro x path hpath hlt
    have := hpath.length_le hnd
    omega
  | succ fuel ih =>
    intro x path hpath hlt
    have hx : x ∈ t.partitions := hpath.subset hpath.mem_self
    cases hleaf : x.isLeaf with
    | true => simp [descend, hleaf]
    | false =>
      cases hcs : t.children x.id with
      | error e => simp [descend, hleaf, hcs]
      | ok cs =>
        cases hc : cs.find? (·.region.contains k) with
        | none => simp [descend, hleaf, hcs, hc]
        | some c =>
          have hstep : t.descend k (fuel + 1) x = t.descend k fuel c := by
            simp [descend, hleaf, hcs, hc]
          -- the child names `x` as its parent, so its path runs through `x`
          obtain ⟨hcmem, hcid⟩ := of_mem_children hnd hx hcs (List.mem_of_find?_eq_some hc)
          obtain ⟨q, hq, hqid, hqpar⟩ := hlinks x hx hleaf c.id hcid
          obtain rfl := List.inj_on_of_nodup_map hnd hq hcmem hqid
          rw [hstep]
          exact ih q (q :: path) (.up hq hqpar hpath) (by rw [List.length_cons]; omega)

/-- A walk from a stored partition that holds the key ends, if it ends, at a stored leaf that
holds it, when every internal partition's children are stored and one of them holds each key the
partition holds. -/
theorem descend_eq_leaf
    (hstored : ∀ p ∈ t.partitions, p.isLeaf = false → ∀ c ∈ p.childIds, ∃ q, t.find? c = some q)
    (hcover : ∀ p ∈ t.partitions, p.isLeaf = false → p.region.contains k = true →
      ∃ c ∈ t.partitions, c.id ∈ p.childIds ∧ c.region.contains k = true) :
    ∀ (fuel : Nat) (x : Partition) (r : Except Error Partition), x ∈ t.partitions →
      x.region.contains k = true → t.descend k fuel x = some r →
      ∃ p ∈ t.partitions, r = .ok p ∧ p.isLeaf = true ∧ p.region.contains k = true := by
  intro fuel
  induction fuel with
  | zero => intro x r _ _ h; cases h
  | succ fuel ih =>
    intro x r hx hk h
    cases hleaf : x.isLeaf with
    | true =>
      simp only [descend, hleaf, if_true, Option.some.injEq] at h
      exact ⟨x, hx, h.symm, hleaf, hk⟩
    | false =>
      -- the children are found, and the first that holds the key is where the walk goes on
      obtain ⟨cs, hcs⟩ : ∃ cs, t.children x.id = .ok cs := by
        unfold children
        rw [find?_of_mem hnd hx]
        exact List.mapM_eq_ok_of_forall fun c hc => by
          obtain ⟨q, hq⟩ := hstored x hx hleaf c hc
          exact ⟨q, by rw [hq]⟩
      obtain ⟨c₀, hc₀, hc₀id, hc₀k⟩ := hcover x hx hleaf hk
      obtain ⟨c, hc⟩ : ∃ c, cs.find? (·.region.contains k) = some c :=
        Option.isSome_iff_exists.1 (List.find?_isSome.2
          ⟨c₀, mem_children hnd hx hcs hc₀ hc₀id, hc₀k⟩)
      have hstep : t.descend k (fuel + 1) x = t.descend k fuel c := by
        simp [descend, hleaf, hcs, hc]
      rw [hstep] at h
      exact ih c r (of_mem_children hnd hx hcs (List.mem_of_find?_eq_some hc)).1
        (by simpa using List.find?_some hc) h

end Distinct

/-- A tree whose root is stored and names no parent: the walk for a key ends, when every child an
internal partition lists is stored and names it as its parent. -/
theorem leafForKey_isSome (hnd : (t.partitions.map (·.id)).Nodup) {r : Partition}
    (hr : t.find? t.rootId = some r) (hroot : r.parentId = none)
    (hlinks : ∀ p ∈ t.partitions, p.isLeaf = false →
      ∀ c ∈ p.childIds, ∃ q ∈ t.partitions, q.id = c ∧ q.parentId = some p.id) :
    (t.leafForKey k).isSome := by
  have hrmem := (find?_eq_some hr).1
  rw [leafForKey, hr]
  exact descend_isSome hnd hlinks _ r [r] (.root hrmem hroot)
    (by rw [size, List.length_singleton]; omega)

end PartitionTree

end TableState
