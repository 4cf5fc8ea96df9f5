import TableState.Proofs.Partition.Region
import TableState.Proofs.Except
import Mathlib.Data.List.Nodup

/-!
# Partition trees

The partitions of a table form one tree over its key space (`PartitionTreeWF`): ids are unique,
exactly one partition is the root, a partition is a leaf exactly when it has no children, every
child a partition names is stored and names it as its parent, every internal partition has two
children whose regions split its region, and a key with a value at every dimension lies in no
leaf, or in exactly one when the root's region holds it.

The invariant depends on the partitions as a set (`PartitionTreeWF.perm`). It holds of a root
alone (`PartitionTreeWF.single`), and a split of a leaf keeps it (`PartitionTreeWF.split`) when
the split passes its checks (`SplitChecked`, which `Partition.validateSplit` gives together with
non-empty children, `splitChecked_of_validateSplit`) and the children's ids are new. The fields
that do not look at regions (unique ids, one root, links to children, the count of leaves
holding a key) are carried across a split the same way for every tree invariant (`LeafSplit`).

Partitions that form a tree, with no id holding NUL and every parent listing its children, pass
the checks on a list before it is stored (`Partition.validateList_eq_ok`).
-/

set_option autoImplicit false

namespace TableState

/-- The leaves of a list of partitions whose regions hold a key. -/
def leavesHolding (ps : List Partition) (k : Key) : Nat :=
  ps.countP fun q => q.isLeaf && q.region.contains k

/-- Partitions that form one tree over the keys of `n` dimensions. -/
structure PartitionTreeWF (n : Nat) (ps : List Partition) : Prop where
  ids_nodup : (ps.map (·.id)).Nodup
  root : ∃ r ∈ ps, r.parentId = none ∧ ∀ q ∈ ps, q.parentId = none → q.id = r.id
  leaf_iff : ∀ p ∈ ps, p.isLeaf = true ↔ p.childIds = []
  children : ∀ p ∈ ps, ∀ c ∈ p.childIds, ∃ q ∈ ps, q.id = c ∧ q.parentId = some p.id
  dims : ∀ p ∈ ps, p.region.ranges.length = n
  split : ∀ p ∈ ps, p.isLeaf = false → ∃ c₁ ∈ ps, ∃ c₂ ∈ ps, c₁.id ≠ c₂.id ∧
    p.childIds.Perm [c₁.id, c₂.id] ∧ p.region.SplitInto c₁.region c₂.region
  leaves : ∀ k : Key, n ≤ k.values.length → ∀ r ∈ ps, r.parentId = none →
    leavesHolding ps k = if r.region.contains k = true then 1 else 0

/-- What the checks on a split say of the parent in its split form and the two children. -/
structure SplitChecked (parent c₁ c₂ : Partition) : Prop where
  ids_ne : c₁.id ≠ c₂.id
  children_perm : parent.childIds.Perm [c₁.id, c₂.id]
  child : ∀ c ∈ [c₁, c₂], c.isLeaf = true ∧ c.childIds = [] ∧ c.parentId = some parent.id
  dims : ∀ c ∈ [c₁, c₂], c.region.ranges.length = parent.region.ranges.length
  split : parent.region.SplitInto c₁.region c₂.region

/-- The checks on a split do not look at the children's split dimensions. -/
theorem SplitChecked.withSplitDimension {parent c₁ c₂ : Partition}
    (h : SplitChecked parent c₁ c₂) (d₁ d₂ : Option Nat) :
    SplitChecked parent { c₁ with splitDimension := d₁ } { c₂ with splitDimension := d₂ } := by
  refine ⟨h.ids_ne, h.children_perm, fun c hc => ?_, fun c hc => ?_, h.split⟩
  · rcases List.mem_pair.1 hc with rfl | rfl
    · exact h.child c₁ (List.mem_cons_self ..)
    · exact h.child c₂ (List.mem_pair.2 (.inr rfl))
  · rcases List.mem_pair.1 hc with rfl | rfl
    · exact h.dims c₁ (List.mem_cons_self ..)
    · exact h.dims c₂ (List.mem_pair.2 (.inr rfl))

theorem validateIdentifier_eq_ok_iff {id : String} :
    validateIdentifier id = .ok () ↔ '\x00' ∉ id.toList := by
  unfold validateIdentifier
  split <;> simp_all

namespace Partition

/-- In a list with distinct ids, looking up a member's id finds that member. -/
theorem find?_id_of_mem {ps : List Partition} (hnd : (ps.map id).Nodup) {p : Partition}
    (hp : p ∈ ps) : ps.find? (·.id == p.id) = some p := by
  induction ps with
  | nil => cases hp
  | cons q ps ih =>
    rw [List.map_cons, List.nodup_cons] at hnd
    rw [List.find?_cons]
    rcases List.mem_cons.1 hp with rfl | hp
    · simp
    · have hne : (q.id == p.id) = false :=
        beq_eq_false_iff_ne.2 fun e => hnd.1 (e ▸ List.mem_map_of_mem hp)
      rw [hne]
      exact ih hnd.2 hp

/-- The checks on a split pass exactly when no id holds NUL, the parent is internal with a split
dimension, its children are the two given, which differ, each child names the parent and is a
leaf without children, and the children's regions pass their check. -/
theorem validateSplit_eq_ok_iff {parent c₁ c₂ : Partition} :
    validateSplit parent c₁ c₂ = .ok () ↔
      (∀ id ∈ [parent.id, c₁.id, c₂.id], '\x00' ∉ id.toList) ∧
      ∃ d, parent.splitDimension = some d ∧ parent.isLeaf = false ∧
        parent.childIds.mergeSort (fun a b => decide (a ≤ b)) =
          [c₁.id, c₂.id].mergeSort (fun a b => decide (a ≤ b)) ∧ c₁.id ≠ c₂.id ∧
        (∀ c ∈ [c₁, c₂], c.parentId = some parent.id ∧ c.isLeaf = true ∧ c.childIds = []) ∧
        childRegionsCover parent c₁ c₂ d = true := by
  simp only [List.mem_cons, List.not_mem_nil, or_false, forall_eq_or_imp, forall_eq,
    ← validateIdentifier_eq_ok_iff]
  constructor
  · intro h
    simp only [validateSplit, Except.bind_eq_ok] at h
    obtain ⟨u₀, h₀, u₁, h₁, u₂, h₂, h⟩ := h
    refine ⟨⟨h₀, h₁, h₂⟩, ?_⟩
    rcases hsd : parent.splitDimension with _ | d
    · simp [hsd] at h
    · simp only [hsd] at h
      split at h
      · simp at h
      · rename_i hleaf
        simp only [Except.bind_eq_ok, Except.pure_eq_ok] at h
        obtain ⟨_, rfl, h⟩ := h
        split at h
        · simp at h
        · rename_i hchildren
          simp only [Bool.not_eq_true', Bool.not_eq_false, Bool.and_eq_true, beq_iff_eq,
            bne_iff_ne, ne_eq] at hchildren
          obtain ⟨u, hloop, hcover⟩ := Except.bind_eq_ok.1 h
          have hchecks := List.forIn_checks_ok (by
            intro c u
            split
            · simp
            · split <;> simp) hloop
          -- each child names the parent and is a leaf without children
          have hchild : ∀ c ∈ [c₁, c₂],
              c.parentId = some parent.id ∧ c.isLeaf = true ∧ c.childIds = [] := by
            intro c hc
            have hc' := hchecks c hc
            split at hc'
            · simp at hc'
            · rename_i hpar
              split at hc'
              · simp at hc'
              · rename_i hleaf'
                simp only [bne_iff_ne, ne_eq, Decidable.not_not, Bool.not_eq_true',
                  Bool.not_eq_false, Bool.and_eq_true, List.isEmpty_iff] at hpar hleaf'
                exact ⟨hpar, hleaf'.1, hleaf'.2⟩
          have hregions : childRegionsCover parent c₁ c₂ d = true := by
            split at hcover
            · simp at hcover
            · rename_i hc
              simpa using hc
          simp only [Bool.not_eq_true] at hleaf
          exact ⟨d, rfl, hleaf, hchildren.1, hchildren.2,
            ⟨hchild c₁ (by simp), hchild c₂ (by simp)⟩, hregions⟩
  · rintro ⟨⟨h₀, h₁, h₂⟩, d, hsd, hl, hs, hne, ⟨⟨hp₁, hl₁, hc₁⟩, hp₂, hl₂, hc₂⟩, hcov⟩
    simp [validateSplit, List.forIn_cons, h₀, h₁, h₂, hsd, hl, hs, hne, hp₁, hl₁, hc₁, hp₂, hl₂,
      hc₂, hcov]

/-- The children of a split whose checks pass, and whose ranges at the split dimension are not
empty, are what `SplitChecked` says. -/
theorem splitChecked_of_validateSplit {parent c₁ c₂ : Partition}
    (h : validateSplit parent c₁ c₂ = .ok ())
    (hne : ∀ d, parent.splitDimension = some d →
      ∀ c ∈ [c₁, c₂], ∀ r, c.region.ranges[d]? = some r → r.Nonempty) :
    SplitChecked parent c₁ c₂ := by
  obtain ⟨-, d, hsd, -, hsorted, hne₁₂, hchild, hregions⟩ := validateSplit_eq_ok_iff.1 h
  obtain ⟨hsplit, hlen₁, hlen₂⟩ := splitInto_of_childRegionsCover hregions (hne d hsd)
  refine ⟨hne₁₂, ?_, fun c hc => ?_, fun c hc => ?_, hsplit⟩
  · -- both lists sort to the same list
    have hp := List.mergeSort_perm parent.childIds fun a b => decide (a ≤ b)
    rw [hsorted] at hp
    exact hp.symm.trans (List.mergeSort_perm _ _)
  · obtain ⟨hpar, hleaf, hkids⟩ := hchild c hc
    exact ⟨hleaf, hkids, hpar⟩
  · rcases List.mem_pair.1 hc with rfl | rfl
    · exact hlen₁
    · exact hlen₂

end Partition

/-! ## Replacing a leaf by its split form

A split replaces a leaf `sp` by its split form `sp'`, which keeps the leaf's id, region and
parent, and adds two leaves that name the leaf as their parent. Every invariant of partition
trees is carried across such a replacement field by field; the fields that do not look at
regions are carried the same way for each, below. -/

/-- `sp'` is the split form of the leaf `sp` with children `c₁` and `c₂`. -/
structure LeafSplit (sp sp' c₁ c₂ : Partition) : Prop where
  id : sp'.id = sp.id
  region : sp'.region = sp.region
  parentId : sp'.parentId = sp.parentId
  not_leaf : sp'.isLeaf = false
  children : ∀ c ∈ sp'.childIds, c = c₁.id ∨ c = c₂.id
  child₁ : c₁.isLeaf = true ∧ c₁.childIds = [] ∧ c₁.parentId = some sp.id
  child₂ : c₂.isLeaf = true ∧ c₂.childIds = [] ∧ c₂.parentId = some sp.id
  ids_ne : c₁.id ≠ c₂.id

namespace LeafSplit

variable {sp sp' c₁ c₂ : Partition} {rest : List Partition}

theorem mem_iff {q : Partition} :
    q ∈ sp' :: c₁ :: c₂ :: rest ↔ q = sp' ∨ q = c₁ ∨ q = c₂ ∨ q ∈ rest := by
  simp

/-- Every partition before the split has one after it with its id, region and parent. -/
theorem lift (hs : LeafSplit sp sp' c₁ c₂) {q : Partition} (hq : q ∈ sp :: rest) :
    ∃ q' ∈ sp' :: c₁ :: c₂ :: rest,
      q'.id = q.id ∧ q'.region = q.region ∧ q'.parentId = q.parentId := by
  rcases List.mem_cons.1 hq with rfl | hq
  · exact ⟨sp', List.mem_cons_self, hs.id, hs.region, hs.parentId⟩
  · exact ⟨q, by simp [hq], rfl, rfl, rfl⟩

/-- The ids stay distinct when the children's ids are new. -/
theorem ids_nodup (hs : LeafSplit sp sp' c₁ c₂) (h : ((sp :: rest).map (·.id)).Nodup)
    (hfresh : ∀ q ∈ sp :: rest, q.id ≠ c₁.id ∧ q.id ≠ c₂.id) :
    ((sp' :: c₁ :: c₂ :: rest).map (·.id)).Nodup := by
  simp only [List.map_cons, List.nodup_cons, List.mem_cons, List.mem_map] at h ⊢
  refine ⟨?_, ?_, ?_, h.2⟩
  · rw [hs.id]
    rintro (h₁ | h₂ | ⟨q, hq, hqid⟩)
    · exact (hfresh sp List.mem_cons_self).1 h₁
    · exact (hfresh sp List.mem_cons_self).2 h₂
    · exact h.1 ⟨q, hq, hqid⟩
  · rintro (h₁₂ | ⟨q, hq, hqid⟩)
    · exact hs.ids_ne h₁₂
    · exact (hfresh q (List.mem_cons_of_mem _ hq)).1 hqid
  · rintro ⟨q, hq, hqid⟩
    exact (hfresh q (List.mem_cons_of_mem _ hq)).2 hqid

/-- A root after the split was a root before it, with its id and region: the children have a
parent. -/
theorem root_before (hs : LeafSplit sp sp' c₁ c₂) {r : Partition}
    (hr : r ∈ sp' :: c₁ :: c₂ :: rest) (hroot : r.parentId = none) :
    ∃ r₀ ∈ sp :: rest, r₀.parentId = none ∧ r₀.id = r.id ∧ r₀.region = r.region := by
  rcases mem_iff.1 hr with rfl | rfl | rfl | hr
  · exact ⟨sp, List.mem_cons_self, hs.parentId ▸ hroot, hs.id.symm, hs.region.symm⟩
  · rw [hs.child₁.2.2] at hroot
    cases hroot
  · rw [hs.child₂.2.2] at hroot
    cases hroot
  · exact ⟨r, List.mem_cons_of_mem _ hr, hroot, rfl, rfl⟩

/-- One root before the split leaves one root after it. -/
theorem root (hs : LeafSplit sp sp' c₁ c₂)
    (h : ∃ r ∈ sp :: rest, r.parentId = none ∧ ∀ q ∈ sp :: rest, q.parentId = none → q.id = r.id) :
    ∃ r ∈ sp' :: c₁ :: c₂ :: rest, r.parentId = none ∧
      ∀ q ∈ sp' :: c₁ :: c₂ :: rest, q.parentId = none → q.id = r.id := by
  obtain ⟨r, hr, hroot, huniq⟩ := h
  obtain ⟨r', hr', hid', -, hpar'⟩ := hs.lift hr
  refine ⟨r', hr', hpar'.trans hroot, fun q hq hqroot => ?_⟩
  obtain ⟨q₀, hq₀, hq₀root, hq₀id, -⟩ := hs.root_before hq hqroot
  rw [hid', ← hq₀id]
  exact huniq q₀ hq₀ hq₀root

/-- Every child a partition lists is stored and names it as its parent, after the split as
before: the split form lists the two new leaves, which name the leaf it was. -/
theorem links (hs : LeafSplit sp sp' c₁ c₂)
    (h : ∀ p ∈ sp :: rest, ∀ c ∈ p.childIds, ∃ q ∈ sp :: rest, q.id = c ∧ q.parentId = some p.id) :
    ∀ p ∈ sp' :: c₁ :: c₂ :: rest, ∀ c ∈ p.childIds,
      ∃ q ∈ sp' :: c₁ :: c₂ :: rest, q.id = c ∧ q.parentId = some p.id := by
  intro p hp c hc
  rcases mem_iff.1 hp with rfl | rfl | rfl | hp
  · rcases hs.children c hc with rfl | rfl
    · exact ⟨c₁, by simp, rfl, by rw [hs.child₁.2.2, hs.id]⟩
    · exact ⟨c₂, by simp, rfl, by rw [hs.child₂.2.2, hs.id]⟩
  · rw [hs.child₁.2.1] at hc
    cases hc
  · rw [hs.child₂.2.1] at hc
    cases hc
  · obtain ⟨q, hq, hqid, hqpar⟩ := h p (List.mem_cons_of_mem _ hp) c hc
    obtain ⟨q', hq', hid', -, hpar'⟩ := hs.lift hq
    exact ⟨q', hq', hid'.trans hqid, hpar'.trans hqpar⟩

/-- The two children hold a key exactly as often as the leaf they replace. -/
theorem leavesHolding_eq (hs : LeafSplit sp sp' c₁ c₂) (hleaf : sp.isLeaf = true) {k : Key}
    (hcount : ((if c₁.region.contains k = true then 1 else 0) +
      if c₂.region.contains k = true then 1 else 0) = if sp.region.contains k = true then 1 else 0) :
    leavesHolding (sp' :: c₁ :: c₂ :: rest) k = leavesHolding (sp :: rest) k := by
  simp only [leavesHolding, List.countP_cons, hleaf, hs.child₁.1, hs.child₂.1, hs.not_leaf,
    Bool.true_and, Bool.false_and, Bool.false_eq_true, if_false] at hcount ⊢
  omega

/-- A key lies in one leaf or none, as the root's region says, after the split as before. -/
theorem leaves (hs : LeafSplit sp sp' c₁ c₂) (hleaf : sp.isLeaf = true) {k : Key}
    (hcount : ((if c₁.region.contains k = true then 1 else 0) +
      if c₂.region.contains k = true then 1 else 0) = if sp.region.contains k = true then 1 else 0)
    (h : ∀ r ∈ sp :: rest, r.parentId = none →
      leavesHolding (sp :: rest) k = if r.region.contains k = true then 1 else 0) :
    ∀ r ∈ sp' :: c₁ :: c₂ :: rest, r.parentId = none →
      leavesHolding (sp' :: c₁ :: c₂ :: rest) k = if r.region.contains k = true then 1 else 0 := by
  intro r hr hroot
  obtain ⟨r₀, hr₀, hr₀root, -, hr₀reg⟩ := hs.root_before hr hroot
  rw [hs.leavesHolding_eq hleaf hcount, ← hr₀reg]
  exact h r₀ hr₀ hr₀root

end LeafSplit

namespace PartitionTreeWF

variable {n : Nat}

theorem perm {ps ps' : List Partition} (h : PartitionTreeWF n ps) (hp : ps.Perm ps') :
    PartitionTreeWF n ps' := by
  have hmem : ∀ q, q ∈ ps' ↔ q ∈ ps := fun q => hp.mem_iff.symm
  refine ⟨(hp.map _).nodup_iff.1 h.ids_nodup, ?_, ?_, ?_, ?_, ?_, ?_⟩
  · obtain ⟨r, hr, hroot, huniq⟩ := h.root
    exact ⟨r, (hmem r).2 hr, hroot, fun q hq => huniq q ((hmem q).1 hq)⟩
  · exact fun p hp' => h.leaf_iff p ((hmem p).1 hp')
  · intro p hp' c hc
    obtain ⟨q, hq, hqc⟩ := h.children p ((hmem p).1 hp') c hc
    exact ⟨q, (hmem q).2 hq, hqc⟩
  · exact fun p hp' => h.dims p ((hmem p).1 hp')
  · intro p hp' hleaf
    obtain ⟨c₁, h₁, c₂, h₂, hc⟩ := h.split p ((hmem p).1 hp') hleaf
    exact ⟨c₁, (hmem c₁).2 h₁, c₂, (hmem c₂).2 h₂, hc⟩
  · intro k hk r hr hroot
    rw [leavesHolding, ← hp.countP_eq]
    exact h.leaves k hk r ((hmem r).1 hr) hroot

/-- A root alone, a leaf, is a tree. -/
theorem single {r : Partition} (hroot : r.parentId = none) (hleaf : r.isLeaf = true)
    (hchildren : r.childIds = []) (hdims : r.region.ranges.length = n) :
    PartitionTreeWF n [r] := by
  refine ⟨by simp, ⟨r, List.mem_singleton_self r, hroot, fun q hq _ => by
    rw [List.mem_singleton.1 hq]⟩, ?_, ?_, ?_, ?_, ?_⟩
  · intro p hp
    rw [List.mem_singleton.1 hp, hleaf, hchildren]
    simp
  · intro p hp c hc
    rw [List.mem_singleton.1 hp, hchildren] at hc
    cases hc
  · intro p hp
    rw [List.mem_singleton.1 hp, hdims]
  · intro p hp hp'
    rw [List.mem_singleton.1 hp, hleaf] at hp'
    cases hp'
  · intro k _ r' hr' _
    rw [List.mem_singleton.1 hr']
    simp [leavesHolding, hleaf]

section Split

variable {sp parent c₁ c₂ : Partition} {rest : List Partition}

/-- A leaf split into two new children: the leaf takes its split form in place, and the children
are added. The split dimension plays no part. -/
theorem split_leaf (h : PartitionTreeWF n (sp :: rest)) (hleaf : sp.isLeaf = true)
    (hid : sp.id = parent.id) (hreg : sp.region = parent.region)
    (hfresh : ∀ q ∈ sp :: rest, q.id ≠ c₁.id ∧ q.id ≠ c₂.id) (hc : SplitChecked parent c₁ c₂)
    (sd : Option Nat) :
    PartitionTreeWF n
      ({ sp with isLeaf := false, childIds := parent.childIds, splitDimension := sd } ::
        c₁ :: c₂ :: rest) := by
  set sp' : Partition := { sp with isLeaf := false, childIds := parent.childIds, splitDimension := sd }
  obtain ⟨hleaf₁, hnil₁, hpar₁⟩ := hc.child c₁ (by simp)
  obtain ⟨hleaf₂, hnil₂, hpar₂⟩ := hc.child c₂ (by simp)
  have hchildren_ne : parent.childIds ≠ [] := by
    intro hnil
    have := hc.children_perm.length_eq
    rw [hnil] at this
    cases this
  have hs : LeafSplit sp sp' c₁ c₂ :=
    { id := rfl, region := rfl, parentId := rfl, not_leaf := rfl
      children := fun c hc' => List.mem_pair.1 (hc.children_perm.mem_iff.1 hc')
      child₁ := ⟨hleaf₁, hnil₁, by rw [hpar₁, hid]⟩
      child₂ := ⟨hleaf₂, hnil₂, by rw [hpar₂, hid]⟩
      ids_ne := hc.ids_ne }
  refine ⟨hs.ids_nodup h.ids_nodup hfresh, hs.root h.root, ?leaf, hs.links h.children, ?dims,
    ?split, ?leaves⟩
  case leaf =>
    intro p hp
    rcases LeafSplit.mem_iff.1 hp with rfl | rfl | rfl | hp
    · simp [sp', hchildren_ne]
    · simp [hleaf₁, hnil₁]
    · simp [hleaf₂, hnil₂]
    · exact h.leaf_iff p (List.mem_cons_of_mem _ hp)
  case dims =>
    have hsp := h.dims sp List.mem_cons_self
    intro p hp
    rcases LeafSplit.mem_iff.1 hp with rfl | rfl | rfl | hp
    · exact hsp
    · rw [hc.dims _ (by simp), ← hreg, hsp]
    · rw [hc.dims _ (by simp), ← hreg, hsp]
    · exact h.dims p (List.mem_cons_of_mem _ hp)
  case split =>
    intro p hp hpleaf
    rcases LeafSplit.mem_iff.1 hp with rfl | rfl | rfl | hp
    · exact ⟨c₁, by simp, c₂, by simp, hc.ids_ne, hc.children_perm, hreg ▸ hc.split⟩
    · rw [hleaf₁] at hpleaf; cases hpleaf
    · rw [hleaf₂] at hpleaf; cases hpleaf
    · obtain ⟨d₁, hd₁, d₂, hd₂, hne, hperm, hsplit⟩ :=
        h.split p (List.mem_cons_of_mem _ hp) hpleaf
      obtain ⟨d₁', hd₁', hid₁, hreg₁, -⟩ := hs.lift hd₁
      obtain ⟨d₂', hd₂', hid₂, hreg₂, -⟩ := hs.lift hd₂
      exact ⟨d₁', hd₁', d₂', hd₂', hid₁ ▸ hid₂ ▸ hne, hid₁ ▸ hid₂ ▸ hperm,
        hreg₁ ▸ hreg₂ ▸ hsplit⟩
  case leaves =>
    intro k hk
    -- the children split the leaf's region, whose dimensions the key has
    have hlen : parent.region.ranges.length ≤ k.values.length := by
      rw [← hreg, h.dims sp List.mem_cons_self]
      exact hk
    have hcount := hc.split.count hlen
    rw [← hreg] at hcount
    exact hs.leaves hleaf hcount (h.leaves k hk)

end Split

end PartitionTreeWF

/-- With distinct ids, keeping the last partition of each id keeps them all. -/
theorem lastById_of_nodup : ∀ {ps : List Partition}, (ps.map (·.id)).Nodup → lastById ps = ps
  | [], _ => rfl
  | p :: ps, hnd => by
    rw [List.map_cons, List.nodup_cons] at hnd
    have hany : (ps.any fun q => q.id == p.id) = false := by
      rw [List.any_eq_false]
      intro q hq he
      exact hnd.1 (beq_iff_eq.1 he ▸ List.mem_map_of_mem hq)
    rw [lastById, lastById_of_nodup hnd.2, hany]
    rfl

namespace PartitionTree

/-- Partitions with distinct ids and one root `r` form the tree of all of them, rooted at `r`. -/
theorem ofPartitions_eq_ok {ps : List Partition} (hnd : (ps.map (·.id)).Nodup) {r : Partition}
    (hr : r ∈ ps) (hroot : r.parentId = none)
    (hunique : ∀ q ∈ ps, q.parentId = none → q.id = r.id) :
    ofPartitions ps = .ok ⟨r.id, ps⟩ := by
  set roots := (ps.filter Partition.isRoot).map (·.id) with hroots
  have hsub : (ps.filter Partition.isRoot).Sublist ps := List.filter_sublist
  have hnd' : roots.Nodup := (hsub.map _).nodup hnd
  have hmem : r.id ∈ roots :=
    List.mem_map_of_mem (List.mem_filter.2 ⟨hr, by simp [Partition.isRoot, hroot]⟩)
  -- every root has the id of `r`, and ids are distinct, so there is one
  have hall : ∀ x ∈ roots, x = r.id := by
    intro x hx
    obtain ⟨q, hq, rfl⟩ := List.mem_map.1 hx
    rw [List.mem_filter] at hq
    exact hunique q hq.1 (by simpa [Partition.isRoot] using hq.2)
  have hrep := List.eq_replicate_iff.2 ⟨rfl, hall⟩
  have hlen : roots.length = 1 := by
    have h₁ := List.nodup_replicate.1 (hrep ▸ hnd')
    have h₂ := List.length_pos_of_mem hmem
    omega
  rw [hlen] at hrep
  unfold ofPartitions
  rw [← hroots, hrep, List.replicate_one, lastById_of_nodup hnd]

end PartitionTree

namespace Partition

/-- The checks on one partition of a tree pass when its id holds no NUL, it is a leaf exactly
when it has no children, its parent is in the tree and lists it, and it and its children are in
the tree. -/
theorem validateMember_eq_ok {t : PartitionTree} {p : Partition}
    (hid : '\x00' ∉ p.id.toList) (hleaf : p.isLeaf = true ↔ p.childIds = [])
    (hparent : ∀ pid, p.parentId = some pid → ∃ q, t.find? pid = some q ∧ p.id ∈ q.childIds)
    (hself : t.find? p.id = some p) (hchildren : ∀ c ∈ p.childIds, ∃ q, t.find? c = some q) :
    validateMember t p = .ok () := by
  have hcheck : (p.isLeaf != p.childIds.isEmpty) = false := by
    rw [bne_eq_false_iff_eq, Bool.eq_iff_iff, hleaf, List.isEmpty_iff]
  obtain ⟨cs, hcs⟩ : ∃ cs, t.children p.id = .ok cs := by
    unfold PartitionTree.children
    rw [hself]
    exact List.mapM_eq_ok_of_forall fun c hc => by
      obtain ⟨q, hq⟩ := hchildren c hc
      exact ⟨q, by rw [hq]⟩
  -- the parent's check passes, whether or not there is a parent
  rcases hp : p.parentId with _ | pid
  · simp [validateMember, validateIdentifier_eq_ok_iff.2 hid, hcheck, hp, hcs]
  · obtain ⟨q, hq, hmem⟩ := hparent pid hp
    simp [validateMember, validateIdentifier_eq_ok_iff.2 hid, hcheck, hp, hq, hmem, hcs]

/-- A list of partitions that forms a tree passes the checks before it is stored, when no id
holds NUL and every partition's parent lists it. -/
theorem validateList_eq_ok {n : Nat} {ps : List Partition} (hwf : PartitionTreeWF n ps)
    (hids : ∀ p ∈ ps, '\x00' ∉ p.id.toList)
    (hparent : ∀ p ∈ ps, ∀ pid, p.parentId = some pid →
      ∃ q ∈ ps, q.id = pid ∧ p.id ∈ q.childIds) :
    validateList ps = .ok () := by
  obtain ⟨r, hr, hroot, hunique⟩ := hwf.root
  have hfind : ∀ q ∈ ps, (⟨r.id, ps⟩ : PartitionTree).find? q.id = some q :=
    fun q hq => find?_id_of_mem hwf.ids_nodup hq
  have hmember : ∀ p ∈ ps, validateMember ⟨r.id, ps⟩ p = .ok () := by
    intro p hp
    refine validateMember_eq_ok (hids p hp) (hwf.leaf_iff p hp) (fun pid hpid => ?_)
      (hfind p hp) (fun c hc => ?_)
    · obtain ⟨q, hq, rfl, hmem⟩ := hparent p hp pid hpid
      exact ⟨q, hfind q hq, hmem⟩
    · obtain ⟨q, hq, rfl, -⟩ := hwf.children p hp c hc
      exact ⟨q, hfind q hq⟩
  simp only [validateList, PartitionTree.ofPartitions_eq_ok hwf.ids_nodup hr hroot hunique,
    pure_bind, PartitionTree.size, bne_self_eq_false, Bool.false_eq_true, if_false]
  exact List.forM_eq_ok_of_forall hmember

end Partition

end TableState
