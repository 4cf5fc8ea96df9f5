import TableState.Proofs.Partition.Descent

/-!
# What the checks on a list of partitions ask

`Partition.validateList` builds the tree of a list, compares the number of distinct ids with the
length of the list, and checks each partition on its own: its id holds no NUL, it is a leaf
exactly when it lists no children, its parent is stored and lists it, and the children it lists
are stored. That is all it asks (`Partition.validateList_eq_ok_iff`, with
`Partition.LinksChecked`).

Each link is checked from one side. A child must be listed by its parent, but nothing asks that a
partition list only children that name it as their parent: a partition may list another's child,
or the root, and parent links may run round a circle that never reaches the root. A list that
passes need not be a tree, and on such a list the walk to a key's leaf can go round for ever
(`Partition.validateList_passes_endless_descent`). What the checks miss is exactly what the walk
needs: when every listed child names its lister as its parent, the walk ends for every key, since
the links from the root then lead down a tree, whatever circles stand apart from it
(`Partition.validateList_links_descent`).
-/

set_option autoImplicit false

namespace TableState

/-! ## Keeping the last partition of each id -/

theorem lastById_cons (p : Partition) (ps : List Partition) :
    lastById (p :: ps) =
      if (lastById ps).any (·.id == p.id) then lastById ps else p :: lastById ps :=
  rfl

/-- Keeping the last partition of each id keeps every id. -/
theorem mem_ids_lastById {x : String} :
    ∀ {ps : List Partition}, x ∈ (lastById ps).map (·.id) ↔ x ∈ ps.map (·.id)
  | [] => Iff.rfl
  | p :: ps => by
    have ih := @mem_ids_lastById x ps
    rw [lastById_cons]
    split
    · rename_i hany
      -- `p`'s id is kept by a later partition
      obtain ⟨q, hq, hqid⟩ := List.any_eq_true.1 hany
      have hp : p.id ∈ (lastById ps).map (·.id) := List.mem_map.2 ⟨q, hq, beq_iff_eq.1 hqid⟩
      rw [List.map_cons, List.mem_cons, ih]
      constructor
      · exact Or.inr
      · rintro (rfl | h)
        · exact ih.1 hp
        · exact h
    · rw [List.map_cons, List.map_cons, List.mem_cons, List.mem_cons, ih]

theorem length_lastById_le : ∀ ps : List Partition, (lastById ps).length ≤ ps.length
  | [] => Nat.le_refl _
  | p :: ps => by
    have := length_lastById_le ps
    rw [lastById_cons]
    split <;> simp only [List.length_cons] <;> omega

/-- Keeping the last partition of each id keeps them all only when ids are distinct. -/
theorem nodup_of_length_lastById :
    ∀ {ps : List Partition}, (lastById ps).length = ps.length → (ps.map (·.id)).Nodup
  | [], _ => List.nodup_nil
  | p :: ps, h => by
    have hle := length_lastById_le ps
    rw [lastById_cons] at h
    split at h
    · simp only [List.length_cons] at h
      omega
    · rename_i hany
      simp only [List.length_cons, Nat.add_right_cancel_iff] at h
      refine List.nodup_cons.2 ⟨fun hp => hany ?_, nodup_of_length_lastById h⟩
      obtain ⟨q, hq, hqid⟩ := List.mem_map.1 (mem_ids_lastById.2 hp)
      exact List.any_eq_true.2 ⟨q, hq, beq_iff_eq.2 hqid⟩

namespace PartitionTree

/-- A list has a tree when exactly one of its partitions is a root; the tree keeps the last
partition of each id and is rooted at that root's id. -/
theorem ofPartitions_eq_ok_inv {ps : List Partition} {t : PartitionTree}
    (h : ofPartitions ps = .ok t) :
    ∃ r ∈ ps, r.parentId = none ∧ (∀ q ∈ ps, q.parentId = none → q = r) ∧
      t = ⟨r.id, lastById ps⟩ := by
  unfold ofPartitions at h
  split at h
  · cases h
  · rename_i rid hroots
    obtain ⟨r, hfilter, rfl⟩ := List.map_eq_singleton_iff.1 hroots
    have hr := List.mem_filter.1 (hfilter ▸ List.mem_singleton_self r)
    refine ⟨r, hr.1, by simpa [Partition.isRoot] using hr.2, fun q hq hqroot => ?_,
      (Except.ok.inj h).symm⟩
    have hqf : q ∈ ps.filter Partition.isRoot :=
      List.mem_filter.2 ⟨hq, by simp [Partition.isRoot, hqroot]⟩
    rw [hfilter] at hqf
    exact List.mem_singleton.1 hqf
  · cases h

end PartitionTree

namespace Partition

/-! ## The checks, link by link -/

/-- What the checks on a list of partitions ask: distinct ids and exactly one root, and of each
partition that its id holds no NUL, that it is a leaf exactly when it lists no children, that its
parent is stored and lists it, and that the children it lists are stored. -/
structure LinksChecked (ps : List Partition) : Prop where
  ids_nodup : (ps.map (·.id)).Nodup
  root : ∃ r ∈ ps, r.parentId = none ∧ ∀ q ∈ ps, q.parentId = none → q = r
  ids_valid : ∀ p ∈ ps, '\x00' ∉ p.id.toList
  leaf_iff : ∀ p ∈ ps, p.isLeaf = true ↔ p.childIds = []
  parent_lists : ∀ p ∈ ps, ∀ pid, p.parentId = some pid → ∃ q ∈ ps, q.id = pid ∧ p.id ∈ q.childIds
  children_stored : ∀ p ∈ ps, ∀ c ∈ p.childIds, ∃ q ∈ ps, q.id = c

/-- What the checks on one partition of a tree ask. -/
theorem of_validateMember_eq_ok {t : PartitionTree} {p : Partition}
    (h : validateMember t p = .ok ()) :
    '\x00' ∉ p.id.toList ∧ (p.isLeaf = true ↔ p.childIds = []) ∧
      (∀ pid, p.parentId = some pid → ∃ q, t.find? pid = some q ∧ p.id ∈ q.childIds) ∧
      ∃ cs, t.children p.id = .ok cs := by
  unfold validateMember at h
  -- each check in turn: one that fails makes the whole an error
  cases hid : validateIdentifier p.id with
  | error e => simp [hid] at h
  | ok u =>
    have hleaf : p.isLeaf = p.childIds.isEmpty := by
      by_contra hne
      simp [hid, hne] at h
    have hparent : ∀ pid, p.parentId = some pid → ∃ q, t.find? pid = some q ∧ p.id ∈ q.childIds := by
      intro pid hpid
      cases hq : t.find? pid with
      | none => simp [hid, hleaf, hpid, hq] at h
      | some q =>
        by_cases hmem : p.id ∈ q.childIds
        · exact ⟨q, rfl, hmem⟩
        · simp [hid, hleaf, hpid, hq, hmem] at h
    have hchildren : ∃ cs, t.children p.id = .ok cs := by
      cases hcs : t.children p.id with
      | ok cs => exact ⟨cs, rfl⟩
      | error e =>
        rcases hp : p.parentId with _ | pid
        · simp [hid, hleaf, hp, hcs] at h
        · obtain ⟨q, hq, hmem⟩ := hparent pid hp
          simp [hid, hleaf, hp, hq, hmem, hcs] at h
    exact ⟨validateIdentifier_eq_ok_iff.1 hid, by rw [hleaf, List.isEmpty_iff], hparent, hchildren⟩

/-- The checks on a list pass exactly when ids are distinct, one partition is the root, and each
partition's id holds no NUL, it is a leaf exactly when it lists no children, its parent is stored
and lists it, and its children are stored. -/
theorem validateList_eq_ok_iff {ps : List Partition} : validateList ps = .ok () ↔ LinksChecked ps := by
  constructor
  · intro h
    unfold validateList at h
    cases htree : PartitionTree.ofPartitions ps with
    | error e => simp [htree] at h
    | ok t =>
      obtain ⟨r, hr, hroot, hunique, rfl⟩ := PartitionTree.ofPartitions_eq_ok_inv htree
      -- the count of distinct ids is the length of the list
      have hnd : (ps.map (·.id)).Nodup := by
        by_contra hnd'
        have hlen : (lastById ps).length ≠ ps.length := fun hl => hnd' (nodup_of_length_lastById hl)
        simp [htree, PartitionTree.size, hlen] at h
      have hmembers : ps.forM (validateMember ⟨r.id, ps⟩) = .ok () := by
        simpa [htree, PartitionTree.size, lastById_of_nodup hnd] using h
      -- every partition passes its own checks in the tree of the list
      have hchecks := fun p hp => of_validateMember_eq_ok (List.forall_of_forM_eq_ok hmembers p hp)
      refine ⟨hnd, ⟨r, hr, hroot, hunique⟩, fun p hp => (hchecks p hp).1,
        fun p hp => (hchecks p hp).2.1, fun p hp pid hpid => ?_, fun p hp c hc => ?_⟩
      · obtain ⟨q, hq, hmem⟩ := (hchecks p hp).2.2.1 pid hpid
        obtain ⟨hqmem, rfl⟩ := PartitionTree.find?_eq_some hq
        exact ⟨q, hqmem, rfl, hmem⟩
      · obtain ⟨cs, hcs⟩ := (hchecks p hp).2.2.2
        obtain ⟨p', hp', hrel⟩ := PartitionTree.children_eq_ok hcs
        rw [PartitionTree.find?_of_mem (t := ⟨r.id, ps⟩) hnd hp] at hp'
        cases hp'
        obtain ⟨q, -, hq⟩ := hrel.exists_of_mem_left hc
        obtain ⟨hqmem, rfl⟩ := PartitionTree.find?_eq_some hq
        exact ⟨q, hqmem, rfl⟩
  · intro h
    obtain ⟨r, hr, hroot, hunique⟩ := h.root
    have hfind : ∀ q ∈ ps, (⟨r.id, ps⟩ : PartitionTree).find? q.id = some q :=
      fun q hq => find?_id_of_mem h.ids_nodup hq
    have hmember : ∀ p ∈ ps, validateMember ⟨r.id, ps⟩ p = .ok () := by
      intro p hp
      refine validateMember_eq_ok (h.ids_valid p hp) (h.leaf_iff p hp) (fun pid hpid => ?_)
        (hfind p hp) (fun c hc => ?_)
      · obtain ⟨q, hq, rfl, hmem⟩ := h.parent_lists p hp pid hpid
        exact ⟨q, hfind q hq, hmem⟩
      · obtain ⟨q, hq, rfl⟩ := h.children_stored p hp c hc
        exact ⟨q, hfind q hq⟩
    simp only [validateList, PartitionTree.ofPartitions_eq_ok h.ids_nodup hr hroot
      (fun q hq hq' => by rw [hunique q hq hq']), pure_bind, PartitionTree.size,
      bne_self_eq_false, Bool.false_eq_true, if_false]
    exact List.forM_eq_ok_of_forall hmember

/-! ## The walk on a list that passes -/

/-- The checks on a list pass exactly when its links pass their one-sided checks
(`LinksChecked`). They do not ask that a listed child name its lister as its parent; when every
one does, the list has a tree, and the walk to every key's leaf in it ends. -/
theorem validateList_links_descent (ps : List Partition) :
    (validateList ps = .ok () ↔ LinksChecked ps) ∧
      (validateList ps = .ok () →
        (∀ p ∈ ps, ∀ c ∈ p.childIds, ∃ q ∈ ps, q.id = c ∧ q.parentId = some p.id) →
        ∃ t, PartitionTree.ofPartitions ps = .ok t ∧ ∀ k, (t.leafForKey k).isSome) := by
  refine ⟨validateList_eq_ok_iff, fun h hlinks => ?_⟩
  have hc := validateList_eq_ok_iff.1 h
  obtain ⟨r, hr, hroot, hunique⟩ := hc.root
  refine ⟨⟨r.id, ps⟩, PartitionTree.ofPartitions_eq_ok hc.ids_nodup hr hroot
    (fun q hq hq' => by rw [hunique q hq hq']), fun k => ?_⟩
  exact PartitionTree.leafForKey_isSome hc.ids_nodup (find?_id_of_mem hc.ids_nodup hr) hroot
    (fun p hp _ => hlinks p hp)

/-- The root of a long key split at zero, with its two children, passes the checks; each child
names the root, and the walk for every key ends. -/
theorem root_split_links_descent :
    let ps : List Partition :=
      [⟨"root", Region.full (.single "key" .long), false, none, ["L", "R"], some 0⟩,
        .leaf "L" ⟨[⟨"key", KeyType.long.minValue, some (.long 0)⟩]⟩ (some "root"),
        .leaf "R" ⟨[⟨"key", .long 0, none⟩]⟩ (some "root")]
    validateList ps = .ok () ∧
      (∀ p ∈ ps, ∀ c ∈ p.childIds, ∃ q ∈ ps, q.id = c ∧ q.parentId = some p.id) ∧
      ∃ t, PartitionTree.ofPartitions ps = .ok t ∧ ∀ k, (t.leafForKey k).isSome := by
  intro ps
  have hvalid : validateList ps = .ok () := by decide
  have hlinks : ∀ p ∈ ps, ∀ c ∈ p.childIds, ∃ q ∈ ps, q.id = c ∧ q.parentId = some p.id := by
    decide
  exact ⟨hvalid, hlinks, (validateList_links_descent ps).2 hvalid hlinks⟩

/-- The checks let through parent links that run round a circle: here `A` names the root as its
parent and `B` names `A`, while `B` lists `A` as its child. The list passes, and the walk for a
key goes from the root to `A`, to `B`, back to `A`, and never ends. -/
theorem validateList_passes_endless_descent :
    let ps : List Partition :=
      [⟨"R", ⟨[]⟩, false, none, ["A"], none⟩, ⟨"A", ⟨[]⟩, false, some "R", ["B"], none⟩,
        ⟨"B", ⟨[]⟩, false, some "A", ["A"], none⟩]
    validateList ps = .ok () ∧
      ∃ t, PartitionTree.ofPartitions ps = .ok t ∧ t.leafForKey ⟨[]⟩ = none :=
  ⟨by decide, _, rfl, by decide⟩

end Partition

end TableState
