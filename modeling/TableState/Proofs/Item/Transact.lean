import TableState.Proofs.Item.Table

/-!
# Transactions as a sequential fold over a map

An item table holds a map from keys to items (`ItemTable.Represents`): its keys increase and a
lookup finds what the map holds. Two tables that hold one map are the same table
(`Represents.unique`), so every lookup and every scan of a table is a function of its map.

The meaning of a transaction is stated on maps, write by write. Write `i` meets the map that the
writes before it leave (`ItemMap.applied` of the first `i` writes). It fails when it updates a
key that holds no item, or when its condition does not hold of the item under its key
(`ItemMap.Fails`); otherwise its key comes to hold what it leaves, or nothing. On a table that
holds `M`, a transaction commits when no write fails, and the table then holds the map after
all the writes; otherwise it reports the position and key of the first write that fails and
keeps the table as it was (`ItemTable.transact_spec`).
-/

set_option autoImplicit false

namespace TableState

namespace Condition

/-- A conjunction of conditions holds when each of them holds. -/
@[simp] theorem holds_all (cs : List Condition) (cur : Option Item) :
    (all cs).holds cur = cs.all fun c => c.holds cur := by
  rw [holds]
  induction cs with
  | nil => rfl
  | cons c cs ih => rw [holdsAll, ih, List.all_cons]

end Condition

namespace WriteOp

/-- Whether a write is an update. -/
def IsUpdate (op : WriteOp) : Prop :=
  ∃ k s rm c, op = .update k s rm c

end WriteOp

/-- A map from keys to the items stored under them. -/
abbrev ItemMap := String → Option Item

namespace ItemMap

/-- The map after one write, taken without its check: the write's key holds what it leaves. -/
def write (M : ItemMap) (op : WriteOp) : ItemMap :=
  Function.update M op.key (op.apply (M op.key))

/-- The map after writes taken in order, each without its check. -/
def applied (M : ItemMap) : List WriteOp → ItemMap
  | [] => M
  | op :: ops => applied (M.write op) ops

/-- Write `i` fails on the map that the writes before it leave: it updates a key that holds no
item, or its condition does not hold of the item under its key. -/
def Fails (M : ItemMap) (ops : List WriteOp) (i : Nat) : Prop :=
  ∃ op, ops[i]? = some op ∧
    (op.IsUpdate ∧ M.applied (ops.take i) op.key = none ∨
      op.condition.holds (M.applied (ops.take i) op.key) = false)

@[simp] theorem applied_nil (M : ItemMap) : M.applied [] = M := rfl

@[simp] theorem applied_cons (M : ItemMap) (op : WriteOp) (ops : List WriteOp) :
    M.applied (op :: ops) = (M.write op).applied ops := rfl

/-- A write that is not admitted by the item under its key is one that fails. -/
theorem admitsItem_eq_false_iff (op : WriteOp) (cur : Option Item) :
    ItemTable.admitsItem op cur = false ↔
      op.IsUpdate ∧ cur = none ∨ op.condition.holds cur = false := by
  cases op <;> cases cur <;> simp [ItemTable.admitsItem, WriteOp.IsUpdate, WriteOp.condition]

/-- The first write fails when the map does not admit it. -/
theorem fails_zero (M : ItemMap) (op : WriteOp) (ops : List WriteOp) :
    M.Fails (op :: ops) 0 ↔ ItemTable.admitsItem op (M op.key) = false := by
  rw [admitsItem_eq_false_iff]
  simp [Fails]

/-- A later write fails exactly when it fails after the first write has been taken. -/
theorem fails_succ (M : ItemMap) (op : WriteOp) (ops : List WriteOp) (i : Nat) :
    M.Fails (op :: ops) (i + 1) ↔ (M.write op).Fails ops i := by
  simp [Fails]

end ItemMap

namespace ItemTable

/-- A table holds a map: its keys increase, and a lookup finds what the map holds. -/
structure Represents (t : ItemTable) (M : ItemMap) : Prop where
  sorted : t.Sorted
  get? : ∀ k, t.get? k = M k

theorem represents_empty : ItemTable.empty.Represents fun _ => none :=
  ⟨sorted_empty, fun _ => rfl⟩

/-- A table is determined by the map it holds: its entries are that map's bindings in key
order. -/
theorem Represents.unique {t u : ItemTable} {M : ItemMap} (ht : t.Represents M)
    (hu : u.Represents M) : t = u := by
  have hmem : ∀ x, x ∈ t.entries ↔ x ∈ u.entries := by
    rintro ⟨k, i⟩
    rw [ht.sorted.mem_entries_iff, hu.sorted.mem_entries_iff, ht.get?, hu.get?]
  have h := BindingsSorted.eq_of_mem_iff ht.sorted hu.sorted hmem
  cases t
  cases u
  cases h
  rfl

theorem Represents.admits {t : ItemTable} {M : ItemMap} (ht : t.Represents M) (op : WriteOp) :
    t.admits op = admitsItem op (M op.key) := by
  rw [admits_eq, ht.get?]

/-- Storing what a write leaves under its key takes the table to the map after the write. -/
theorem Represents.store {t : ItemTable} {M : ItemMap} (ht : t.Represents M) (op : WriteOp) :
    (t.store op.key (op.apply (t.get? op.key))).Represents (M.write op) := by
  refine ⟨ht.sorted.store _ _, fun k => ?_⟩
  simp only [get?_store, ItemMap.write, Function.update_apply, ht.get?]

/-- The run lemma: from position `n`, the writes apply to a table that holds `M` as they do to
`M`. When none fails the table comes to hold the map after all of them; when write `i` is the
first that fails, the run stops there and reports its position and key. -/
theorem Represents.applyAll {t : ItemTable} {M : ItemMap} (ht : t.Represents M) (n : Nat)
    (ops : List WriteOp) :
    ((∀ i, ¬M.Fails ops i) → ∃ t', t.applyAll n ops = .ok t' ∧ t'.Represents (M.applied ops)) ∧
      (∀ i op, ops[i]? = some op → M.Fails ops i → (∀ j < i, ¬M.Fails ops j) →
        t.applyAll n ops = .error (n + i, op.key)) := by
  induction ops generalizing t M n with
  | nil =>
    refine ⟨fun _ => ⟨t, rfl, ht⟩, fun i op hop => ?_⟩
    simp at hop
  | cons op ops ih =>
    have ih' := ih (ht.store op) (n + 1)
    rw [applyAll_cons, ht.admits]
    -- the first write is admitted, or it is the first to fail
    by_cases hadm : admitsItem op (M op.key) = true
    · have hok : ¬M.Fails (op :: ops) 0 := by
        simp [ItemMap.fails_zero, hadm]
      rw [if_pos hadm, ItemMap.applied_cons]
      refine ⟨fun hnone => ih'.1 fun i hi => hnone (i + 1) ((ItemMap.fails_succ ..).2 hi), ?_⟩
      rintro (_ | i) o ho hfail hfirst
      · exact absurd hfail hok
      · rw [List.getElem?_cons_succ] at ho
        rw [ih'.2 i o ho ((ItemMap.fails_succ ..).1 hfail) fun j hj hj' =>
          hfirst (j + 1) (by omega) ((ItemMap.fails_succ ..).2 hj')]
        congr 2
        omega
    · have hfail : M.Fails (op :: ops) 0 := by
        rw [ItemMap.fails_zero]
        simpa using hadm
      rw [if_neg hadm]
      refine ⟨fun hnone => absurd hfail (hnone 0), ?_⟩
      rintro (_ | i) o ho _ hfirst
      · cases ho
        rfl
      · exact absurd hfail (hfirst 0 (by omega))

/-- A transaction is a sequential fold over the map the table holds, all or nothing: when no
write fails it commits and the table comes to hold the map after every write; otherwise it
reports the first write that fails, by position and key, and the table stays as it was. -/
theorem transact_spec {t : ItemTable} {M : ItemMap} (ht : t.Represents M)
    (ops : List WriteOp) :
    ((∀ i, ¬M.Fails ops i) →
        (t.transact ops).1 = .committed ∧ (t.transact ops).2.Represents (M.applied ops)) ∧
      (∀ i op, ops[i]? = some op → M.Fails ops i → (∀ j < i, ¬M.Fails ops j) →
        t.transact ops = (.conditionFailed i op.key, t)) := by
  obtain ⟨hcommit, hfail⟩ := ht.applyAll 0 ops
  refine ⟨fun hnone => ?_, fun i op hop hi hfirst => ?_⟩
  · obtain ⟨t', ha, ht'⟩ := hcommit hnone
    rw [transact, ha]
    exact ⟨rfl, ht'⟩
  · rw [transact, hfail i op hop hi hfirst, Nat.zero_add]

/-- A write that inserts under a key fails on a key that an earlier write of the same
transaction filled, and the whole transaction is undone. -/
theorem transact_second_insert_refused :
    ItemTable.empty.Represents (fun _ => none) ∧
      ItemTable.empty.transact [.put "a" .empty .absent, .put "a" .empty .absent] =
        (.conditionFailed 1 "a", ItemTable.empty) := by
  refine ⟨represents_empty,
    (transact_spec represents_empty [.put "a" .empty .absent, .put "a" .empty .absent]).2 1
      (.put "a" .empty .absent) rfl ?_ ?_⟩
  · exact ⟨_, rfl, .inr (by simp [ItemMap.write, WriteOp.apply, WriteOp.condition,
      Condition.holds])⟩
  · intro j hj hfail
    obtain rfl : j = 0 := by omega
    obtain ⟨op, hop, h⟩ := hfail
    cases hop
    simp [WriteOp.IsUpdate, WriteOp.condition, Condition.holds] at h

end ItemTable

end TableState
