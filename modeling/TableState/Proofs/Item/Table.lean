import TableState.Item.Table
import Mathlib.Data.String.Basic

/-!
# Item tables: lookups after writes

Items and item tables both keep bindings under string names in increasing order, written by
one insertion that replaces the binding of the same name or adds one at its place. A lookup
after `set` or `put` finds the new value under its name and the old values under every other;
this holds of any list of bindings, sorted or not. Every table that writes build from the empty
one keeps its keys increasing, so a key is bound at most once and an entry is in the table
exactly when a lookup finds it.

A transaction whose writes go to distinct keys commits exactly when every write is admitted by
the table as it was before the transaction, and then each key holds what its write left there.

Main statements:

* `insertBinding`, with `Item.insertSorted_eq` and `ItemTable.insertSorted_eq`.
* `Item.get?_set`, `Item.get?_erase`, `Item.get?_merge`; `ItemTable.get?_put`,
  `ItemTable.get?_erase`, `ItemTable.get?_store`.
* `ItemTable.Sorted` and its preservation; `ItemTable.mem_entries_iff`.
* `ItemTable.applyAll_isOk_iff`, `ItemTable.get?_of_applyAll`: transactions over distinct keys.
-/

set_option autoImplicit false

namespace TableState

section Bindings

variable {β : Type}

/-- Binds `k` to `v` in bindings sorted by name: the binding of `k` is replaced, or a new one is
placed before the first greater name. -/
def insertBinding (k : String) (v : β) : List (String × β) → List (String × β)
  | [] => [(k, v)]
  | (n, w) :: rest =>
    if k < n then (k, v) :: (n, w) :: rest
    else if k = n then (k, v) :: rest
    else (n, w) :: insertBinding k v rest

/-- The first binding of a name. -/
def findBinding (l : List (String × β)) (m : String) : Option (String × β) :=
  l.find? (·.1 == m)

/-- Bindings whose names strictly increase. -/
def BindingsSorted (l : List (String × β)) : Prop :=
  l.Pairwise fun a b => a.1 < b.1

theorem findBinding_cons (a : String × β) (l : List (String × β)) (m : String) :
    findBinding (a :: l) m = if a.1 = m then some a else findBinding l m := by
  by_cases h : a.1 = m <;> simp [findBinding, h]

@[simp]
theorem findBinding_nil (m : String) : findBinding ([] : List (String × β)) m = none :=
  rfl

/-- Every binding passed over by `insertBinding` has a name other than the one inserted, so the
new binding is the first of its name and the others are found as before. -/
theorem findBinding_insertBinding (k m : String) (v : β) (l : List (String × β)) :
    findBinding (insertBinding k v l) m = if m = k then some (k, v) else findBinding l m := by
  induction l with
  | nil =>
    rw [insertBinding, findBinding_cons]
    by_cases h : m = k
    · subst h
      simp
    · simp [h, Ne.symm h]
  | cons a rest ih =>
    obtain ⟨n, w⟩ := a
    by_cases hlt : k < n
    · rw [insertBinding, if_pos hlt, findBinding_cons]
      by_cases h : m = k
      · subst h
        simp
      · simp [h, Ne.symm h]
    · rw [insertBinding, if_neg hlt]
      by_cases heq : k = n
      · subst heq
        rw [if_pos rfl]
        simp only [findBinding_cons]
        by_cases h : m = k
        · subst h
          simp
        · simp [h, Ne.symm h]
      · rw [if_neg heq, findBinding_cons, ih, findBinding_cons]
        by_cases h : m = k
        · subst h
          simp [Ne.symm heq]
        · simp [h]

theorem mem_insertBinding {k : String} {v : β} {l : List (String × β)} {x : String × β}
    (h : x ∈ insertBinding k v l) : x = (k, v) ∨ x ∈ l := by
  induction l with
  | nil => simpa [insertBinding] using h
  | cons a rest ih =>
    obtain ⟨n, w⟩ := a
    unfold insertBinding at h
    split_ifs at h with hlt heq
    · simpa using h
    · rcases List.mem_cons.1 h with rfl | h
      · exact Or.inl rfl
      · exact Or.inr (List.mem_cons_of_mem _ h)
    · rcases List.mem_cons.1 h with rfl | h
      · exact Or.inr List.mem_cons_self
      · rcases ih h with rfl | h
        · exact Or.inl rfl
        · exact Or.inr (List.mem_cons_of_mem _ h)

theorem BindingsSorted.insertBinding {l : List (String × β)} (h : BindingsSorted l) (k : String)
    (v : β) : BindingsSorted (TableState.insertBinding k v l) := by
  induction l with
  | nil => simp [TableState.insertBinding, BindingsSorted]
  | cons a rest ih =>
    obtain ⟨n, w⟩ := a
    have hrest := (List.pairwise_cons.1 h).2
    have hn : ∀ y ∈ rest, n < y.1 := (List.pairwise_cons.1 h).1
    unfold TableState.insertBinding
    split_ifs with hlt heq
    · refine List.Pairwise.cons ?_ h
      intro y hy
      rcases List.mem_cons.1 hy with rfl | hy
      · exact hlt
      · exact lt_trans hlt (hn y hy)
    · subst heq
      exact List.Pairwise.cons hn hrest
    · have hgt : n < k := lt_of_le_of_ne (not_lt.1 hlt) (Ne.symm heq)
      refine List.Pairwise.cons ?_ (ih hrest)
      intro y hy
      rcases mem_insertBinding hy with rfl | hy
      · exact hgt
      · exact hn y hy

theorem BindingsSorted.filter {l : List (String × β)} (h : BindingsSorted l) (p : String × β → Bool) :
    BindingsSorted (l.filter p) :=
  List.Pairwise.sublist List.filter_sublist h

theorem findBinding_filter_ne (l : List (String × β)) (k m : String) :
    findBinding (l.filter (·.1 != k)) m = if m = k then none else findBinding l m := by
  induction l with
  | nil => simp [findBinding]
  | cons a rest ih =>
    by_cases hak : a.1 = k
    · have : (a.1 != k) = false := by simp [hak]
      rw [List.filter_cons, if_neg (by simp [this]), ih, findBinding_cons]
      by_cases hm : m = k
      · simp [hm]
      · simp [hm, show a.1 ≠ m from fun e => hm (e ▸ hak)]
    · have : (a.1 != k) = true := by simp [hak]
      rw [List.filter_cons, if_pos this, findBinding_cons, ih, findBinding_cons]
      by_cases hm : m = k
      · simp [hm, hak]
      · simp [hm]

/-- In sorted bindings a name is bound once, so a binding is present exactly when it is the
first of its name. -/
theorem BindingsSorted.mem_iff {l : List (String × β)} (h : BindingsSorted l) (k : String) (v : β) :
    (k, v) ∈ l ↔ findBinding l k = some (k, v) := by
  induction l with
  | nil => simp [findBinding]
  | cons a rest ih =>
    have hrest := (List.pairwise_cons.1 h).2
    have ha : ∀ y ∈ rest, a.1 < y.1 := (List.pairwise_cons.1 h).1
    rw [findBinding_cons, List.mem_cons, ih hrest]
    by_cases hak : a.1 = k
    · have hnot : (k, v) ∉ rest := fun hm => lt_irrefl k (by simpa [hak] using ha _ hm)
      rw [if_pos hak, ← ih hrest]
      constructor
      · rintro (rfl | hm)
        · rfl
        · exact absurd hm hnot
      · intro e
        exact Or.inl (Option.some.inj e).symm
    · rw [if_neg hak]
      constructor
      · rintro (rfl | hm)
        · exact absurd rfl hak
        · exact hm
      · exact Or.inr

/-- Sorted bindings with the same members are the same list: the least name comes first in
both. -/
theorem BindingsSorted.eq_of_mem_iff {l l' : List (String × β)} (h : BindingsSorted l)
    (h' : BindingsSorted l') (hmem : ∀ x, x ∈ l ↔ x ∈ l') : l = l' := by
  induction l generalizing l' with
  | nil =>
    cases l' with
    | nil => rfl
    | cons b _ => exact absurd ((hmem b).2 List.mem_cons_self) List.not_mem_nil
  | cons a l ih =>
    cases l' with
    | nil => exact absurd ((hmem a).1 List.mem_cons_self) List.not_mem_nil
    | cons b l' =>
      have ha := List.pairwise_cons.1 h
      have hb := List.pairwise_cons.1 h'
      have hab : a = b := by
        rcases List.mem_cons.1 ((hmem a).1 List.mem_cons_self) with e | hal'
        · exact e
        rcases List.mem_cons.1 ((hmem b).2 List.mem_cons_self) with e | hbl
        · exact e.symm
        · exact absurd (lt_trans (hb.1 a hal') (ha.1 b hbl)) (lt_irrefl _)
      subst hab
      -- below the common head, each list holds what the other does
      have htail : ∀ x, x ∈ l ↔ x ∈ l' := by
        intro x
        constructor
        · intro hx
          rcases List.mem_cons.1 ((hmem x).1 (List.mem_cons_of_mem _ hx)) with rfl | hx'
          · exact absurd (ha.1 x hx) (lt_irrefl _)
          · exact hx'
        · intro hx
          rcases List.mem_cons.1 ((hmem x).2 (List.mem_cons_of_mem _ hx)) with rfl | hx'
          · exact absurd (hb.1 x hx) (lt_irrefl _)
          · exact hx'
      rw [ih ha.2 hb.2 htail]

/-- A lookup finds a binding of the name looked up. -/
theorem findBinding_eq_some {l : List (String × β)} {m : String} {x : String × β}
    (h : findBinding l m = some x) : x = (m, x.2) := by
  have := List.find?_some h
  simp only [beq_iff_eq] at this
  rw [← this]

end Bindings

namespace Item

theorem insertSorted_eq (name : String) (v : AttrValue) (l : List (String × AttrValue)) :
    insertSorted name v l = insertBinding name v l := by
  induction l with
  | nil => rfl
  | cons a rest ih =>
    obtain ⟨n, w⟩ := a
    simp only [insertSorted, insertBinding, ih]

theorem get?_eq_findBinding (i : Item) (m : String) : i.get? m = (findBinding i.attrs m).map (·.2) :=
  rfl

@[simp]
theorem get?_set (i : Item) (name m : String) (v : AttrValue) :
    (i.set name v).get? m = if m = name then some v else i.get? m := by
  simp only [get?_eq_findBinding, set, insertSorted_eq, findBinding_insertBinding]
  split <;> simp

@[simp]
theorem get?_empty (m : String) : Item.empty.get? m = none :=
  rfl

@[simp]
theorem get?_erase (i : Item) (name m : String) :
    (i.erase name).get? m = if m = name then none else i.get? m := by
  simp only [get?_eq_findBinding, erase, findBinding_filter_ne]
  split <;> simp

/-- Attribute names strictly increasing, as every item built by `set` from the empty one. -/
def Sorted (i : Item) : Prop :=
  BindingsSorted i.attrs

theorem sorted_empty : Item.empty.Sorted :=
  List.Pairwise.nil

theorem Sorted.set {i : Item} (h : i.Sorted) (name : String) (v : AttrValue) :
    (i.set name v).Sorted := by
  unfold Sorted Item.set
  rw [insertSorted_eq]
  exact BindingsSorted.insertBinding h name v

/-- Merging sets every attribute of the other item; since the other item names each attribute
once, a lookup finds its value there, and otherwise the value it had. -/
theorem get?_merge (i : Item) {other : Item} (h : other.Sorted) (m : String) :
    (i.merge other).get? m = (other.get? m).or (i.get? m) := by
  obtain ⟨attrs⟩ := other
  induction attrs generalizing i with
  | nil => simp [merge, get?]
  | cons a rest ih =>
    have hrest : Sorted ⟨rest⟩ := (List.pairwise_cons.1 h).2
    have ha : ∀ y ∈ rest, a.1 < y.1 := (List.pairwise_cons.1 h).1
    have hmerge : i.merge ⟨a :: rest⟩ = (i.set a.1 a.2).merge ⟨rest⟩ := rfl
    rw [hmerge, ih _ hrest, get?_set]
    have hcons : get? ⟨a :: rest⟩ m = if a.1 = m then some a.2 else get? ⟨rest⟩ m := by
      simp only [get?_eq_findBinding, findBinding_cons]
      split <;> rfl
    rw [hcons]
    by_cases hm : m = a.1
    · subst hm
      have hnone : get? ⟨rest⟩ a.1 = none := by
        simp only [get?_eq_findBinding, Option.map_eq_none_iff, findBinding, List.find?_eq_none]
        intro y hy e
        exact lt_irrefl _ ((beq_iff_eq.1 e) ▸ ha y hy)
      simp [hnone]
    · simp [hm, Ne.symm hm]

theorem Sorted.merge {i : Item} (h : i.Sorted) (other : Item) : (i.merge other).Sorted := by
  obtain ⟨attrs⟩ := other
  induction attrs generalizing i with
  | nil => exact h
  | cons a rest ih => exact ih (h.set a.1 a.2)

/-- Sorted items are determined by their attributes. -/
theorem ext_of_sorted {i j : Item} (hi : i.Sorted) (hj : j.Sorted)
    (h : ∀ m, i.get? m = j.get? m) : i = j := by
  -- a lookup returns the binding of its own name, so the bindings found are the values found
  have hfind : ∀ (k : Item) m, findBinding k.attrs m = (k.get? m).map fun v => (m, v) := by
    intro k m
    rw [get?_eq_findBinding, Option.map_map]
    cases hx : findBinding k.attrs m with
    | none => rfl
    | some x => exact congrArg some (findBinding_eq_some hx)
  have hattrs : i.attrs = j.attrs := BindingsSorted.eq_of_mem_iff hi hj fun x => by
    rw [BindingsSorted.mem_iff hi, BindingsSorted.mem_iff hj, hfind i, hfind j, h]
  cases i
  cases j
  cases hattrs
  rfl

end Item

namespace ItemTable

theorem insertSorted_eq (key : String) (i : Item) (l : List (String × Item)) :
    insertSorted key i l = insertBinding key i l := by
  induction l with
  | nil => rfl
  | cons a rest ih =>
    obtain ⟨n, w⟩ := a
    simp only [insertSorted, insertBinding, ih]

theorem get?_eq_findBinding (t : ItemTable) (k : String) :
    t.get? k = (findBinding t.entries k).map (·.2) :=
  rfl

@[simp]
theorem get?_empty (k : String) : ItemTable.empty.get? k = none :=
  rfl

@[simp]
theorem get?_put (t : ItemTable) (key k : String) (i : Item) :
    (t.put key i).get? k = if k = key then some i else t.get? k := by
  simp only [get?_eq_findBinding, put, insertSorted_eq, findBinding_insertBinding]
  split <;> simp

@[simp]
theorem get?_erase (t : ItemTable) (key k : String) :
    (t.erase key).get? k = if k = key then none else t.get? k := by
  simp only [get?_eq_findBinding, erase, findBinding_filter_ne]
  split <;> simp

@[simp]
theorem get?_store (t : ItemTable) (key k : String) (v : Option Item) :
    (t.store key v).get? k = if k = key then v else t.get? k := by
  cases v with
  | some i => simp [store]
  | none => simp [store]

/-- Keys strictly increasing. -/
def Sorted (t : ItemTable) : Prop :=
  BindingsSorted t.entries

theorem sorted_empty : ItemTable.empty.Sorted :=
  List.Pairwise.nil

theorem Sorted.put {t : ItemTable} (h : t.Sorted) (key : String) (i : Item) : (t.put key i).Sorted := by
  unfold Sorted ItemTable.put
  rw [insertSorted_eq]
  exact BindingsSorted.insertBinding h key i

theorem Sorted.erase {t : ItemTable} (h : t.Sorted) (key : String) : (t.erase key).Sorted :=
  BindingsSorted.filter h _

theorem Sorted.store {t : ItemTable} (h : t.Sorted) (key : String) (v : Option Item) :
    (t.store key v).Sorted := by
  cases v with
  | some i => exact h.put key i
  | none => exact h.erase key

/-- In a sorted table an entry is stored exactly when a lookup of its key finds its item. -/
theorem Sorted.mem_entries_iff {t : ItemTable} (h : t.Sorted) (k : String) (i : Item) :
    (k, i) ∈ t.entries ↔ t.get? k = some i := by
  rw [BindingsSorted.mem_iff h, get?_eq_findBinding]
  constructor
  · intro e
    rw [e]
    rfl
  · intro e
    obtain ⟨⟨k', i'⟩, hf, rfl⟩ := Option.map_eq_some_iff.1 e
    have hk : k' = k := by
      have := List.find?_some hf
      simpa using this
    subst hk
    exact hf

/-- Whether a write is admitted depends only on the item under its key. -/
def admitsItem (op : WriteOp) (cur : Option Item) : Bool :=
  let updatesMissing := match op with
    | .update .. => cur.isNone
    | _ => false
  !updatesMissing && op.condition.holds cur

theorem admits_eq (t : ItemTable) (op : WriteOp) : t.admits op = admitsItem op (t.get? op.key) :=
  rfl

theorem applyAll_nil (t : ItemTable) (n : Nat) : t.applyAll n [] = .ok t :=
  rfl

theorem applyAll_cons (t : ItemTable) (n : Nat) (op : WriteOp) (ops : List WriteOp) :
    t.applyAll n (op :: ops) =
      if t.admits op then (t.store op.key (op.apply (t.get? op.key))).applyAll (n + 1) ops
      else .error (n, op.key) :=
  rfl

theorem Sorted.applyAll {t t' : ItemTable} {n : Nat} {ops : List WriteOp} (h : t.Sorted)
    (ha : t.applyAll n ops = .ok t') : t'.Sorted := by
  induction ops generalizing t n with
  | nil =>
    cases ha
    exact h
  | cons op ops ih =>
    rw [applyAll_cons] at ha
    split at ha
    · exact ih (h.store _ _) ha
    · cases ha

/-- The item a transaction of writes to distinct keys leaves under a key: what the write to that
key leaves, or the item that was there. -/
def written (ops : List WriteOp) (t : ItemTable) (k : String) : Option Item :=
  match ops.find? (·.key == k) with
  | some op => op.apply (t.get? k)
  | none => t.get? k

theorem admits_store_of_ne (t : ItemTable) (key : String) (v : Option Item) {op : WriteOp}
    (h : op.key ≠ key) : (t.store key v).admits op = t.admits op := by
  rw [admits_eq, admits_eq, get?_store, if_neg h]

/-- After the first write of a transaction over distinct keys, the rest leave under each key
what the whole transaction leaves. -/
theorem written_store (t : ItemTable) (op : WriteOp) (ops : List WriteOp)
    (hnew : op.key ∉ ops.map WriteOp.key) (k : String) :
    written ops (t.store op.key (op.apply (t.get? op.key))) k = written (op :: ops) t k := by
  unfold written
  rw [List.find?_cons]
  by_cases hk : op.key = k
  · subst hk
    have hnone : ops.find? (·.key == op.key) = none := by
      rw [List.find?_eq_none]
      intro o ho e
      exact hnew ((beq_iff_eq.1 e) ▸ List.mem_map_of_mem ho)
    simp [hnone]
  · have hk' : (op.key == k) = false := by simpa using hk
    rw [hk']
    cases ops.find? (·.key == k) <;> simp [Ne.symm hk]

/-- A transaction of writes to distinct keys succeeds exactly when each write is admitted by the
table as it was. -/
theorem applyAll_isOk_iff (t : ItemTable) (n : Nat) (ops : List WriteOp)
    (hd : (ops.map WriteOp.key).Nodup) :
    (∃ t', t.applyAll n ops = .ok t') ↔ ∀ op ∈ ops, t.admits op = true := by
  induction ops generalizing t n with
  | nil => simp [applyAll_nil]
  | cons op ops ih =>
    rw [List.map_cons, List.nodup_cons] at hd
    obtain ⟨hnew, hd⟩ := hd
    have hadmits : ∀ o ∈ ops,
        (t.store op.key (op.apply (t.get? op.key))).admits o = t.admits o := fun o ho =>
      admits_store_of_ne t _ _ fun e => hnew (e ▸ List.mem_map_of_mem ho)
    rw [applyAll_cons]
    by_cases hop : t.admits op = true
    · rw [if_pos hop, ih _ _ hd, List.forall_mem_cons]
      constructor
      · intro hall
        exact ⟨hop, fun o ho => (hadmits o ho).symm.trans (hall o ho)⟩
      · rintro ⟨-, hall⟩ o ho
        exact (hadmits o ho).trans (hall o ho)
    · rw [if_neg hop]
      simp only [reduceCtorEq, exists_false, false_iff, List.forall_mem_cons, not_and]
      exact fun h => absurd h hop

/-- After a committed transaction of writes to distinct keys, each key holds what its write
left there. -/
theorem get?_of_applyAll {t t' : ItemTable} {n : Nat} {ops : List WriteOp}
    (hd : (ops.map WriteOp.key).Nodup) (ha : t.applyAll n ops = .ok t') (k : String) :
    t'.get? k = written ops t k := by
  induction ops generalizing t n with
  | nil =>
    cases ha
    rfl
  | cons op ops ih =>
    rw [List.map_cons, List.nodup_cons] at hd
    rw [applyAll_cons] at ha
    split at ha
    · rw [ih hd.2 ha, written_store t op ops hd.1]
    · cases ha

theorem transact_eq_committed {t t' : ItemTable} {ops : List WriteOp} :
    t.transact ops = (.committed, t') ↔ t.applyAll 0 ops = .ok t' := by
  unfold transact
  cases h : t.applyAll 0 ops with
  | ok r => simp
  | error e => simp

/-- A transaction either commits or leaves the table as it was. -/
theorem transact_cases (t : ItemTable) (ops : List WriteOp) :
    (t.transact ops).1 = .committed ∧ t.applyAll 0 ops = .ok (t.transact ops).2 ∨
      (t.transact ops).2 = t := by
  unfold transact
  cases h : t.applyAll 0 ops with
  | ok r => exact .inl ⟨rfl, rfl⟩
  | error e => exact .inr rfl

/-- A refused transaction returns its table as it was. -/
theorem transact_refused {t t' : ItemTable} {ops : List WriteOp} {i : Nat} {k : String}
    (h : t.transact ops = (.conditionFailed i k, t')) : t' = t := by
  rcases transact_cases t ops with ⟨hc, -⟩ | hsame
  · rw [h] at hc
    cases hc
  · rw [h] at hsame
    exact hsame

/-! ### The writes to one key

A transaction may write a key more than once; each write then sees what the writes before it
left. `applyWrites` follows one key through its writes: a committed transaction leaves under each
key what its own writes, applied in order to the item that was there, leave
(`applyWrites_of_applyAll`). -/

/-- Applies writes in order to the item under their key: the item they leave, or `none` when
one of them is not admitted. -/
def applyWrites : List WriteOp → Option Item → Option (Option Item)
  | [], cur => some cur
  | op :: ops, cur => if admitsItem op cur then applyWrites ops (op.apply cur) else none

theorem applyWrites_append (l₁ l₂ : List WriteOp) (cur : Option Item) :
    applyWrites (l₁ ++ l₂) cur = (applyWrites l₁ cur).bind (applyWrites l₂) := by
  induction l₁ generalizing cur with
  | nil => rfl
  | cons op l₁ ih =>
    simp only [List.cons_append, applyWrites]
    split
    · exact ih _
    · rfl

/-- A committed transaction leaves under each key what the writes to that key leave. -/
theorem applyWrites_of_applyAll {t t' : ItemTable} {n : Nat} {ops : List WriteOp}
    (ha : t.applyAll n ops = .ok t') (k : String) :
    applyWrites (ops.filter (·.key == k)) (t.get? k) = some (t'.get? k) := by
  induction ops generalizing t n with
  | nil =>
    cases ha
    rfl
  | cons op ops ih =>
    rw [applyAll_cons] at ha
    split at ha
    · rename_i hadm
      have hrest := ih ha
      rw [get?_store] at hrest
      rw [List.filter_cons]
      by_cases hk : op.key = k
      · subst hk
        rw [if_pos (by simp), applyWrites, ← admits_eq, if_pos hadm]
        rwa [if_pos rfl] at hrest
      · rw [if_neg (by simpa using hk)]
        rwa [if_neg (Ne.symm hk)] at hrest
    · cases ha

/-- Writes each refused on a stored item and each leaving an item, such as puts where no item
is: at most one of them applies to a key, and only where no item was. -/
theorem applyWrites_of_refused_present {l : List WriteOp}
    (hops : ∀ op ∈ l, (∀ i, admitsItem op (some i) = false) ∧ ∀ cur, (op.apply cur).isSome)
    {cur res : Option Item} (h : applyWrites l cur = some res) :
    (l = [] ∧ res = cur) ∨ ∃ op, l = [op] ∧ cur = none ∧ res = op.apply none := by
  match l, h with
  | [], h =>
    cases h
    exact .inl ⟨rfl, rfl⟩
  | [op], h =>
    simp only [applyWrites] at h
    split at h
    · rename_i hadm
      cases h
      cases cur with
      | none => exact .inr ⟨op, rfl, rfl, rfl⟩
      | some i => exact absurd hadm (by simp [(hops op (by simp)).1 i])
    · cases h
  | op :: op' :: ops, h =>
    simp only [applyWrites] at h
    split at h
    · -- the first write leaves an item, which the second refuses
      obtain ⟨i, hi⟩ := Option.isSome_iff_exists.1 ((hops op (by simp)).2 cur)
      rw [hi] at h
      simp only [(hops op' (by simp)).1 i, Bool.false_eq_true, if_false] at h
      cases h
    · cases h

/-- Writes each refused where no item is and each leaving none, such as deletes under a
condition on the stored item: at most one of them applies to a key, and removes its item. -/
theorem applyWrites_of_refused_absent {l : List WriteOp}
    (hops : ∀ op ∈ l, admitsItem op none = false ∧ ∀ cur, op.apply cur = none)
    {cur res : Option Item} (h : applyWrites l cur = some res) :
    (l = [] ∧ res = cur) ∨ ∃ op ∈ l, admitsItem op cur = true ∧ res = none := by
  match l, h with
  | [], h =>
    cases h
    exact .inl ⟨rfl, rfl⟩
  | op :: ops, h =>
    simp only [applyWrites] at h
    split at h
    · rename_i hadm
      rw [(hops op (by simp)).2 cur] at h
      cases ops with
      | nil =>
        cases h
        exact .inr ⟨op, by simp, hadm, rfl⟩
      | cons op' ops =>
        simp only [applyWrites, (hops op' (by simp)).1, Bool.false_eq_true, if_false] at h
        cases h
    · cases h

/-- Writes that only insert: each is refused on a stored item and leaves an item, as a put where
no item is does. -/
def Inserting (ops : List WriteOp) : Prop :=
  ∀ op ∈ ops, (∀ i, admitsItem op (some i) = false) ∧ ∀ cur, (op.apply cur).isSome

theorem Inserting.filter {ops : List WriteOp} (h : Inserting ops) (p : WriteOp → Bool) :
    Inserting (ops.filter p) :=
  fun op hop => h op (List.mem_of_mem_filter hop)

/-- After a committed transaction that only inserts, a key holds what it held, or the item of a
write to it where it held none. -/
theorem get?_of_applyAll_inserting {t t' : ItemTable} {n : Nat} {ops : List WriteOp}
    (hins : Inserting ops) (ha : t.applyAll n ops = .ok t') (k : String) :
    t'.get? k = t.get? k ∨ ∃ op ∈ ops, op.key = k ∧ t.get? k = none ∧ t'.get? k = op.apply none := by
  rcases applyWrites_of_refused_present (hins.filter _) (applyWrites_of_applyAll ha k) with
    ⟨-, hsame⟩ | ⟨op, hone, hnone, hres⟩
  · exact .inl hsame
  · have hop : op ∈ ops.filter (·.key == k) := by rw [hone]; exact List.mem_singleton_self op
    obtain ⟨hmem, hkey⟩ := List.mem_filter.1 hop
    exact .inr ⟨op, hmem, by simpa using hkey, hnone, hres⟩

/-- After a committed transaction that only inserts, each write has left its item. -/
theorem get?_of_applyAll_inserting_mem {t t' : ItemTable} {n : Nat} {ops : List WriteOp}
    (hins : Inserting ops) (ha : t.applyAll n ops = .ok t') {op : WriteOp} (hop : op ∈ ops) :
    t'.get? op.key = op.apply none := by
  have hin : op ∈ ops.filter (·.key == op.key) := List.mem_filter.2 ⟨hop, by simp⟩
  rcases applyWrites_of_refused_present (hins.filter _) (applyWrites_of_applyAll ha op.key) with
    ⟨hnil, -⟩ | ⟨op', hone, -, hres⟩
  · rw [hnil] at hin
    cases hin
  · rw [hone, List.mem_singleton] at hin
    rw [hres, hin]

/-- Before a committed transaction that only inserts, no item was under the key of any write. -/
theorem get?_eq_none_of_applyAll_inserting {t t' : ItemTable} {n : Nat} {ops : List WriteOp}
    (hins : Inserting ops) (ha : t.applyAll n ops = .ok t') {op : WriteOp} (hop : op ∈ ops) :
    t.get? op.key = none := by
  have hin : op ∈ ops.filter (·.key == op.key) := List.mem_filter.2 ⟨hop, by simp⟩
  rcases applyWrites_of_refused_present (hins.filter _) (applyWrites_of_applyAll ha op.key) with
    ⟨hnil, -⟩ | ⟨_, -, hnone, -⟩
  · rw [hnil] at hin
    cases hin
  · exact hnone

/-- A key that no write of a committed transaction goes to keeps its item. -/
theorem get?_of_applyAll_untouched {t t' : ItemTable} {n : Nat} {ops : List WriteOp}
    (ha : t.applyAll n ops = .ok t') {k : String} (hk : ∀ op ∈ ops, op.key ≠ k) :
    t'.get? k = t.get? k := by
  have hnil : ops.filter (·.key == k) = [] :=
    List.filter_eq_nil_iff.2 fun op hop => by simpa using hk op hop
  have := applyWrites_of_applyAll ha k
  rw [hnil] at this
  exact (Option.some.inj this).symm

/-- Writes that only remove: each is refused where no item is and leaves none, as a delete under
a condition on the stored item does. -/
def Removing (ops : List WriteOp) : Prop :=
  ∀ op ∈ ops, admitsItem op none = false ∧ ∀ cur, op.apply cur = none

theorem Removing.filter {ops : List WriteOp} (h : Removing ops) (p : WriteOp → Bool) :
    Removing (ops.filter p) :=
  fun op hop => h op (List.mem_of_mem_filter hop)

/-- After a committed transaction that only removes, a key holds what it held, or nothing after
a write to it that the item there admitted. -/
theorem get?_of_applyAll_removing {t t' : ItemTable} {n : Nat} {ops : List WriteOp}
    (hrem : Removing ops) (ha : t.applyAll n ops = .ok t') (k : String) :
    t'.get? k = t.get? k ∨
      ∃ op ∈ ops, op.key = k ∧ admitsItem op (t.get? k) = true ∧ t'.get? k = none := by
  rcases applyWrites_of_refused_absent (hrem.filter _) (applyWrites_of_applyAll ha k) with
    ⟨-, hsame⟩ | ⟨op, hop, hadm, hres⟩
  · exact .inl hsame
  · obtain ⟨hmem, hkey⟩ := List.mem_filter.1 hop
    exact .inr ⟨op, hmem, by simpa using hkey, hadm, hres⟩

/-- After a committed transaction that removes and then inserts, a key holds what it held,
nothing, or the item of an insert to it. -/
theorem get?_of_applyAll_replacing {t t' : ItemTable} {n : Nat} {dels ins : List WriteOp}
    (hrem : Removing dels) (hins : Inserting ins) (ha : t.applyAll n (dels ++ ins) = .ok t')
    (k : String) :
    t'.get? k = t.get? k ∨ t'.get? k = none ∨
      ∃ op ∈ ins, op.key = k ∧ t'.get? k = op.apply none := by
  have hw := applyWrites_of_applyAll ha k
  rw [List.filter_append, applyWrites_append] at hw
  obtain ⟨mid, hdel, hinsert⟩ := Option.bind_eq_some_iff.1 hw
  rcases applyWrites_of_refused_present (hins.filter _) hinsert with
    ⟨-, hsame⟩ | ⟨op, hone, -, hres⟩
  · rcases applyWrites_of_refused_absent (hrem.filter _) hdel with ⟨-, hmid⟩ | ⟨-, -, -, hmid⟩
    · exact .inl (hsame.trans hmid)
    · exact .inr (.inl (hsame.trans hmid))
  · have hop : op ∈ ins.filter (·.key == k) := by rw [hone]; exact List.mem_singleton_self op
    obtain ⟨hmem, hkey⟩ := List.mem_filter.1 hop
    exact .inr (.inr ⟨op, hmem, by simpa using hkey, hres⟩)

/-- After a committed transaction that ends with inserts, each insert has left its item. -/
theorem get?_of_applyAll_replacing_mem {t t' : ItemTable} {n : Nat} {dels ins : List WriteOp}
    (hins : Inserting ins) (ha : t.applyAll n (dels ++ ins) = .ok t')
    {op : WriteOp} (hop : op ∈ ins) : t'.get? op.key = op.apply none := by
  have hw := applyWrites_of_applyAll ha op.key
  rw [List.filter_append, applyWrites_append] at hw
  obtain ⟨mid, -, hinsert⟩ := Option.bind_eq_some_iff.1 hw
  have hin : op ∈ ins.filter (·.key == op.key) := List.mem_filter.2 ⟨hop, by simp⟩
  rcases applyWrites_of_refused_present (hins.filter _) hinsert with
    ⟨hnil, -⟩ | ⟨op', hone, -, hres⟩
  · rw [hnil] at hin
    cases hin
  · rw [hone, List.mem_singleton] at hin
    rw [hres, hin]

/-- After a committed transaction that ends with inserts, a key that no earlier write goes to and
that held an item keeps it. -/
theorem get?_of_applyAll_replacing_some {t t' : ItemTable} {n : Nat} {dels ins : List WriteOp}
    (hins : Inserting ins) (ha : t.applyAll n (dels ++ ins) = .ok t')
    {k : String} (hk : ∀ op ∈ dels, op.key ≠ k) {x : Item} (hx : t.get? k = some x) :
    t'.get? k = some x := by
  have hw := applyWrites_of_applyAll ha k
  rw [List.filter_append, applyWrites_append] at hw
  have hnil : dels.filter (·.key == k) = [] :=
    List.filter_eq_nil_iff.2 fun op hop => by simpa using hk op hop
  rw [hnil, hx] at hw
  rcases applyWrites_of_refused_present (hins.filter _) hw with ⟨-, hsame⟩ | ⟨-, -, hnone, -⟩
  · exact hsame
  · cases hnone

/-- Writes that only set attribute `a` of a stored item. -/
def SettingOnly (a : String) (ops : List WriteOp) : Prop :=
  ∀ op ∈ ops, ∃ k s c, op = .update k s [] c ∧ s.Sorted ∧ ∀ m, m ≠ a → s.get? m = none

theorem SettingOnly.filter {a : String} {ops : List WriteOp} (h : SettingOnly a ops)
    (p : WriteOp → Bool) : SettingOnly a (ops.filter p) :=
  fun op hop => h op (List.mem_of_mem_filter hop)

/-- Writes that only set attribute `a` leave an item only where one was, and keep its other
attributes. -/
theorem applyWrites_of_settingOnly {a : String} :
    ∀ {l : List WriteOp}, SettingOnly a l → ∀ {cur res : Option Item},
      applyWrites l cur = some res → ∀ i', res = some i' →
        ∃ i, cur = some i ∧ ∀ m, m ≠ a → i'.get? m = i.get? m
  | [], _, _, _, hw, i', hi' => by
    cases hw
    exact ⟨i', hi', fun _ _ => rfl⟩
  | op :: l, hs, cur, _, hw, i', hi' => by
    obtain ⟨k, s, c, rfl, hsorted, hnone⟩ := hs op List.mem_cons_self
    simp only [applyWrites] at hw
    split at hw
    · rename_i hadm
      cases cur with
      | none => simp [admitsItem] at hadm
      | some i₀ =>
        obtain ⟨i, hi, hagree⟩ := applyWrites_of_settingOnly
          (fun op hop => hs op (List.mem_cons_of_mem _ hop)) hw i' hi'
        simp only [WriteOp.apply, Option.map_some, List.foldl_nil, Option.some.injEq] at hi
        refine ⟨i₀, rfl, fun m hm => ?_⟩
        rw [hagree m hm, ← hi, Item.get?_merge _ hsorted, hnone m hm, Option.none_or]
    · cases hw

/-- After a committed transaction that only sets attribute `a`, every item was there before,
with the same attributes other than `a`. -/
theorem get?_of_applyAll_settingOnly {a : String} {t t' : ItemTable} {n : Nat}
    {ops : List WriteOp} (hset : SettingOnly a ops) (ha : t.applyAll n ops = .ok t') (k : String)
    {i' : Item} (hi : t'.get? k = some i') :
    ∃ i, t.get? k = some i ∧ ∀ m, m ≠ a → i'.get? m = i.get? m :=
  applyWrites_of_settingOnly (hset.filter _) (applyWrites_of_applyAll ha k) i' hi

end ItemTable

end TableState
