import TableState.Proofs.Item.Scan
import TableState.Proofs.Except
import Mathlib.Data.List.Nodup
import Mathlib.Data.List.Perm.Basic

/-!
# Item tables that mirror a list of records

A backend that keeps one item per record under the record's key mirrors the list of its records:
the table holds the item of each record under that record's key and nothing under any other
key (`ItemTable.Mirrors`). Such a table is determined by the list up to order
(`ItemTable.Mirrors.entries_perm`), and reading it back under a prefix, item by item, gives the
records whose keys carry the prefix, in some order (`ItemTable.Mirrors.read_perm`), and succeeds
when each of their items decodes (`ItemTable.Mirrors.read_isOk`).

A transaction of writes to distinct keys that fails reports the first write that the table as it
was refuses (`ItemTable.applyAll_map_eq_error`); a transaction of two runs of writes is the second
run on the table the first left (`ItemTable.applyAll_append`).
-/

set_option autoImplicit false

namespace TableState

namespace ItemTable

variable {α : Type} {key : α → String} {item : α → Item} {t : ItemTable} {xs : List α}

/-- A table mirrors a list of records with distinct keys when it is sorted, holds the item of each
record under that record's key, and holds nothing under any other key. -/
structure Mirrors (key : α → String) (item : α → Item) (t : ItemTable) (xs : List α) : Prop where
  sorted : t.Sorted
  keys_nodup : (xs.map key).Nodup
  get?_of_mem : ∀ x ∈ xs, t.get? (key x) = some (item x)
  get?_eq_none : ∀ k, (∀ x ∈ xs, key x ≠ k) → t.get? k = none

theorem mirrors_empty : ItemTable.empty.Mirrors key item [] :=
  ⟨sorted_empty, List.nodup_nil, fun _ h => absurd h List.not_mem_nil, fun _ _ => rfl⟩

namespace Mirrors

theorem exists_of_get? (h : t.Mirrors key item xs) {k : String} {i : Item}
    (hk : t.get? k = some i) : ∃ x ∈ xs, key x = k ∧ item x = i := by
  by_cases hex : ∃ x ∈ xs, key x = k
  · obtain ⟨x, hx, rfl⟩ := hex
    exact ⟨x, hx, rfl, Option.some.inj ((h.get?_of_mem x hx).symm.trans hk)⟩
  · -- with no record under the key, the table holds nothing there
    rw [h.get?_eq_none k fun x hx he => hex ⟨x, hx, he⟩] at hk
    cases hk

/-- A key holds an item exactly when some record has that key. -/
theorem isSome_get?_iff (h : t.Mirrors key item xs) (k : String) :
    (t.get? k).isSome ↔ ∃ x ∈ xs, key x = k := by
  constructor
  · intro hk
    obtain ⟨i, hi⟩ := Option.isSome_iff_exists.1 hk
    obtain ⟨x, hx, hkey, -⟩ := h.exists_of_get? hi
    exact ⟨x, hx, hkey⟩
  · rintro ⟨x, hx, rfl⟩
    rw [h.get?_of_mem x hx]
    rfl

/-- A key holds no item exactly when no record has that key. -/
theorem isNone_get? (h : t.Mirrors key item xs) (k : String) :
    (t.get? k).isNone = !(xs.any (key · == k)) := by
  have hiff := h.isSome_get?_iff k
  cases hget : t.get? k <;> simp_all [List.any_eq_true]

/-- Two records of a mirrored list with one key are the same record. -/
theorem eq_of_key_eq (h : t.Mirrors key item xs) {x y : α} (hx : x ∈ xs) (hy : y ∈ xs)
    (hxy : key x = key y) : x = y :=
  List.inj_on_of_nodup_map h.keys_nodup hx hy hxy

/-- Mirroring depends on the records only up to order. -/
theorem perm (h : t.Mirrors key item xs) {ys : List α} (hp : xs.Perm ys) :
    t.Mirrors key item ys :=
  ⟨h.sorted, (hp.map key).nodup_iff.1 h.keys_nodup,
    fun x hx => h.get?_of_mem x (hp.mem_iff.2 hx),
    fun k hk => h.get?_eq_none k fun x hx => hk x (hp.mem_iff.1 hx)⟩

/-- Putting the item of a record under a key that no record has adds the record. -/
theorem put_new (h : t.Mirrors key item xs) {y : α} (hy : ∀ x ∈ xs, key x ≠ key y) :
    (t.put (key y) (item y)).Mirrors key item (y :: xs) := by
  refine ⟨h.sorted.put _ _, ?_, fun x hx => ?_, fun k hk => ?_⟩
  · rw [List.map_cons, List.nodup_cons]
    exact ⟨fun hmem => by
      obtain ⟨x, hx, he⟩ := List.mem_map.1 hmem
      exact hy x hx he, h.keys_nodup⟩
  · rcases List.mem_cons.1 hx with rfl | hx
    · simp
    · rw [get?_put, if_neg (hy x hx), h.get?_of_mem x hx]
  · rw [get?_put, if_neg (Ne.symm (hk y List.mem_cons_self))]
    exact h.get?_eq_none k fun x hx => hk x (List.mem_cons_of_mem _ hx)

/-- Putting the item of a record under the key of a stored record replaces that record. -/
theorem put_replace [DecidableEq α] (h : t.Mirrors key item xs) {x y : α} (hx : x ∈ xs) (hk : key y = key x) :
    (t.put (key y) (item y)).Mirrors key item (y :: xs.erase x) := by
  -- the other records have other keys than the replaced one
  have hrest : ∀ z ∈ xs.erase x, key z ≠ key y := fun z hz he => by
    have hzx : z = x := h.eq_of_key_eq (List.mem_of_mem_erase hz) hx (he.trans hk)
    exact (List.Nodup.not_mem_erase (List.Nodup.of_map key h.keys_nodup)) (hzx ▸ hz)
  have herase : (t.erase (key x)).Mirrors key item (xs.erase x) := by
    refine ⟨h.sorted.erase _, (h.keys_nodup.sublist ((List.erase_sublist).map key)),
      fun z hz => ?_, fun k hk' => ?_⟩
    · rw [get?_erase, if_neg (hk ▸ hrest z hz), h.get?_of_mem z (List.mem_of_mem_erase hz)]
    · rw [get?_erase]
      split
      · rfl
      · rename_i hkx
        refine h.get?_eq_none k fun z hz he => ?_
        by_cases hzx : z = x
        · exact hkx (hzx ▸ he).symm
        · exact hk' z ((List.mem_erase_of_ne hzx).2 hz) he
  -- putting over the key gives the table that erasing it first gives
  have hsame : ∀ m, (t.put (key y) (item y)).get? m = ((t.erase (key x)).put (key y) (item y)).get? m := by
    intro m
    rw [get?_put, get?_put, get?_erase, hk]
    split <;> rfl
  have hput := herase.put_new hrest
  refine ⟨h.sorted.put _ _, hput.keys_nodup, fun z hz => ?_, fun k hk' => ?_⟩
  · rw [hsame, hput.get?_of_mem z hz]
  · rw [hsame, hput.get?_eq_none k hk']

/-- A committed transaction of puts where no item is, each of a record's item under its key, adds
the records. -/
theorem applyAll_inserts (h : t.Mirrors key item xs) {n : Nat} {ys : List α} {t' : ItemTable}
    (ha : t.applyAll n (ys.map fun y => .put (key y) (item y) .absent) = .ok t') :
    t'.Mirrors key item (ys.reverse ++ xs) := by
  induction ys generalizing t xs n with
  | nil =>
    cases ha
    exact h
  | cons y ys ih =>
    rw [List.map_cons, applyAll_cons] at ha
    split at ha
    · rename_i hadm
      -- the put was admitted, so no record had the key
      have hfresh : ∀ x ∈ xs, key x ≠ key y := by
        have hnone : (t.get? (key y)).isNone = true := by
          simpa [admits, WriteOp.key, WriteOp.condition, Condition.holds] using hadm
        rw [h.isNone_get?, Bool.not_eq_true', List.any_eq_false] at hnone
        exact fun x hx he => hnone x hx (by simp [he])
      have hput := h.put_new hfresh
      rw [List.reverse_cons, List.append_assoc, List.singleton_append]
      exact ih hput ha
    · cases ha

/-- Erasing a key drops the record under it. -/
theorem erase_key (h : t.Mirrors key item xs) (k : String) :
    (t.erase k).Mirrors key item (xs.filter fun x => key x != k) := by
  refine ⟨h.sorted.erase k, h.keys_nodup.sublist (List.filter_sublist.map key), fun x hx => ?_,
    fun k' hk' => ?_⟩
  · obtain ⟨hx, hne⟩ := List.mem_filter.1 hx
    rw [get?_erase, if_neg (by simpa using hne), h.get?_of_mem x hx]
  · rw [get?_erase]
    split
    · rfl
    · rename_i hk
      exact h.get?_eq_none k' fun x hx he =>
        hk' x (List.mem_filter.2 ⟨hx, by simpa [he] using hk⟩) he

/-- A committed transaction of deletes drops the records under their keys. -/
theorem applyAll_deletes (h : t.Mirrors key item xs) {c : Condition} {n : Nat} {ks : List String}
    {t' : ItemTable} (ha : t.applyAll n (ks.map fun k => .delete k c) = .ok t') :
    t'.Mirrors key item (xs.filter fun x => !ks.contains (key x)) := by
  induction ks generalizing t xs n with
  | nil =>
    cases ha
    simpa using h
  | cons k ks ih =>
    rw [List.map_cons, applyAll_cons] at ha
    split at ha
    · have hnext := ih (h.erase_key k) ha
      rw [List.filter_filter] at hnext
      refine hnext.perm (List.Perm.of_eq (List.filter_congr fun x _ => ?_))
      simp only [List.contains_cons, Bool.not_or, bne, Bool.and_comm]
    · cases ha

/-- A committed transaction of updates that set the same attributes changes the records under
their keys as `m` does. That holds when every record under an updated key satisfies `P`, and for
such records setting the attributes on the item gives the item of `m` of the record, `m` keeps
the key and `P`, and changes nothing a second time. -/
theorem applyAll_updates [DecidableEq α] (h : t.Mirrors key item xs) {u : Item} {c : Condition}
    {P : α → Prop} {m : α → α} (hm : ∀ x, P x → (item x).merge u = item (m x))
    (hkey : ∀ x, P x → key (m x) = key x) (hP : ∀ x, P x → P (m x))
    (hidem : ∀ x, P x → m (m x) = m x) {n : Nat} {ks : List String}
    (hks : ∀ x ∈ xs, ks.contains (key x) = true → P x) {t' : ItemTable}
    (ha : t.applyAll n (ks.map fun k => .update k u [] c) = .ok t') :
    t'.Mirrors key item (xs.map fun x => if ks.contains (key x) then m x else x) := by
  induction ks generalizing t xs n with
  | nil =>
    cases ha
    simpa using h
  | cons k ks ih =>
    rw [List.map_cons, applyAll_cons] at ha
    split at ha
    · rename_i hadm
      -- an update is admitted only over a stored item, the item of a record with its key
      have hsome : (t.get? k).isSome = true := by
        cases hk : t.get? k with
        | none => simp [admits, WriteOp.key, hk] at hadm
        | some i => rfl
      obtain ⟨i, hi⟩ := Option.isSome_iff_exists.1 hsome
      obtain ⟨x, hx, rfl, rfl⟩ := h.exists_of_get? hi
      have hPx : P x := hks x hx (by simp)
      have hstore : t.store (key x) ((WriteOp.update (key x) u [] c).apply (t.get? (key x))) =
          t.put (key (m x)) (item (m x)) := by
        rw [hi, hkey x hPx, ← hm x hPx]
        rfl
      simp only [WriteOp.key] at ha
      rw [hstore] at ha
      -- the other records have other keys, so only the updated one changes twice
      have hrest : ∀ z ∈ xs.erase x, key z ≠ key x := fun z hz he =>
        (List.Nodup.not_mem_erase (List.Nodup.of_map key h.keys_nodup))
          (h.eq_of_key_eq (List.mem_of_mem_erase hz) hx he ▸ hz)
      have hks' : ∀ z ∈ m x :: xs.erase x, ks.contains (key z) = true → P z := by
        intro z hz hc
        rcases List.mem_cons.1 hz with rfl | hz
        · exact hP x hPx
        · exact hks z (List.mem_of_mem_erase hz) (by simp only [List.contains_cons, hc, Bool.or_true])
      have hnext := ih (h.put_replace hx (hkey x hPx)) hks' ha
      refine hnext.perm ?_
      have hperm := ((List.perm_cons_erase hx).map fun z =>
        if (key x :: ks).contains (key z) then m z else z).symm
      rw [List.map_cons, if_pos (by simp)] at hperm
      refine List.Perm.trans ?_ hperm
      rw [List.map_cons, hkey x hPx, hidem x hPx, ite_self]
      refine List.Perm.cons _ (List.Perm.of_eq (List.map_congr_left fun z hz => ?_))
      have hne : (key z == key x) = false := beq_eq_false_iff_ne.2 (hrest z hz)
      simp only [List.contains_cons, hne, Bool.false_or]
    · cases ha

theorem keys_nodup_entries (h : t.Mirrors key item xs) : (t.entries.map (·.1)).Nodup := by
  rw [List.Nodup, List.pairwise_map]
  exact h.sorted.imp ne_of_lt

/-- The entries of a mirroring table are the keyed items of the records, in some order. -/
theorem entries_perm (h : t.Mirrors key item xs) :
    t.entries.Perm (xs.map fun x => (key x, item x)) := by
  have hnd : (xs.map fun x => (key x, item x)).Nodup :=
    List.Nodup.of_map Prod.fst (by rw [List.map_map]; exact h.keys_nodup)
  refine (List.perm_ext_iff_of_nodup (h.keys_nodup_entries.of_map _) hnd).2 fun e => ?_
  rw [h.sorted.mem_entries_iff e.1 e.2, List.mem_map]
  constructor
  · intro he
    obtain ⟨x, hx, hkey, hitem⟩ := h.exists_of_get? he
    exact ⟨x, hx, by rw [hkey, hitem]⟩
  · rintro ⟨x, hx, rfl⟩
    exact h.get?_of_mem x hx

/-- The entries under a prefix of a mirroring table are the keyed items of the records whose keys
carry the prefix, in some order. -/
theorem entries_filter_perm (h : t.Mirrors key item xs) (pfx : String) :
    (t.entries.filter fun e => pfx.isPrefixOf e.1).Perm
      ((xs.filter fun x => pfx.isPrefixOf (key x)).map fun x => (key x, item x)) := by
  have hperm := h.entries_perm.filter fun e => pfx.isPrefixOf e.1
  rwa [List.filter_map] at hperm

/-- Reading the items under a prefix of a mirroring table succeeds when the item of every record
under it decodes, whatever the page size. -/
theorem read_isOk (h : t.Mirrors key item xs) {pfx : String} {β : Type} {decode : Item → Except Error β}
    (hdec : ∀ x ∈ xs, pfx.isPrefixOf (key x) = true → ∃ y, decode (item x) = .ok y) (n : Nat) :
    ∃ ys, (t.scanAll pfx n).mapM (decode ·.2) = .ok ys := by
  rw [h.sorted.scanAll_eq]
  refine List.mapM_eq_ok_of_forall fun e he => ?_
  obtain ⟨x, hx, he⟩ := List.mem_map.1 ((h.entries_filter_perm pfx).mem_iff.1 he)
  obtain ⟨hx, hp⟩ := List.mem_filter.1 hx
  rw [← he]
  exact hdec x hx hp

/-- Reading the items under a prefix of a mirroring table, where the item of each record decodes
as `f` of the record if at all, gives `f` of the records whose keys carry the prefix, in some
order. -/
theorem read_perm (h : t.Mirrors key item xs) {pfx : String} {β : Type} {decode : Item → Except Error β}
    {f : α → β} (hdec : ∀ x ∈ xs, ∀ y, decode (item x) = .ok y → y = f x) {n : Nat} {ys : List β}
    (hread : (t.scanAll pfx n).mapM (decode ·.2) = .ok ys) :
    ys.Perm ((xs.filter fun x => pfx.isPrefixOf (key x)).map f) := by
  rw [h.sorted.scanAll_eq] at hread
  -- the entries read are the records' keyed items in another order: decode those instead
  obtain ⟨zs, hzs, hperm⟩ := List.perm_comp_forall₂ (h.entries_filter_perm pfx).symm
    (List.forall₂_of_mapM_eq_ok hread)
  rw [List.forall₂_map_left_iff] at hzs
  have hmap := hzs.map_eq (f := f) (g := id) fun x hx y hy =>
    (hdec x (List.mem_of_mem_filter hx) y hy).symm
  rw [List.map_id] at hmap
  exact hmap ▸ hperm.symm

/-- A read under a prefix that succeeds decoded the item of every record under the prefix. -/
theorem decode_of_read (h : t.Mirrors key item xs) {pfx : String} {β : Type}
    {decode : Item → Except Error β} {n : Nat} {ys : List β}
    (hread : (t.scanAll pfx n).mapM (decode ·.2) = .ok ys) :
    ∀ x ∈ xs, pfx.isPrefixOf (key x) = true → ∃ y, decode (item x) = .ok y := by
  rw [h.sorted.scanAll_eq] at hread
  intro x hx hp
  have hmem : (key x, item x) ∈ t.entries.filter fun e => pfx.isPrefixOf e.1 :=
    (h.entries_filter_perm pfx).mem_iff.2 (List.mem_map_of_mem (List.mem_filter.2 ⟨hx, hp⟩))
  obtain ⟨y, -, hy⟩ := (List.forall₂_of_mapM_eq_ok hread).exists_of_mem_left hmem
  exact ⟨y, hy⟩

end Mirrors


/-! ## Transactions -/

theorem applyAll_append (t : ItemTable) (n : Nat) (l₁ l₂ : List WriteOp) :
    t.applyAll n (l₁ ++ l₂) = (t.applyAll n l₁).bind (·.applyAll (n + l₁.length) l₂) := by
  induction l₁ generalizing t n with
  | nil => rfl
  | cons op l₁ ih =>
    rw [List.cons_append, applyAll_cons, applyAll_cons]
    split
    · rw [ih, List.length_cons, Nat.add_right_comm, Nat.add_assoc]
    · rfl

/-- A transaction of writes to distinct keys, one write per element, fails at the first write
that the table as it was refuses: every write before it is admitted. -/
theorem applyAll_map_eq_error {β : Type} {g : β → WriteOp} :
    ∀ {t : ItemTable} {n : Nat} {zs : List β}, ((zs.map g).map WriteOp.key).Nodup →
      ∀ {e : Nat × String}, t.applyAll n (zs.map g) = .error e →
      ∃ pre z post, zs = pre ++ z :: post ∧ t.admits (g z) = false ∧
        (∀ z' ∈ pre, t.admits (g z') = true) ∧ e = (n + pre.length, (g z).key)
  | _, _, [], _, _, h => by cases h
  | t, n, z :: zs, hd, e, h => by
    rw [List.map_cons, List.map_cons, List.nodup_cons] at hd
    rw [List.map_cons, applyAll_cons] at h
    split at h
    · rename_i hadm
      obtain ⟨pre, z', post, rfl, hrefused, hbefore, rfl⟩ := applyAll_map_eq_error hd.2 h
      -- the first write went to another key, so the rest see the table as it was
      have hsame : ∀ o ∈ (pre ++ z' :: post).map g,
          (t.store (g z).key ((g z).apply (t.get? (g z).key))).admits o = t.admits o :=
        fun o ho => admits_store_of_ne t _ _ fun he => hd.1 (he ▸ List.mem_map_of_mem ho)
      refine ⟨z :: pre, z', post, rfl, ?_, fun z'' hz'' => ?_, by
        simp [Nat.add_assoc, Nat.add_comm 1]⟩
      · rw [← hsame (g z') (List.mem_map_of_mem (by simp))]
        exact hrefused
      · rcases List.mem_cons.1 hz'' with rfl | hz''
        · simpa using hadm
        · rw [← hsame (g z'') (List.mem_map_of_mem (by simp [hz'']))]
          exact hbefore z'' hz''
    · cases h
      rename_i hrefused
      exact ⟨[], z, zs, rfl, Bool.eq_false_iff.2 hrefused, fun _ h => absurd h List.not_mem_nil,
        by simp⟩

end ItemTable

end TableState
