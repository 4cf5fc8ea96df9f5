import TableState.Proofs.Item.Table

/-!
# Paged scans of sorted tables

A scan of a table whose keys increase reads, page after page, exactly the entries whose keys
start with the prefix, each once and in key order, whatever the page size. Two facts about the
order of strings carry it: a text that starts with the prefix is at least the prefix, and among
the keys at least the prefix those that start with it come before those that do not. So the keys
with the prefix form one run of the table, a page reads the first entries of what is left of
that run, and the next page, starting after the last key read, reads on from there. A full page
holds at least one entry, so the number of entries bounds the number of pages.

Main statements:

* `lt_of_isPrefixOf_of_not`: the order of keys with and without a prefix.
* `ItemTable.Sorted.scanPages_eq`: the run of pages from any point of the run.
* `ItemTable.Sorted.scanAll_eq`: a whole scan reads the entries with the prefix.
-/

set_option autoImplicit false

namespace TableState

theorem isPrefixOf_iff (p s : String) : p.isPrefixOf s = true ↔ p.toList <+: s.toList := by
  unfold String.isPrefixOf
  exact String.startsWith_string_iff

/-- A list that starts with `p` comes before every list not below `p` that does not start
with it. -/
theorem lt_of_prefix_of_not_prefix {p xs ys : List Char} (hx : p <+: xs) (hy : ¬ ys < p)
    (hn : ¬ p <+: ys) : xs < ys := by
  induction p generalizing xs ys with
  | nil => exact absurd List.nil_prefix hn
  | cons c p ih =>
    obtain ⟨xs', rfl⟩ : ∃ xs', xs = c :: xs' := by
      obtain ⟨t, rfl⟩ := hx
      exact ⟨p ++ t, rfl⟩
    have hx' : p <+: xs' := (List.cons_prefix_cons.1 hx).2
    cases ys with
    | nil => exact absurd (List.nil_lt_cons c p) hy
    | cons d ys =>
      rw [List.cons_lt_cons_iff, not_or, not_and] at hy
      rcases lt_trichotomy c d with hlt | rfl | hgt
      · exact List.cons_lt_cons_iff.2 (Or.inl hlt)
      · have hn' : ¬ p <+: ys := fun h => hn (List.cons_prefix_cons.2 ⟨rfl, h⟩)
        exact List.cons_lt_cons_iff.2 (Or.inr ⟨rfl, ih hx' (hy.2 rfl) hn'⟩)
      · exact absurd hgt hy.1

/-- A string is at least each of its prefixes. -/
theorem le_of_isPrefixOf {p s : String} (h : p.isPrefixOf s = true) : p ≤ s :=
  List.IsPrefix.le ((isPrefixOf_iff p s).1 h)

/-- A key with the prefix comes before every key at least the prefix that lacks it. -/
theorem lt_of_isPrefixOf_of_not {p x y : String} (hx : p.isPrefixOf x = true) (hy : p ≤ y)
    (hn : ¬ p.isPrefixOf y = true) : x < y := by
  rw [isPrefixOf_iff] at hx hn
  exact lt_of_prefix_of_not_prefix hx hy hn

/-- `takeWhile` keeps every element of a property when no element without it comes before one
with it. -/
theorem takeWhile_eq_filter {α : Type} {l : List α} {P : α → Bool}
    (h : l.Pairwise fun a b => P b = true → P a = true) : l.takeWhile P = l.filter P := by
  induction l with
  | nil => rfl
  | cons a rest ih =>
    have hrest := (List.pairwise_cons.1 h).2
    have ha := (List.pairwise_cons.1 h).1
    by_cases hp : P a = true
    · simp [hp, ih hrest]
    · have hnone : rest.filter P = [] := by
        rw [List.filter_eq_nil_iff]
        intro b hb hpb
        exact hp (ha b hb hpb)
      simp [hp, hnone]

namespace ItemTable

variable {t : ItemTable} {pfx : String}

/-- The entries a scan still has to read: those with the prefix, after the key the scan starts
after, if any. -/
def remaining (t : ItemTable) (pfx : String) : Option String → List (String × Item)
  | none => t.entries.filter fun e => pfx.isPrefixOf e.1
  | some k => (t.entries.filter fun e => pfx.isPrefixOf e.1).filter fun e => decide (k < e.1)

/-- The start of a scan: the beginning, or a key that has the prefix. -/
def ScanStart (pfx : String) : Option String → Prop
  | none => True
  | some k => pfx.isPrefixOf k = true

theorem Sorted.remaining_sorted (h : t.Sorted) (start : Option String) :
    BindingsSorted (t.remaining pfx start) := by
  cases start with
  | none => exact h.filter _
  | some k => exact (h.filter _).filter _

/-- Among entries at least the prefix, those with the prefix come first, so reading while keys
have the prefix reads all of them. -/
theorem Sorted.takeWhile_filter (h : t.Sorted) (S : String × Item → Bool)
    (hS : ∀ e, S e = true → pfx ≤ e.1) :
    ((t.entries.filter S).takeWhile fun e => pfx.isPrefixOf e.1) =
      (t.entries.filter S).filter fun e => pfx.isPrefixOf e.1 := by
  apply takeWhile_eq_filter
  rw [List.pairwise_filter]
  refine List.Pairwise.imp ?_ h
  intro a b hab ha _ hPb
  by_contra hPa
  exact lt_asymm hab (lt_of_isPrefixOf_of_not hPb (hS a ha) hPa)

/-- The first page reads from the entries still to read from the beginning. -/
theorem Sorted.takeWhile_from_start (h : t.Sorted) :
    ((t.entries.filter fun e => decide (pfx ≤ e.1)).takeWhile fun e => pfx.isPrefixOf e.1) =
      t.remaining pfx none := by
  rw [h.takeWhile_filter _ (fun e he => by simpa using he), List.filter_filter, remaining]
  congr 1
  funext e
  by_cases hp : pfx.isPrefixOf e.1 = true
  · simp [hp, le_of_isPrefixOf hp]
  · simp [hp]

/-- A page after a key with the prefix reads from the entries still to read after it. -/
theorem Sorted.takeWhile_after (h : t.Sorted) {k : String} (hk : pfx.isPrefixOf k = true) :
    ((t.entries.filter fun e => decide (k < e.1)).takeWhile fun e => pfx.isPrefixOf e.1) =
      t.remaining pfx (some k) := by
  have hle : pfx ≤ k := le_of_isPrefixOf hk
  rw [h.takeWhile_filter _ (fun e he => le_of_lt (lt_of_le_of_lt hle (by simpa using he))),
    remaining, List.filter_comm]

/-- A page reads the first `limit` of the entries still to read, or all of them for no limit. -/
theorem Sorted.scan_items (h : t.Sorted) {start : Option String} (hs : ScanStart pfx start)
    (limit : Nat) :
    (t.scan pfx start limit).items =
      if limit = 0 then t.remaining pfx start else (t.remaining pfx start).take limit := by
  cases start with
  | none => simp only [scan, h.takeWhile_from_start]
  | some k => simp only [scan, h.takeWhile_after hs]

/-- In sorted bindings, the bindings after the `n`-th are those whose names are greater than
its name. -/
theorem filter_lt_getElem {R : List (String × Item)} (hR : BindingsSorted R) {n : Nat}
    (hn : n < R.length) : R.filter (fun x => decide (R[n].1 < x.1)) = R.drop (n + 1) := by
  induction R generalizing n with
  | nil => cases hn
  | cons a rest ih =>
    have hrest := (List.pairwise_cons.1 hR).2
    have ha : ∀ y ∈ rest, a.1 < y.1 := (List.pairwise_cons.1 hR).1
    cases n with
    | zero =>
      rw [List.getElem_cons_zero, List.filter_cons, if_neg (by simp), List.filter_eq_self.2]
      · rfl
      · intro y hy
        simpa using ha y hy
    | succ m =>
      have hm : m < rest.length := by simpa using hn
      have hna : ¬ rest[m].1 < a.1 := not_lt.2 (le_of_lt (ha _ (List.getElem_mem hm)))
      rw [List.getElem_cons_succ, List.filter_cons, if_neg (by simpa using hna), ih hrest hm]
      rfl

/-- The entries still to read after a key `j` past the start are those still to read from the
start that come after `j`. -/
theorem remaining_some_eq_filter {start : Option String} {j : String}
    (hj : ∀ k, start = some k → k < j) :
    t.remaining pfx (some j) = (t.remaining pfx start).filter fun x => decide (j < x.1) := by
  cases start with
  | none => rfl
  | some k =>
    have hk : k < j := hj k rfl
    simp only [remaining, List.filter_filter]
    congr 1
    funext x
    by_cases hx : j < x.1
    · rw [decide_eq_true hx, decide_eq_true (lt_trans hk hx), Bool.true_and, Bool.true_and]
    · rw [decide_eq_false hx, Bool.false_and, Bool.false_and]

/-- After a page ending at the `n`-th entry still to read, the entries still to read are those
after it. -/
theorem Sorted.remaining_after (h : t.Sorted) {start : Option String} {n : Nat}
    (hn : n < (t.remaining pfx start).length) :
    ScanStart pfx (some (t.remaining pfx start)[n].1) ∧
      t.remaining pfx (some (t.remaining pfx start)[n].1) = (t.remaining pfx start).drop (n + 1) := by
  have hmem := List.getElem_mem hn
  -- the `n`-th entry still to read has the prefix, and comes after the start
  have hpfx : pfx.isPrefixOf (t.remaining pfx start)[n].1 = true := by
    cases start with
    | none => exact (List.mem_filter.1 hmem).2
    | some k => exact (List.mem_filter.1 (List.mem_of_mem_filter hmem)).2
  have hafter : ∀ k, start = some k → k < (t.remaining pfx start)[n].1 := by
    rintro k rfl
    simpa using (List.mem_filter.1 hmem).2
  refine ⟨hpfx, ?_⟩
  rw [remaining_some_eq_filter hafter, filter_lt_getElem (h.remaining_sorted start) hn]

/-- A page names a last key exactly when it is full: when the limit is positive and no more than
what is still to read, the key of the entry at position `limit - 1`; otherwise none. -/
theorem Sorted.scan_lastKey (h : t.Sorted) {start : Option String} (hs : ScanStart pfx start)
    (limit : Nat) :
    (t.scan pfx start limit).lastKey =
      if limit ≠ 0 ∧ limit ≤ (t.remaining pfx start).length then
        (t.remaining pfx start)[limit - 1]?.map (·.1)
      else none := by
  have hitems := h.scan_items hs limit
  simp only [scan] at hitems ⊢
  rw [hitems]
  by_cases hzero : limit = 0
  · -- without a limit the page names a key only when it is empty, and then it has none
    subst hzero
    simp only [if_true, ne_eq, not_true_eq_false, false_and, if_false]
    split
    · rename_i hl
      rw [List.length_eq_zero_iff.1 hl]
      rfl
    · rfl
  · simp only [hzero, if_false, ne_eq, not_false_eq_true, true_and]
    by_cases hfull : limit ≤ (t.remaining pfx start).length
    · have hn : limit - 1 < (t.remaining pfx start).length := by omega
      rw [List.length_take, min_eq_left hfull, if_pos rfl, List.getLast?_take, if_neg hzero,
        if_pos hfull, List.getElem?_eq_getElem hn, Option.some_or]
    · rw [if_neg hfull, List.length_take, min_eq_right (by omega), if_neg (by omega)]

/-- A page that names no last key reads everything still to read. -/
theorem Sorted.scan_items_of_lastKey_none (h : t.Sorted) {start : Option String}
    (hs : ScanStart pfx start) {limit : Nat} (hk : (t.scan pfx start limit).lastKey = none) :
    (t.scan pfx start limit).items = t.remaining pfx start := by
  rw [h.scan_items hs limit]
  split
  · rfl
  · rename_i hzero
    -- a full page would name its last key
    have hshort : ¬limit ≤ (t.remaining pfx start).length := by
      intro hfull
      rw [h.scan_lastKey hs limit, if_pos ⟨hzero, hfull⟩,
        List.getElem?_eq_getElem (by omega)] at hk
      cases hk
    exact List.take_of_length_le (by omega)

/-- A page that names a last key reads entries still to read, and the key, which has the prefix,
leaves the rest of them, fewer than before. -/
theorem Sorted.scan_lastKey_eq_some (h : t.Sorted) {start : Option String}
    (hs : ScanStart pfx start) {limit : Nat} {k : String}
    (hk : (t.scan pfx start limit).lastKey = some k) :
    ScanStart pfx (some k) ∧
      (t.scan pfx start limit).items ++ t.remaining pfx (some k) = t.remaining pfx start ∧
      (t.remaining pfx (some k)).length < (t.remaining pfx start).length := by
  rw [h.scan_lastKey hs limit] at hk
  split at hk
  · rename_i hfull
    -- the key is that of the entry at position `limit - 1`
    have hn : limit - 1 < (t.remaining pfx start).length := by omega
    rw [List.getElem?_eq_getElem hn, Option.map_some, Option.some.injEq] at hk
    subst hk
    obtain ⟨hs', hrest⟩ := h.remaining_after hn
    have hsucc : limit - 1 + 1 = limit := by omega
    rw [hsucc] at hrest
    refine ⟨hs', ?_, by rw [hrest, List.length_drop]; omega⟩
    rw [h.scan_items hs limit, if_neg hfull.1, hrest, List.take_append_drop]
  · cases hk

/-- From any start, pages read exactly the entries still to read, given more steps than there
are entries left: each full page reads at least one entry, and the page that is not full ends
the scan. -/
theorem Sorted.scanPages_eq (h : t.Sorted) (limit : Nat) :
    ∀ (fuel : Nat) (start : Option String), ScanStart pfx start →
      (t.remaining pfx start).length < fuel →
      t.scanPages pfx limit fuel start = t.remaining pfx start := by
  intro fuel
  induction fuel with
  | zero => intro start _ hlt; cases hlt
  | succ fuel ih =>
    intro start hs hlt
    simp only [scanPages]
    cases hk : (t.scan pfx start limit).lastKey with
    | none => exact h.scan_items_of_lastKey_none hs hk
    | some k =>
      obtain ⟨hs', happend, hfewer⟩ := h.scan_lastKey_eq_some hs hk
      dsimp only
      rw [ih _ hs' (by omega), happend]

/-- A whole scan of a sorted table reads exactly the entries whose keys start with the prefix,
in key order, whatever the page size. -/
theorem Sorted.scanAll_eq (h : t.Sorted) (pfx : String) (limit : Nat) :
    t.scanAll pfx limit = t.entries.filter fun e => pfx.isPrefixOf e.1 := by
  have hlen : (t.remaining pfx none).length < t.entries.length + 1 :=
    Nat.lt_succ_of_le (List.length_filter_le _ _)
  exact h.scanPages_eq limit _ none trivial hlen

end ItemTable

end TableState
