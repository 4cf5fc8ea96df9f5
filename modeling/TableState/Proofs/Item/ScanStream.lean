import TableState.Proofs.Text.Utf8Order

/-!
# A scan page after page, without a bound

`ItemTable.scanAll` reads the pages of a scan with a bound on their number. A stream of the
pages has none: it reads a page, goes on after the page's last key when the page names one, and
stops at the first page that names none (`ItemTable.ScanRun`). On a table whose keys increase,
every run of pages from a start reads what is still to read from there
(`ItemTable.Sorted.scanRun_eq`), and the bounded reading is such a run
(`ItemTable.Sorted.scanRun_scanPages`): so the stream ends and reads what the bounded reading
reads. With the keys in byte order (`String.lt_iff_utf8Bytes_lt`) this gives the whole
contract of a paged scan (`ItemTable.Sorted.scanAll_exact`).
-/

set_option autoImplicit false

namespace TableState

namespace ItemTable

/-- The pages of a scan read one after another from a start, each after the last key of the one
before, until a page names no last key: `ScanRun t pfx n start l` when the pages from `start`
end and read `l` in order. Nothing bounds the number of pages in advance. -/
inductive ScanRun (t : ItemTable) (pfx : String) (n : Nat) :
    Option String → List (String × Item) → Prop
  | last {start : Option String} : (t.scan pfx start n).lastKey = none →
      ScanRun t pfx n start (t.scan pfx start n).items
  | next {start : Option String} {k : String} {rest : List (String × Item)} :
      (t.scan pfx start n).lastKey = some k → ScanRun t pfx n (some k) rest →
      ScanRun t pfx n start ((t.scan pfx start n).items ++ rest)

/-- A page names a last key only when it is full, and the key is then its last entry's. -/
theorem scan_full_of_lastKey {t : ItemTable} {pfx : String} {start : Option String} {n : Nat}
    {k : String} (hk : (t.scan pfx start n).lastKey = some k) :
    (t.scan pfx start n).items.length = n ∧
      (t.scan pfx start n).items.getLast?.map (·.1) = some k := by
  have hdef : (t.scan pfx start n).lastKey =
      if (t.scan pfx start n).items.length = n then
        (t.scan pfx start n).items.getLast?.map (·.1)
      else none := rfl
  rw [hdef] at hk
  split at hk
  · exact ⟨by assumption, hk⟩
  · cases hk

variable {t : ItemTable} {pfx : String} {n : Nat}

/-- Every run of pages from a start reads what is still to read from there. -/
theorem Sorted.scanRun_eq (h : t.Sorted) {start : Option String} {l : List (String × Item)}
    (hrun : ScanRun t pfx n start l) (hs : ScanStart pfx start) : l = t.remaining pfx start := by
  induction hrun with
  | last hk => exact h.scan_items_of_lastKey_none hs hk
  | next hk _ ih =>
    obtain ⟨hs', happend, -⟩ := h.scan_lastKey_eq_some hs hk
    rw [ih hs', happend]

/-- The bounded reading of pages is a run of pages, given more steps than there are entries left:
each full page leaves fewer entries to read. -/
theorem Sorted.scanRun_scanPages (h : t.Sorted) :
    ∀ (fuel : Nat) (start : Option String), ScanStart pfx start →
      (t.remaining pfx start).length < fuel →
      ScanRun t pfx n start (t.scanPages pfx n fuel start) := by
  intro fuel
  induction fuel with
  | zero => intro start _ hlt; cases hlt
  | succ fuel ih =>
    intro start hs hlt
    simp only [scanPages]
    cases hk : (t.scan pfx start n).lastKey with
    | none => exact .last hk
    | some k =>
      obtain ⟨hs', -, hfewer⟩ := h.scan_lastKey_eq_some hs hk
      exact .next hk (ih _ hs' (by omega))

/-- A paged scan of a table whose keys increase is complete and exact, for every prefix and every
page size, none included. The whole scan reads exactly the stored entries whose keys start with
the prefix's bytes, each once and in increasing byte order of keys; the pages read one after
another end, and every such run of pages reads that same list; and a page names a last key only
when it holds as many entries as the page size, the key then being its last entry's. -/
theorem Sorted.scanAll_exact (h : t.Sorted) (pfx : String) (n : Nat) :
    (∀ e, e ∈ t.scanAll pfx n ↔ e ∈ t.entries ∧ utf8Bytes pfx <+: utf8Bytes e.1) ∧
      (t.scanAll pfx n).Pairwise (fun a b => utf8Bytes a.1 < utf8Bytes b.1) ∧
      ScanRun t pfx n none (t.scanAll pfx n) ∧
      (∀ l, ScanRun t pfx n none l → l = t.scanAll pfx n) ∧
      ∀ start k, (t.scan pfx start n).lastKey = some k →
        (t.scan pfx start n).items.length = n ∧
          (t.scan pfx start n).items.getLast?.map (·.1) = some k := by
  have hall := h.scanAll_eq pfx n
  refine ⟨fun e => ?_, ?_, ?_, fun l hrun => ?_, fun _ _ hk => scan_full_of_lastKey hk⟩
  · rw [hall, List.mem_filter, String.isPrefixOf_iff_utf8Bytes]
  · -- keys increase in the table, and so in byte order among those read
    rw [hall]
    exact (h.filter _).imp String.lt_iff_utf8Bytes_lt.1
  · exact h.scanRun_scanPages _ none trivial (Nat.lt_succ_of_le (List.length_filter_le _ _))
  · rw [h.scanRun_eq hrun trivial, hall]
    rfl

/-- A table of three keys whose keys increase, scanned for the prefix `a` one entry a page. -/
theorem three_keys_scanAll_exact :
    let t : ItemTable := ⟨[("a", Item.empty), ("ab", Item.empty), ("b", Item.empty)]⟩
    t.Sorted ∧
      (∀ e, e ∈ t.scanAll "a" 1 ↔ e ∈ t.entries ∧ utf8Bytes "a" <+: utf8Bytes e.1) ∧
      (t.scanAll "a" 1).Pairwise (fun a b => utf8Bytes a.1 < utf8Bytes b.1) ∧
      ScanRun t "a" 1 none (t.scanAll "a" 1) ∧
      (∀ l, ScanRun t "a" 1 none l → l = t.scanAll "a" 1) ∧
      ∀ start k, (t.scan "a" start 1).lastKey = some k →
        (t.scan "a" start 1).items.length = 1 ∧
          (t.scan "a" start 1).items.getLast?.map (·.1) = some k := by
  intro t
  have hsorted : t.Sorted := by
    unfold Sorted BindingsSorted
    decide
  exact ⟨hsorted, hsorted.scanAll_exact "a" 1⟩

end ItemTable

end TableState
