import TableState.Key.Value

/-!
# The order of key values

Key values are ordered by type first and by value within a type. That order is a total
preorder: `KeyValue.compare` is oriented (`compare b a` is `compare a b` turned round) and
transitive. Values of different types compare as their types' ranks, so a chain of comparisons
that starts and ends at one type passes through that type only (`rank_le_of_le`), and within a
type the order is that of integers, or the lexicographic order of characters or bytes.

From this come the laws of `<` and `≤` that ranges and regions use: `lt_of_lt_of_le`,
`not_lt`, `not_le` and the others below, and `minValue_le`: the minimum of a type is below every
value of that type. Values that compare equal are equal (`eq_of_compare_eq`), so the order is
a linear one.
-/

set_option autoImplicit false

namespace TableState

namespace KeyValue

theorem compare_of_rank_ne {a b : KeyValue} (h : a.rank ≠ b.rank) :
    KeyValue.compare a b = Ord.compare a.rank b.rank := by
  cases a <;> cases b <;> first | rfl | exact absurd rfl h

theorem compare_swap (a b : KeyValue) :
    KeyValue.compare a b = (KeyValue.compare b a).swap := by
  cases a <;> cases b <;> simp only [KeyValue.compare] <;> exact Std.OrientedCmp.eq_swap

instance : Std.OrientedCmp KeyValue.compare where
  eq_swap := compare_swap _ _

/-- A comparison that is not `gt` never goes down a type. -/
theorem rank_le_of_isLE {a b : KeyValue} (h : (KeyValue.compare a b).isLE) :
    a.rank ≤ b.rank := by
  by_cases hr : a.rank = b.rank
  · exact Nat.le_of_eq hr
  · rw [compare_of_rank_ne hr] at h
    exact Nat.isLE_compare.1 h

theorem isLE_trans {a b c : KeyValue} (hab : (KeyValue.compare a b).isLE)
    (hbc : (KeyValue.compare b c).isLE) : (KeyValue.compare a c).isLE := by
  have h₁ := rank_le_of_isLE hab
  have h₂ := rank_le_of_isLE hbc
  by_cases hac : a.rank = c.rank
  · -- all three are of one type, and the comparison is that of the type
    cases a <;> cases b <;> cases c <;> simp only [rank] at h₁ h₂ hac <;> try omega
    all_goals
      simp only [KeyValue.compare] at hab hbc ⊢
      exact Std.TransCmp.isLE_trans hab hbc
  · rw [compare_of_rank_ne hac]
    exact Nat.isLE_compare.2 (by omega)

instance : Std.TransCmp KeyValue.compare where
  isLE_trans := isLE_trans

theorem le_iff_isLE {a b : KeyValue} : a ≤ b ↔ (KeyValue.compare a b).isLE := by
  show KeyValue.compare a b ≠ .gt ↔ _
  cases KeyValue.compare a b <;> decide

theorem lt_iff {a b : KeyValue} : a < b ↔ KeyValue.compare a b = .lt := Iff.rfl

theorem le_refl (a : KeyValue) : a ≤ a :=
  le_iff_isLE.2 Std.ReflCmp.isLE_rfl

theorem lt_irrefl (a : KeyValue) : ¬a < a := by
  have h : KeyValue.compare a a = .eq := Std.ReflCmp.compare_self
  rw [lt_iff, h]
  decide

theorem not_lt {a b : KeyValue} : ¬a < b ↔ b ≤ a := by
  rw [lt_iff, le_iff_isLE, compare_swap b a]
  cases KeyValue.compare a b <;> decide

theorem not_le {a b : KeyValue} : ¬a ≤ b ↔ b < a := by
  rw [← not_lt, Classical.not_not]

theorem le_of_lt {a b : KeyValue} (h : a < b) : a ≤ b :=
  le_iff_isLE.2 (by rw [lt_iff.1 h]; rfl)

theorem lt_of_lt_of_le {a b c : KeyValue} (hab : a < b) (hbc : b ≤ c) : a < c :=
  Std.TransCmp.lt_of_lt_of_isLE hab (le_iff_isLE.1 hbc)

theorem lt_of_le_of_lt {a b c : KeyValue} (hab : a ≤ b) (hbc : b < c) : a < c :=
  Std.TransCmp.lt_of_isLE_of_lt (le_iff_isLE.1 hab) hbc

theorem le_trans {a b c : KeyValue} (hab : a ≤ b) (hbc : b ≤ c) : a ≤ c :=
  le_iff_isLE.2 (isLE_trans (le_iff_isLE.1 hab) (le_iff_isLE.1 hbc))

theorem lt_trans {a b c : KeyValue} (hab : a < b) (hbc : b < c) : a < c :=
  lt_of_lt_of_le hab (le_of_lt hbc)

/-- The minimum of a type is below every value of that type. -/
theorem minValue_le (v : KeyValue) : v.keyType.minValue ≤ v := by
  rw [le_iff_isLE]
  cases v with
  | int x =>
    show (Ord.compare Int32.minValue.toInt x.toInt).isLE
    exact Int.isLE_compare.2 (Int32.minValue_le_toInt x)
  | long x =>
    show (Ord.compare Int64.minValue.toInt x.toInt).isLE
    exact Int.isLE_compare.2 (Int64.minValue_le_toInt x)
  | string s => exact List.isLE_compareLex_nil_left
  | byteArray bs => exact List.isLE_compareLex_nil_left

/-- Values that compare equal are equal: within a type the comparison is that of integers, code
points or bytes, and values of different types never compare equal. -/
theorem eq_of_compare_eq {a b : KeyValue} (h : KeyValue.compare a b = .eq) : a = b := by
  by_cases hr : a.rank = b.rank
  · cases a <;> cases b <;> simp only [rank] at hr <;> try omega
    all_goals simp only [KeyValue.compare] at h
    · rw [Int32.toInt_inj.1 (Std.LawfulEqCmp.eq_of_compare h)]
    · rw [Int64.toInt_inj.1 (Std.LawfulEqCmp.eq_of_compare h)]
    · rw [String.toList_inj.1 (Std.LawfulEqCmp.eq_of_compare h)]
    · rw [Std.LawfulEqCmp.eq_of_compare h]
  · rw [compare_of_rank_ne hr] at h
    exact absurd (Std.LawfulEqCmp.eq_of_compare h) hr

theorem lt_of_le_of_ne {a b : KeyValue} (hle : a ≤ b) (hne : a ≠ b) : a < b := by
  rw [lt_iff]
  have h : KeyValue.compare a b ≠ .gt := hle
  cases hc : KeyValue.compare a b
  · rfl
  · exact absurd (eq_of_compare_eq hc) hne
  · exact absurd hc h

end KeyValue

namespace KeyType

/-- The minimum of a type is a value of that type. -/
theorem keyType_minValue (t : KeyType) : t.minValue.keyType = t := by
  cases t <;> rfl

end KeyType

end TableState
