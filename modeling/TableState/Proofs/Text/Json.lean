import TableState.Text.Json
import Mathlib.Tactic.SplitIfs

/-!
# Reading back JSON text

The readers of JSON text take back what the writers write. Each reader returns the rest of the
text after what it read, and the lemmas here say what that rest is, so that a reader of a record
can be run field after field:

* a decimal number reads back when the character after it is not a digit
  (`readNat_toDigits`, `readInt_toString`);
* a string reads back from its JSON text whatever follows (`readJsonString_jsonChars`);
* a fixed prefix is consumed (`expect_append`);
* an array reads back when every item does, up to the comma or bracket after it
  (`readArray_jsonArray`).
-/

set_option autoImplicit false

namespace TableState.Text

/-! ### Decimal numbers -/

theorem isDigit_iff (c : Char) : c.isDigit = true ↔ '0' ≤ c ∧ c ≤ '9' := by
  simp [Char.isDigit, Char.le_def]

/-- Reading digits folds them into the number read so far, up to the first character that is not
a digit. -/
theorem readDigits_append (acc : Nat) {ds rest : List Char} (hds : ∀ d ∈ ds, '0' ≤ d ∧ d ≤ '9')
    (hrest : ∀ c r, rest = c :: r → ¬('0' ≤ c ∧ c ≤ '9')) :
    readDigits acc (ds ++ rest) = (Nat.ofDigitChars 10 ds acc, rest) := by
  induction ds generalizing acc with
  | nil =>
    cases rest with
    | nil => rfl
    | cons c r => simp [readDigits, hrest c r rfl]
  | cons d ds ih =>
    have hd := hds d List.mem_cons_self
    rw [List.cons_append, readDigits, if_pos hd, ih _ fun x hx => hds x (List.mem_cons_of_mem _ hx),
      Nat.ofDigitChars_cons, Nat.mul_comm]
    rfl

theorem digit_of_mem_toDigits {n : Nat} {c : Char} (h : c ∈ Nat.toDigits 10 n) :
    '0' ≤ c ∧ c ≤ '9' :=
  (isDigit_iff c).1 (Nat.isDigit_of_mem_toDigits (by decide) (by decide) h)

theorem readNat_toDigits (n : Nat) {rest : List Char}
    (hrest : ∀ c r, rest = c :: r → ¬('0' ≤ c ∧ c ≤ '9')) :
    readNat (Nat.toDigits 10 n ++ rest) = some (n, rest) := by
  obtain ⟨d, ds, hds⟩ := List.exists_cons_of_ne_nil (Nat.toDigits_ne_nil (n := n) (b := 10))
  have hd : '0' ≤ d ∧ d ≤ '9' := digit_of_mem_toDigits (hds ▸ List.mem_cons_self)
  have hread : readDigits 0 (Nat.toDigits 10 n ++ rest) =
      (Nat.ofDigitChars 10 (Nat.toDigits 10 n) 0, rest) :=
    readDigits_append 0 (fun _ hx => digit_of_mem_toDigits hx) hrest
  rw [Nat.ofDigitChars_ten_toDigits] at hread
  rw [hds] at hread ⊢
  simp only [readNat, List.cons_append, if_pos hd]
  rw [← List.cons_append, hread]

/-- Distinct numbers have distinct decimal texts. -/
theorem toString_nat_injective : Function.Injective (toString : Nat → String) := by
  intro a b h
  have hdigits : Nat.toDigits 10 a = Nat.toDigits 10 b := by
    simpa [Nat.toList_repr] using congrArg String.toList h
  calc a = Nat.ofDigitChars 10 (Nat.toDigits 10 a) 0 := Nat.ofDigitChars_ten_toDigits.symm
    _ = Nat.ofDigitChars 10 (Nat.toDigits 10 b) 0 := by rw [hdigits]
    _ = b := Nat.ofDigitChars_ten_toDigits

/-- An integer reads back from its decimal text when a character that is not a digit follows. -/
theorem readInt_toString (i : Int) {rest : List Char}
    (hrest : ∀ c r, rest = c :: r → ¬('0' ≤ c ∧ c ≤ '9')) :
    readInt ((toString i).toList ++ rest) = some (i, rest) := by
  cases i with
  | ofNat m =>
    have hne : ∀ r, Nat.toDigits 10 m ++ rest ≠ '-' :: r := by
      intro r h
      obtain ⟨d, ds, hds⟩ := List.exists_cons_of_ne_nil (Nat.toDigits_ne_nil (n := m) (b := 10))
      have hd : '0' ≤ d ∧ d ≤ '9' := digit_of_mem_toDigits (hds ▸ List.mem_cons_self)
      rw [hds, List.cons_append, List.cons.injEq] at h
      rw [h.1] at hd
      exact absurd hd (by decide)
    show readInt ((Int.repr (.ofNat m)).toList ++ rest) = _
    simp only [Int.repr, Nat.toList_repr]
    unfold readInt
    split
    · rename_i r h
      exact absurd h (hne r)
    · rw [readNat_toDigits m hrest]
      rfl
  | negSucc m =>
    show readInt ((Int.repr (.negSucc m)).toList ++ rest) = _
    simp only [Int.repr, String.toList_append, Nat.toList_repr]
    simp only [readInt, List.cons_append, List.nil_append, show "-".toList = ['-'] from rfl,
      readNat_toDigits _ hrest, Option.map_some]
    rfl

/-! ### Strings -/

theorem hexValue_hexDigit : ∀ k < 16, hexValue (hexDigit k) = some k := by
  decide

/-- One written character reads back as itself, whatever follows it. -/
theorem readJsonBody_jsonChar (c : Char) (cs : List Char) :
    readJsonBody (jsonChar c ++ cs) = (readJsonBody cs).map fun r => (c :: r.1, r.2) := by
  unfold jsonChar
  split_ifs with h₁ h₂ h₃ h₄ h₅ h₆ h₇ h₈
  · subst h₁; rfl
  · subst h₂; rfl
  · subst h₃; rfl
  · subst h₄; rfl
  · subst h₅; rfl
  · subst h₆; rfl
  · subst h₇; rfl
  · -- a control character, written `\u00` and two hexadecimal digits
    have hhi : hexValue (hexDigit (c.toNat / 16)) = some (c.toNat / 16) :=
      hexValue_hexDigit _ (by omega)
    have hlo : hexValue (hexDigit (c.toNat % 16)) = some (c.toNat % 16) :=
      hexValue_hexDigit _ (Nat.mod_lt _ (by decide))
    have hc : Char.ofNat (((0 * 16 + 0) * 16 + c.toNat / 16) * 16 + c.toNat % 16) = c := by
      rw [show ((0 * 16 + 0) * 16 + c.toNat / 16) * 16 + c.toNat % 16 = c.toNat by omega,
        Char.ofNat_toNat]
    simp only [List.cons_append, List.nil_append, readJsonBody, hhi, hlo,
      show hexValue '0' = some 0 from rfl, hc]
  · -- every other character stands as itself
    simp only [List.cons_append, List.nil_append]
    rw [readJsonBody.eq_def]
    split
    · contradiction
    · rename_i h; exact absurd (List.cons.inj h).1 h₁
    · rename_i h; exact absurd (List.cons.inj h).1 h₂
    · rename_i h; exact absurd (List.cons.inj h).1 h₂
    · rename_i h; cases h; rfl

theorem readJsonBody_flatMap (s rest : List Char) :
    readJsonBody (s.flatMap jsonChar ++ '"' :: rest) = some (s, rest) := by
  induction s with
  | nil => rfl
  | cons c s ih => rw [List.flatMap_cons, List.append_assoc, readJsonBody_jsonChar, ih]; rfl

/-- A string reads back from its JSON text, whatever follows. -/
theorem readJsonString_jsonChars (s : String) (rest : List Char) :
    readJsonString (jsonChars s ++ rest) = some (s, rest) := by
  simp only [jsonChars, List.cons_append, readJsonString, List.append_assoc, List.nil_append,
    readJsonBody_flatMap, Option.map_some, String.ofList_toList]

@[simp] theorem toList_jsonString (s : String) : (jsonString s).toList = jsonChars s :=
  String.toList_ofList

/-! ### Prefixes and arrays -/

theorem expect_append (p : String) (cs : List Char) : expect p (p.toList ++ cs) = some cs := by
  simp [expect, List.isPrefixOf_iff_prefix, ← String.length_toList]

/-- The comma-separated items of an array and its closing bracket read back, with at least as
many steps as there are items. -/
theorem readItems_intercalate {α : Type} (item : List Char → Option (α × List Char))
    (text : α → List Char) (rest : List Char) :
    ∀ (xs : List α) (fuel : Nat), xs ≠ [] → xs.length ≤ fuel →
      (∀ x ∈ xs, ∃ c cs, text x = c :: cs ∧ c ≠ ']') →
      (∀ x ∈ xs, ∀ c cs, (c = ',' ∨ c = ']') → item (text x ++ c :: cs) = some (x, c :: cs)) →
      readItems item fuel ([','].intercalate (xs.map text) ++ ']' :: rest) = some (xs, rest)
  | [], _, h, _, _, _ => absurd rfl h
  | x :: xs, fuel, _, hfuel, hhead, hitem => by
    obtain ⟨c, cs, htx, hc⟩ := hhead x List.mem_cons_self
    obtain ⟨fuel, rfl⟩ : ∃ f, fuel = f + 1 := ⟨fuel - 1, by simp at hfuel; omega⟩
    -- the first item does not start with a bracket, so it is read as an item
    have hread : ∀ d r, item (text x ++ d :: r) = some (x, d :: r) → (d = ',' ∨ d = ']') →
        readItems item (fuel + 1) (text x ++ d :: r) =
          if d = ',' then (readItems item fuel r).map fun p => (x :: p.1, p.2)
          else some ([x], r) := by
      intro d r hd hdelim
      rw [htx, List.cons_append, readItems.eq_def]
      split
      · rename_i h
        exact absurd (List.cons.inj h).1 hc
      · simp only
        rw [← List.cons_append, ← htx, hd]
        rcases hdelim with rfl | rfl <;> rfl
    cases xs with
    | nil =>
      simp only [List.map_cons, List.map_nil, List.intercalate_singleton]
      rw [hread ']' rest (hitem x List.mem_cons_self ']' rest (.inr rfl)) (.inr rfl)]
      rfl
    | cons y ys =>
      simp only [List.map_cons, List.intercalate_cons_cons, List.append_assoc, List.cons_append,
        List.nil_append]
      rw [hread ',' _ (hitem x List.mem_cons_self ',' _ (.inl rfl)) (.inl rfl), if_pos rfl]
      simp only [← List.map_cons]
      rw [readItems_intercalate item text rest (y :: ys) fuel (List.cons_ne_nil _ _) (by simp at hfuel ⊢; omega)
        (fun z hz => hhead z (List.mem_cons_of_mem _ hz))
        (fun z hz => hitem z (List.mem_cons_of_mem _ hz))]
      rfl

theorem length_le_intercalate (l : List (List Char)) :
    l.length ≤ ([','].intercalate l).length + 1 := by
  match l with
  | [] => simp
  | [a] => simp
  | a :: b :: l =>
    have := length_le_intercalate (b :: l)
    simp only [List.intercalate_cons_cons, List.length_append, List.length_cons] at this ⊢
    omega

/-- An array reads back when every item reads back up to the comma or bracket after it and no
item's text starts with a bracket. -/
theorem readArray_jsonArray {α : Type} (item : List Char → Option (α × List Char))
    (text : α → String) (xs : List α) (rest : List Char)
    (hhead : ∀ x ∈ xs, ∃ c cs, (text x).toList = c :: cs ∧ c ≠ ']')
    (hitem : ∀ x ∈ xs, ∀ c cs, (c = ',' ∨ c = ']') →
      item ((text x).toList ++ c :: cs) = some (x, c :: cs)) :
    readArray item ((jsonArray text xs).toList ++ rest) = some (xs, rest) := by
  simp only [jsonArray, String.toList_append, String.toList_intercalate, List.map_map]
  cases xs with
  | nil => rfl
  | cons x xs =>
    simp only [show "[".toList = ['['] from rfl, show "]".toList = [']'] from rfl,
      show ",".toList = [','] from rfl, List.cons_append, List.append_assoc,
      readArray]
    apply readItems_intercalate item (fun x => (text x).toList) rest _ _ (List.cons_ne_nil _ _)
      _ hhead hitem
    -- the text holds a comma between items and a bracket after them: fuel enough
    have := length_le_intercalate ((x :: xs).map (String.toList ∘ text))
    simp only [List.length_map, List.length_append, List.length_cons] at this ⊢
    omega

end TableState.Text
