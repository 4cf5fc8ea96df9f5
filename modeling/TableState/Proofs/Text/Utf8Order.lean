import TableState.Proofs.Item.Scan
import Mathlib.Tactic.SplitIfs

/-!
# Keys in byte order

Item tables keep their keys in the order of strings, code point by code point, and read the keys
with a prefix character by character; a store on bytes orders keys by their UTF-8 bytes and
reads the keys with a prefix by the prefix's bytes. UTF-8 makes the two agree. Of two
characters the smaller has the encoding that comes first, and the two encodings differ within
both, whatever follows each (`utf8EncodeChar_append_lt`): the length of an encoding grows with
the code point and its first byte tells the length, and encodings of one length are the base-64
digits of the code point behind fixed marks. So strings compare as their bytes compare
(`String.lt_iff_utf8Bytes_lt`), and one string starts another exactly when its bytes start the
other's (`String.isPrefixOf_iff_utf8Bytes`).
-/

set_option autoImplicit false

namespace TableState

/-- The UTF-8 bytes of a string. -/
def utf8Bytes (s : String) : List UInt8 :=
  s.toUTF8.data.toList

theorem utf8Bytes_eq_flatMap (s : String) :
    utf8Bytes s = s.toList.flatMap String.utf8EncodeChar := by
  rw [utf8Bytes, String.toUTF8_eq_toByteArray, ← String.utf8Encode_toList, List.utf8Encode,
    List.toList_data_toByteArray]

theorem toNat_val_lt (c : Char) : c.val.toNat < 0x110000 := by
  have h := c.valid
  have hc : c.toNat = c.val.toNat := rfl
  simp only [UInt32.isValidChar] at h
  simp at h
  omega

/-- Of two characters, the smaller has the UTF-8 encoding that comes first, and the encodings
differ within both, so that whatever follows each, the smaller's bytes come first. -/
theorem utf8EncodeChar_append_lt {c d : Char} (h : c < d) (x y : List UInt8) :
    String.utf8EncodeChar c ++ x < String.utf8EncodeChar d ++ y := by
  have hlt : c.val.toNat < d.val.toNat := h
  have hd := toNat_val_lt d
  -- the base-64 digits of the two code points, from the top
  have hdigits : ∀ v : Nat, v / 4096 = v / 64 / 64 ∧ v / 262144 = v / 4096 / 64 := fun v =>
    ⟨by rw [Nat.div_div_eq_div_mul], by rw [Nat.div_div_eq_div_mul]⟩
  obtain ⟨hc₁, hc₂⟩ := hdigits c.val.toNat
  obtain ⟨hd₁, hd₂⟩ := hdigits d.val.toNat
  -- one case for each length of the two encodings; the bytes compare as the digits do
  simp only [String.utf8EncodeChar]
  split_ifs <;> simp (disch := omega) only [List.cons_append, List.nil_append,
    List.cons_lt_cons_iff, UInt8.lt_iff_toNat_lt, ← UInt8.toNat_inj, UInt8.toNat_ofNat',
    Nat.mod_eq_of_lt] <;> omega

theorem lt_trichotomy_char (c d : Char) : c < d ∨ c = d ∨ d < c := by
  rcases Nat.lt_trichotomy c.val.toNat d.val.toNat with h | h | h
  · exact .inl h
  · exact .inr (.inl (Char.ext (UInt32.toNat_inj.1 h)))
  · exact .inr (.inr h)

theorem append_lt_append_left_iff {l a b : List UInt8} : l ++ a < l ++ b ↔ a < b := by
  induction l with
  | nil => rfl
  | cons x l ih => rw [List.cons_append, List.cons_append, List.cons_lt_cons_self, ih]

/-- Lists of characters compare as their UTF-8 encodings compare. -/
theorem lt_iff_flatMap_utf8EncodeChar_lt :
    ∀ {xs ys : List Char},
      xs < ys ↔ xs.flatMap String.utf8EncodeChar < ys.flatMap String.utf8EncodeChar
  | [], [] => by simp
  | [], d :: ys => by
    obtain ⟨b, bs, hb⟩ := List.exists_cons_of_ne_nil (String.utf8EncodeChar_ne_nil (c := d))
    simp [hb]
  | c :: xs, [] => by simp
  | c :: xs, d :: ys => by
    rw [List.cons_lt_cons_iff, List.flatMap_cons, List.flatMap_cons]
    rcases lt_trichotomy_char c d with hcd | rfl | hdc
    · exact iff_of_true (.inl hcd) (utf8EncodeChar_append_lt hcd _ _)
    · -- the same character: the rest decides
      rw [append_lt_append_left_iff, ← lt_iff_flatMap_utf8EncodeChar_lt]
      simp
    · refine iff_of_false ?_ (List.lt_asymm (utf8EncodeChar_append_lt hdc _ _))
      rintro (h | ⟨rfl, -⟩)
      · exact Char.lt_asymm h hdc
      · exact Char.lt_irrefl _ hdc

/-- A list of characters starts another exactly when its UTF-8 encoding starts the other's. -/
theorem prefix_iff_flatMap_utf8EncodeChar :
    ∀ {xs ys : List Char},
      xs <+: ys ↔ xs.flatMap String.utf8EncodeChar <+: ys.flatMap String.utf8EncodeChar
  | [], ys => by simp
  | c :: xs, [] => by simp
  | c :: xs, d :: ys => by
    rw [List.cons_prefix_cons, List.flatMap_cons, List.flatMap_cons]
    constructor
    · rintro ⟨rfl, h⟩
      exact (List.prefix_append_right_inj _).2 (prefix_iff_flatMap_utf8EncodeChar.1 h)
    · intro h
      -- two different characters differ within both encodings, so neither bytes start the other
      obtain ⟨z, hz⟩ := h
      have hcd : c = d := by
        rcases lt_trichotomy_char c d with hcd | hcd | hcd
        · have := utf8EncodeChar_append_lt hcd (xs.flatMap String.utf8EncodeChar ++ z)
            (ys.flatMap String.utf8EncodeChar)
          rw [← List.append_assoc, hz] at this
          exact absurd this (List.lt_irrefl _)
        · exact hcd
        · have := utf8EncodeChar_append_lt hcd (ys.flatMap String.utf8EncodeChar)
            (xs.flatMap String.utf8EncodeChar ++ z)
          rw [← List.append_assoc, hz] at this
          exact absurd this (List.lt_irrefl _)
      subst hcd
      refine ⟨rfl, prefix_iff_flatMap_utf8EncodeChar.2 ?_⟩
      exact (List.prefix_append_right_inj (String.utf8EncodeChar c)).1 ⟨z, hz⟩

/-- Strings compare as their UTF-8 bytes compare. -/
theorem String.lt_iff_utf8Bytes_lt {s t : String} : s < t ↔ utf8Bytes s < utf8Bytes t := by
  rw [utf8Bytes_eq_flatMap, utf8Bytes_eq_flatMap]
  exact lt_iff_flatMap_utf8EncodeChar_lt

/-- One string starts another exactly when its UTF-8 bytes start the other's. -/
theorem String.isPrefixOf_iff_utf8Bytes {p s : String} :
    p.isPrefixOf s = true ↔ utf8Bytes p <+: utf8Bytes s := by
  rw [isPrefixOf_iff, utf8Bytes_eq_flatMap, utf8Bytes_eq_flatMap]
  exact prefix_iff_flatMap_utf8EncodeChar

end TableState
