import TableState.Proofs.Snapshot.Revisions
import TableState.Proofs.Text.Utf8Order

/-!
# The text of revision ids

A revision id is written as its number padded with zeros to twelve digits, a dash and its token,
and read back by splitting at the first dash.

* The text reads back as the revision for every number below 2^64 and every token that is not
  empty (`RevisionId.parse_toText_of_lt`): the digits hold no dash, so the first dash is the one
  after them, whatever dashes the token holds.
* Digit strings of one length compare as their values, whatever follows each
  (`lt_of_ofDigitChars_lt`). Below 10^12 the padding writes every number with exactly twelve
  digits (`RevisionId.length_padded`), so the text of a smaller number comes first in byte order,
  whatever the tokens (`RevisionId.utf8Bytes_toText_lt`). From 10^12 on the digits no longer line
  up, and the order breaks at the first such number (`RevisionId.toText_order_breaks_at_width`).
* A revision read from text has a number below 2^64 (`RevisionId.revision_lt_of_parse`), so it has
  a successor numbered one more, except the largest 64-bit number, which has none
  (`RevisionId.next?_of_parse`).
-/

set_option autoImplicit false

namespace TableState

/-! ## Digit strings -/

theorem digit_toNat {c : Char} (h : '0' ≤ c ∧ c ≤ '9') : 48 ≤ c.toNat ∧ c.toNat ≤ 57 := by
  simp only [Char.le_def, UInt32.le_iff_toNat_le] at h
  exact h

/-- The value of digits is the value of the first, scaled past the others, plus theirs. -/
theorem ofDigitChars_cons_zero (c : Char) (cs : List Char) :
    Nat.ofDigitChars 10 (c :: cs) 0 =
      Nat.pow 10 cs.length * (c.toNat - 48) + Nat.ofDigitChars 10 cs 0 := by
  rw [Nat.ofDigitChars_cons, Nat.ofDigitChars_eq_ofDigitChars_zero, Nat.pow_eq]
  simp

/-- Digits are worth less than the next power of ten past them. -/
theorem ofDigitChars_lt_pow {cs : List Char} (h : ∀ c ∈ cs, '0' ≤ c ∧ c ≤ '9') :
    Nat.ofDigitChars 10 cs 0 < Nat.pow 10 cs.length := by
  induction cs with
  | nil => simp [Nat.ofDigitChars]
  | cons c cs ih =>
    simp only [List.mem_cons, forall_eq_or_imp] at h
    have hc := digit_toNat h.1
    have hrest := ih h.2
    rw [ofDigitChars_cons_zero, List.length_cons]
    show _ < Nat.pow 10 cs.length * 10
    -- the first digit is at most nine, and the others are worth less than one of it
    have hscale : Nat.pow 10 cs.length * (c.toNat - 48) ≤ Nat.pow 10 cs.length * 9 :=
      Nat.mul_le_mul_left _ (by omega)
    omega

/-- Of two digit strings of one length, the one of smaller value comes first, whatever follows
each: they differ first at a digit, and there the smaller value has the smaller digit. -/
theorem lt_of_ofDigitChars_lt {s t : List Char} (hs : ∀ c ∈ s, '0' ≤ c ∧ c ≤ '9')
    (ht : ∀ c ∈ t, '0' ≤ c ∧ c ≤ '9') (hlen : s.length = t.length)
    (h : Nat.ofDigitChars 10 s 0 < Nat.ofDigitChars 10 t 0) (x y : List Char) :
    s ++ x < t ++ y := by
  induction s generalizing t with
  | nil =>
    obtain rfl : t = [] := List.eq_nil_of_length_eq_zero hlen.symm
    exact absurd h (Nat.lt_irrefl _)
  | cons c s ih =>
    obtain ⟨d, t, rfl⟩ := List.exists_cons_of_length_eq_add_one hlen.symm
    simp only [List.mem_cons, forall_eq_or_imp] at hs ht
    have hlen' : s.length = t.length := by simpa using hlen
    rw [ofDigitChars_cons_zero, ofDigitChars_cons_zero, ← hlen'] at h
    rw [List.cons_append, List.cons_append, List.cons_lt_cons_iff]
    rcases lt_trichotomy_char c d with hcd | rfl | hdc
    · exact .inl hcd
    · exact .inr ⟨rfl, ih hs.2 ht.2 hlen' (by omega)⟩
    · -- a larger first digit outweighs whatever follows the smaller one
      exfalso
      have hlt : d.toNat < c.toNat := hdc
      have hd := digit_toNat ht.1
      have hbound := ofDigitChars_lt_pow ht.2
      rw [← hlen'] at hbound
      have hscale : Nat.pow 10 s.length * (d.toNat - 48 + 1) ≤ Nat.pow 10 s.length * (c.toNat - 48) :=
        Nat.mul_le_mul_left _ (by omega)
      rw [Nat.mul_succ] at hscale
      omega

namespace RevisionId

/-! ## Padded numbers -/

theorem padded_toList (width n : Nat) :
    (padded width n).toList =
      List.replicate (width - (Nat.toDigits 10 n).length) '0' ++ Nat.toDigits 10 n := by
  simp [padded, Nat.toList_repr, ← String.length_toList]

/-- Below `10 ^ width`, padding writes a number with exactly `width` digits. -/
theorem length_padded {width n : Nat} (hw : 0 < width) (hn : n < Nat.pow 10 width) :
    (padded width n).toList.length = width := by
  have hdigits : (Nat.toDigits 10 n).length ≤ width :=
    (Nat.length_toDigits_le_iff (by decide) hw).2 (by simpa using hn)
  rw [padded_toList, List.length_append, List.length_replicate]
  omega

/-- The value of a padded number is the number. -/
theorem ofDigitChars_padded (width n : Nat) : Nat.ofDigitChars 10 (padded width n).toList 0 = n := by
  have h := decimalValue_padded width n
  rw [decimalValue, decimalValue_fold (padded_digits width n)] at h
  exact Option.some.inj h

/-! ## Order -/

theorem toText_toList (r : RevisionId) :
    r.toText.toList = (padded 12 r.revision).toList ++ '-' :: r.token.toList := by
  simp [toText, String.toList_append]

/-- Below 10^12 the text of a smaller number comes first, whatever the tokens. -/
theorem toText_lt {a b : RevisionId} (h : a.revision < b.revision)
    (hb : b.revision < Nat.pow 10 12) : a.toText < b.toText := by
  have ha : a.revision < Nat.pow 10 12 := Nat.lt_trans h hb
  show a.toText.toList < b.toText.toList
  rw [toText_toList, toText_toList]
  refine lt_of_ofDigitChars_lt (padded_digits 12 _) (padded_digits 12 _) ?_ ?_ _ _
  · rw [length_padded (by decide) ha, length_padded (by decide) hb]
  · rw [ofDigitChars_padded, ofDigitChars_padded]
    exact h

theorem utf8Bytes_toText_lt {a b : RevisionId} (h : a.revision < b.revision)
    (hb : b.revision < Nat.pow 10 12) : utf8Bytes a.toText < utf8Bytes b.toText :=
  String.lt_iff_utf8Bytes_lt.1 (toText_lt h hb)

/-- At 10^12 the number takes a thirteenth digit, and its text comes before that of the number
just below it: `1000000000000-a` against `999999999999-a`. -/
theorem toText_order_breaks_at_width :
    (⟨Nat.pow 10 12 - 1, "a"⟩ : RevisionId).revision < (⟨Nat.pow 10 12, "a"⟩ : RevisionId).revision ∧
      utf8Bytes (⟨Nat.pow 10 12, "a"⟩ : RevisionId).toText <
        utf8Bytes (⟨Nat.pow 10 12 - 1, "a"⟩ : RevisionId).toText := by
  refine ⟨by decide, String.lt_iff_utf8Bytes_lt.1 ?_⟩
  decide

/-! ## Reading and the next revision -/

theorem parseUInt64_lt {s : String} {n : Nat} (h : parseUInt64 s = some n) : n < Nat.pow 2 64 := by
  unfold parseUInt64 at h
  dsimp only at h
  rw [ite_eq_iff] at h
  rcases h with ⟨-, h⟩ | ⟨-, h⟩
  · cases h
  -- whichever digits the sign leaves, their value is checked against the bound
  generalize decimalValue _ = o at h
  cases o with
  | none => cases h
  | some m =>
    dsimp only at h
    split at h
    · exact Option.some.inj h ▸ ‹_›
    · cases h

/-- A revision read from text has a number that a 64-bit word holds. -/
theorem revision_lt_of_parse {s : String} {r : RevisionId} (h : parse s = .ok r) :
    r.revision < Nat.pow 2 64 := by
  unfold parse at h
  split at h
  · split at h
    · rename_i n hn
      split at h
      · cases h
      · cases h
        exact parseUInt64_lt hn
    · cases h
  · cases h

/-- A revision read from text has a successor numbered one more, with the new token, except the
largest 64-bit number, which has none. -/
theorem next?_of_parse {s : String} {r : RevisionId} (h : parse s = .ok r) (token : String) :
    r.next? token =
      if r.revision = Nat.pow 2 64 - 1 then none else some ⟨r.revision + 1, token⟩ := by
  have hr := revision_lt_of_parse h
  by_cases hmax : r.revision = Nat.pow 2 64 - 1
  · rw [if_pos hmax, next?, if_neg (by omega)]
  · rw [if_neg hmax, next?, if_pos (by omega)]
    rfl

/-- The text of a revision id is faithful and, within the padding, ordered. It reads back as the
revision for every number a 64-bit word holds and every token that is not empty; when the larger
number is below 10^12, the text of the smaller number comes first in byte order whatever the
tokens; and a revision read from text has a successor numbered one more except at the largest
64-bit number. -/
theorem toText_faithful_ordered (r a b : RevisionId) (s token : String) :
    (r.revision < Nat.pow 2 64 → r.token ≠ "" → parse r.toText = .ok r) ∧
      (a.revision < b.revision → b.revision < Nat.pow 10 12 →
        utf8Bytes a.toText < utf8Bytes b.toText) ∧
      (parse s = .ok r →
        r.next? token = if r.revision = Nat.pow 2 64 - 1 then none else some ⟨r.revision + 1, token⟩) :=
  ⟨fun hr htok => parse_toText_of_lt htok hr, fun h hb => utf8Bytes_toText_lt h hb,
    fun h => next?_of_parse h token⟩

/-- The first two revisions: the first reads back from its text, the second's text comes after
the first's whatever the tokens, and the first has the second as successor. -/
theorem first_revisions_text :
    parse (⟨1, "b"⟩ : RevisionId).toText = .ok ⟨1, "b"⟩ ∧
      utf8Bytes (⟨1, "b"⟩ : RevisionId).toText < utf8Bytes (⟨2, "a"⟩ : RevisionId).toText ∧
      (⟨1, "b"⟩ : RevisionId).next? "a" = some ⟨2, "a"⟩ := by
  obtain ⟨hread, horder, hnext⟩ :=
    toText_faithful_ordered ⟨1, "b"⟩ ⟨1, "b"⟩ ⟨2, "a"⟩ (⟨1, "b"⟩ : RevisionId).toText "a"
  have hparse := hread (by decide) (by decide)
  refine ⟨hparse, horder (by decide) (by decide), ?_⟩
  rw [hnext hparse]
  rfl

end RevisionId

end TableState
