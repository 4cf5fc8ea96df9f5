import TableState.Region
import TableState.Proofs.Text.Json

/-!
# Stored regions read back

Stored partitions keep their regions as JSON text. Reading that text gives back the region that
was written (`Region.ofJson_json`), so a stored region compares equal to the one it was written
from. The reader of each part returns the rest of the text, which is whatever followed.
-/

set_option autoImplicit false

namespace TableState

open Text

namespace KeyValue

/-- A key value reads back from its JSON text, whatever follows. -/
theorem readJson_json (v : KeyValue) (rest : List Char) :
    readJson (v.json.toList ++ rest) = some (v, rest) := by
  -- the number of an integer value is followed by the closing brace, which is not a digit
  have hbrace : ∀ c r, "\x7d".toList ++ rest = c :: r → ¬('0' ≤ c ∧ c ≤ '9') := by
    intro c r h
    rw [← (List.cons.inj h).1]
    decide
  cases v with
  | int x =>
    simp only [json, String.toList_append, List.append_assoc]
    rw [readJson, expect_append]
    simp only [readInt_toString _ hbrace, expect_append, Option.bind_eq_bind, Option.bind_some,
      Int32.ofInt_toInt]
    rfl
  | long x =>
    simp only [json, String.toList_append, List.append_assoc]
    have hint : ∀ r, expect "\x7b\"int\":" ("\x7b\"long\":".toList ++ r) = none := by
      simp [expect]
    rw [readJson, hint, expect_append]
    simp only [readInt_toString _ hbrace, expect_append, Option.bind_eq_bind, Option.bind_some,
      Int64.ofInt_toInt]
    rfl
  | string s =>
    simp only [json, String.toList_append, List.append_assoc, toList_jsonString]
    have hint : ∀ r, expect "\x7b\"int\":" ("\x7b\"string\":".toList ++ r) = none := by
      simp [expect]
    have hlong : ∀ r, expect "\x7b\"long\":" ("\x7b\"string\":".toList ++ r) = none := by
      simp [expect]
    rw [readJson, hint, hlong, expect_append]
    simp only [readJsonString_jsonChars, expect_append, Option.bind_eq_bind, Option.bind_some]
    rfl
  | byteArray bs =>
    simp only [json, String.toList_append, List.append_assoc]
    have hint : ∀ r, expect "\x7b\"int\":" ("\x7b\"byte_array\":".toList ++ r) = none := by
      simp [expect]
    have hlong : ∀ r, expect "\x7b\"long\":" ("\x7b\"byte_array\":".toList ++ r) = none := by
      simp [expect]
    have hstring : ∀ r,
        expect "\x7b\"string\":" ("\x7b\"byte_array\":".toList ++ r) = none := by
      simp [expect]
    -- the bytes are written as the array of their numbers
    have harray : readArray readNat
        ((jsonArray (fun b => toString b.toNat) bs).toList ++ ("\x7d".toList ++ rest)) =
        some (bs.map UInt8.toNat, "\x7d".toList ++ rest) := by
      rw [show jsonArray (fun b => toString b.toNat) bs = jsonArray toString (bs.map UInt8.toNat)
        by simp only [jsonArray, List.map_map]; rfl]
      apply readArray_jsonArray
      · intro n _
        obtain ⟨d, ds, hds⟩ := List.exists_cons_of_ne_nil (Nat.toDigits_ne_nil (n := n) (b := 10))
        have hd : '0' ≤ d ∧ d ≤ '9' := digit_of_mem_toDigits (hds ▸ List.mem_cons_self)
        refine ⟨d, ds, by simpa using hds, fun h => ?_⟩
        rw [h] at hd
        exact absurd hd (by decide)
      · intro n _ c cs hc
        have hnd : ∀ c' r, c :: cs = c' :: r → ¬('0' ≤ c' ∧ c' ≤ '9') := by
          intro c' r h
          rw [← (List.cons.inj h).1]
          rcases hc with rfl | rfl <;> decide
        simpa using readNat_toDigits n hnd
    rw [readJson, hint, hlong, hstring, expect_append]
    simp only [harray, expect_append, Option.bind_eq_bind, Option.bind_some, List.map_map]
    have hbytes : List.map (Nat.toUInt8 ∘ UInt8.toNat) bs = bs := by
      simp [Function.comp_def]
    rw [hbytes]
    rfl

/-- The JSON text of a key value starts with a brace, so no literal `null` is read from it. -/
theorem expect_null_json (v : KeyValue) (rest : List Char) :
    expect "null" (v.json.toList ++ rest) = none := by
  cases v <;> simp [expect, json]

end KeyValue

namespace Range

/-- A range reads back from its JSON text, whatever follows. -/
theorem readJson_json (r : Range) (rest : List Char) :
    readJson (r.json.toList ++ rest) = some (r, rest) := by
  obtain ⟨field, min, max⟩ := r
  cases max with
  | none =>
    simp only [json, String.toList_append, List.append_assoc, toList_jsonString]
    simp only [readJson, expect_append, readJsonString_jsonChars, KeyValue.readJson_json,
      Option.bind_eq_bind, Option.bind_some]
    rfl
  | some m =>
    simp only [json, String.toList_append, List.append_assoc, toList_jsonString]
    simp only [readJson, expect_append, readJsonString_jsonChars, KeyValue.readJson_json,
      KeyValue.expect_null_json, Option.bind_eq_bind, Option.bind_some, Option.map_some]
    rfl

theorem json_toList_head (r : Range) : ∃ cs, r.json.toList = '\x7b' :: cs := by
  simp [json]

end Range

namespace Region

/-- A region reads back from its JSON text, whatever follows. -/
theorem readJson_json (r : Region) (rest : List Char) :
    readJson (r.json.toList ++ rest) = some (r, rest) := by
  have harray : readArray Range.readJson
      ((jsonArray Range.json r.ranges).toList ++ ("\x7d".toList ++ rest)) =
      some (r.ranges, "\x7d".toList ++ rest) := by
    apply readArray_jsonArray
    · intro q _
      obtain ⟨cs, hcs⟩ := q.json_toList_head
      exact ⟨_, cs, hcs, by decide⟩
    · intro q _ c cs _
      exact q.readJson_json (c :: cs)
  simp only [json, String.toList_append, List.append_assoc]
  simp only [readJson, expect_append, harray, Option.bind_eq_bind, Option.bind_some]
  rfl

/-- The text of a stored region reads back as the region. -/
@[simp] theorem ofJson_json (r : Region) : ofJson? r.json = some r := by
  have h := r.readJson_json []
  rw [List.append_nil] at h
  simp [ofJson?, h]

end Region

end TableState
