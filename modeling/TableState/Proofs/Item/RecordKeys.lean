import TableState.Proofs.Item.FileItems
import TableState.Proofs.Text.Utf8Order

/-!
# The keys of file records

The item backend keys a file-in-partition record by `fip/`, the filename, NUL and the partition
id, and a lifecycle record by `lifecycle/` and the filename. The checks on files keep NUL out of
both ids, and NUL is the least character, so these keys carry their pairs faithfully:

* a key of a file and partition names them, and a lifecycle key names its file;
* the two kinds of key start apart, so a scan under one prefix meets no key of the other kind;
* keys compare as their pairs compare lexicographically (`fileInPartitionKey_lt_iff`), in the
  code point order of the item table and so in byte order. A filename that starts a longer one
  comes first, since the NUL after it is below the longer name's next character.

`fileRecordKeys_faithful` gathers the four.
-/

set_option autoImplicit false

namespace TableState

/-! ## NUL as a separator -/

/-- NUL is below every other character. -/
theorem nul_lt_of_ne {c : Char} (h : c ≠ '\x00') : '\x00' < c := by
  rw [Char.lt_def, UInt32.lt_iff_toNat_lt]
  have hc : c.val.toNat ≠ 0 := fun h0 => h (Char.ext (UInt32.toNat_inj.1 h0))
  simp only [show ('\x00' : Char).val.toNat = 0 from rfl]
  omega

theorem not_lt_nul (c : Char) : ¬ c < '\x00' := by
  rw [Char.lt_def, UInt32.lt_iff_toNat_lt]
  simp only [show ('\x00' : Char).val.toNat = 0 from rfl]
  omega

/-- Two lists that each put NUL after a part free of it compare by those parts first, then by
what follows the NUL. -/
theorem append_nul_lt_iff {a b : List Char} :
    ∀ {xs ys : List Char}, '\x00' ∉ xs → '\x00' ∉ ys →
      (xs ++ '\x00' :: a < ys ++ '\x00' :: b ↔ xs < ys ∨ (xs = ys ∧ a < b))
  | [], [], _, _ => by simp
  | [], d :: ys, _, hy => by
    -- the shorter part ends first: NUL meets a character above it
    have hd : '\x00' < d := nul_lt_of_ne fun h => hy (h ▸ List.mem_cons_self)
    simp [List.cons_lt_cons_iff, hd]
  | c :: xs, [], hx, _ => by
    have hc : c ≠ '\x00' := fun h => hx (h ▸ List.mem_cons_self)
    simp [List.cons_lt_cons_iff, not_lt_nul, hc]
  | c :: xs, d :: ys, hx, hy => by
    have hxs : '\x00' ∉ xs := fun h => hx (List.mem_cons_of_mem c h)
    have hys : '\x00' ∉ ys := fun h => hy (List.mem_cons_of_mem d h)
    rw [List.cons_append, List.cons_append, List.cons_lt_cons_iff, List.cons_lt_cons_iff,
      append_nul_lt_iff hxs hys, List.cons.injEq]
    tauto

/-! ## Keys of file-in-partition records -/

theorem toList_fileInPartitionKey (f p : String) :
    (fileInPartitionKey f p).toList = ['f', 'i', 'p', '/'] ++ f.toList ++ '\x00' :: p.toList := by
  simp [fileInPartitionKey, fileInPartitionPrefix]

/-- Keys of NUL-free filenames compare as their pairs compare: by filename, then by partition. -/
theorem fileInPartitionKey_lt_iff {f₁ p₁ f₂ p₂ : String} (hf₁ : '\x00' ∉ f₁.toList)
    (hf₂ : '\x00' ∉ f₂.toList) :
    fileInPartitionKey f₁ p₁ < fileInPartitionKey f₂ p₂ ↔ f₁ < f₂ ∨ (f₁ = f₂ ∧ p₁ < p₂) := by
  have hkey : fileInPartitionKey f₁ p₁ < fileInPartitionKey f₂ p₂ ↔
      f₁.toList ++ '\x00' :: p₁.toList < f₂.toList ++ '\x00' :: p₂.toList := by
    change (fileInPartitionKey f₁ p₁).toList < (fileInPartitionKey f₂ p₂).toList ↔ _
    simp only [toList_fileInPartitionKey, List.cons_append, List.nil_append, List.cons_lt_cons_self]
  rw [hkey, append_nul_lt_iff hf₁ hf₂, String.toList_inj]
  rfl

theorem fileInPartitionKey_eq_iff {f₁ p₁ f₂ p₂ : String} (hf₁ : '\x00' ∉ f₁.toList)
    (hp₁ : '\x00' ∉ p₁.toList) :
    fileInPartitionKey f₁ p₁ = fileInPartitionKey f₂ p₂ ↔ (f₁, p₁) = (f₂, p₂) := by
  rw [Prod.mk.injEq]
  constructor
  · exact fileInPartitionKey_inj hf₁ hp₁
  · rintro ⟨rfl, rfl⟩
    rfl

/-- The keys of file records are faithful to the records when the filenames and the first
partition id hold no NUL (the second partition id may hold any character): a key of a file and
partition names them, a lifecycle key names its file, no key of one kind starts with the other
kind's prefix, and the keys compare in byte order as their pairs compare lexicographically. -/
theorem fileRecordKeys_faithful (f₁ p₁ f₂ p₂ : String) (hf₁ : '\x00' ∉ f₁.toList)
    (hp₁ : '\x00' ∉ p₁.toList) (hf₂ : '\x00' ∉ f₂.toList) :
    (fileInPartitionKey f₁ p₁ = fileInPartitionKey f₂ p₂ ↔ (f₁, p₁) = (f₂, p₂)) ∧
      Function.Injective lifecycleKey ∧
      (∀ f p, lifecyclePrefix.isPrefixOf (fileInPartitionKey f p) = false) ∧
      (∀ f, fileInPartitionPrefix.isPrefixOf (lifecycleKey f) = false) ∧
      (utf8Bytes (fileInPartitionKey f₁ p₁) < utf8Bytes (fileInPartitionKey f₂ p₂) ↔
        utf8Bytes f₁ < utf8Bytes f₂ ∨ (f₁ = f₂ ∧ utf8Bytes p₁ < utf8Bytes p₂)) := by
  refine ⟨fileInPartitionKey_eq_iff hf₁ hp₁, fun _ _ => lifecycleKey_inj,
    not_isPrefixOf_fileInPartitionKey, not_isPrefixOf_lifecycleKey, ?_⟩
  -- the table's code point order is byte order, on the keys and on their parts
  rw [← String.lt_iff_utf8Bytes_lt, ← String.lt_iff_utf8Bytes_lt, ← String.lt_iff_utf8Bytes_lt]
  exact fileInPartitionKey_lt_iff hf₁ hf₂

/-- A filename that starts another: the keys still differ, and the shorter filename's key comes
first. -/
theorem prefix_filename_keys_ordered :
    fileInPartitionKey "a" "b/c" ≠ fileInPartitionKey "a/b" "c" ∧
      utf8Bytes (fileInPartitionKey "a" "b/c") < utf8Bytes (fileInPartitionKey "a/b" "c") := by
  obtain ⟨heq, -, -, -, hlt⟩ :=
    fileRecordKeys_faithful "a" "b/c" "a/b" "c" (by decide) (by decide) (by decide)
  refine ⟨fun h => by simpa using heq.1 h, hlt.2 (.inl ?_)⟩
  rw [← String.lt_iff_utf8Bytes_lt]
  decide

end TableState
