import TableState.Proofs.Item.Mirror
import TableState.Proofs.Item.Format
import TableState.Proofs.Region.Json
import TableState.Proofs.File.Outcome
import Mathlib.Data.List.Basic

/-!
# File records kept as items

The item backend keeps each file record as the item `FileRecord.toItem` under the key
`FileRecord.itemKey`: the key of its file and partition for a file-in-partition record, the key
of its file for a lifecycle record. Ids hold no NUL (`FileRecord.NulFree`), so a key names one
record (`FileRecord.itemKey_eq_fileInPartitionKey_iff`, `FileRecord.itemKey_eq_lifecycleKey_iff`).

An item reads back as its record, with the time through a signed 64-bit integer
(`FileRecord.asStored`), when its record count is below 2^63 and that time is an instant
(`FileRecord.ReadsBack`); a larger count is stored with the same bits and reads back negative,
and the read fails, as it does for a time that is not an instant
(`FileRecord.ofItem_toItem_eq_ok`).

A file table that mirrors a list of stored records `ws` and reads as `F` and `L` is a
`ItemTable.FilesView`: the two reads are the file-in-partition and the lifecycle records of `ws`
as stored, in some order. A lookup in the table then answers what the reference semantics asks
of `F` and `L` (`ItemTable.FilesView.isSome_get?_fileInPartitionKey`,
`ItemTable.FilesView.isSome_get?_lifecycleKey`).
-/

set_option autoImplicit false

namespace TableState

open Text

theorem KeyValue.json_toList_head (v : KeyValue) : ∃ cs, v.json.toList = '\x7b' :: cs := by
  cases v <;> simp [KeyValue.json]

/-- The text of a stored key reads back as the key. -/
@[simp] theorem Key.ofJson_json (k : Key) : Key.ofJson? k.json = some k := by
  have harray : readArray KeyValue.readJson ((jsonArray KeyValue.json k.values).toList ++ []) =
      some (k.values, []) := by
    apply readArray_jsonArray
    · intro v _
      obtain ⟨cs, hcs⟩ := v.json_toList_head
      exact ⟨_, cs, hcs, by decide⟩
    · intro v _ c cs _
      exact v.readJson_json (c :: cs)
  rw [List.append_nil] at harray
  simp [Key.ofJson?, Key.json, harray]

@[simp] theorem FileStatus.parse_name (s : FileStatus) : FileStatus.parse s.name = .ok s := by
  cases s <;> rfl

theorem Item.getString?_of_get?_map (i : Item) (name : String) {v : Option String}
    (h : i.get? name = v.map .string) : i.getString? name = v := by
  cases v <;> simp [Item.getString?, h]

theorem Item.getNumber?_of_get?_map (i : Item) (name : String) {v : Option Int64}
    (h : i.get? name = v.map .number) : i.getNumber? name = v := by
  cases v <;> simp [Item.getNumber?, h]

/-- A key of a file and partition without NUL names them: the NUL after the file ends it. -/
theorem fileInPartitionKey_inj {f g p q : String} (hf : '\x00' ∉ f.toList)
    (hp : '\x00' ∉ p.toList) (h : fileInPartitionKey f p = fileInPartitionKey g q) :
    f = g ∧ p = q := by
  have hl := congrArg String.toList h
  simp only [fileInPartitionKey, String.toList_append, List.append_assoc, List.append_cancel_left_eq,
    show "\x00".toList = ['\x00'] from rfl, List.singleton_append] at hl
  obtain ⟨h1, -, h2⟩ := (List.append_cons_inj_of_notMem hf hp).1 hl
  exact ⟨String.toList_inj.1 h1, String.toList_inj.1 h2⟩

/-- An instant reads back through a signed 64-bit integer. -/
theorem toInt_ofInt_of_isInstant {n : Int} (h : isInstant n = true) : (Int64.ofInt n).toInt = n := by
  simp only [isInstant, Bool.and_eq_true, decide_eq_true_iff] at h
  unfold earliestInstant latestInstant at h
  exact Int64.toInt_ofInt_of_le (by omega) (by omega)

namespace FileRecord

/-! ## Items read back -/

/-- A record count is stored as the signed 64-bit integer of the same bits: itself when it fits,
and negative otherwise. -/
theorem toInt_toInt64 (n : UInt64) : n.toInt64.toInt =
    if n.toNat < Nat.pow 2 63 then (n.toNat : Int) else (n.toNat : Int) - Nat.pow 2 64 := by
  rw [← Int64.toInt_toBitVec, UInt64.toBitVec_toInt64, BitVec.toInt_eq_toNat_cond,
    UInt64.toNat_toBitVec]
  -- the sign bit is set exactly when the count is 2^63 or more
  have hsign : 2 * n.toNat < 2 ^ 64 ↔ n.toNat < Nat.pow 2 63 := by
    simp only [Nat.pow_eq]
    omega
  by_cases h : n.toNat < Nat.pow 2 63
  · rw [if_pos (hsign.2 h), if_pos h]
  · rw [if_neg (mt hsign.1 h), if_neg h]

@[simp] theorem toItem_numberOfRecords (f : FileRecord) :
    f.toItem.get? "numberOfRecords" = some (.number f.numberOfRecords.toInt64) := by
  simp [toItem_eq]

@[simp] theorem toItem_minRowKey (f : FileRecord) :
    f.toItem.get? "minRowKey" = f.minRowKey.map fun k => .string k.json := by
  simp [toItem_eq]

@[simp] theorem toItem_maxRowKey (f : FileRecord) :
    f.toItem.get? "maxRowKey" = f.maxRowKey.map fun k => .string k.json := by
  simp [toItem_eq]

theorem readKey_map_json (k : Option Key) : readKey (k.map Key.json) = .ok k := by
  cases k <;> simp [readKey]

/-- A time stored as a signed 64-bit integer reads back when that integer is an instant. -/
theorem readTime_map_ofInt (time : Option Int) : readTime (time.map Int64.ofInt) =
    if time.all (fun t => isInstant (Int64.ofInt t).toInt) then
      .ok (time.map fun t => (Int64.ofInt t).toInt)
    else .error (.deserialize "update time") := by
  cases time with
  | none => rfl
  | some t => simp [readTime]

/-- The record that the item of a record reads back as: its time goes through a signed 64-bit
integer. -/
def asStored (r : FileRecord) : FileRecord :=
  { r with lastUpdateTime := r.lastUpdateTime.map fun t => (Int64.ofInt t).toInt }

@[simp] theorem pair_asStored (r : FileRecord) : r.asStored.pair = r.pair := rfl
@[simp] theorem filename_asStored (r : FileRecord) : r.asStored.filename = r.filename := rfl
@[simp] theorem isLifecycle_asStored (r : FileRecord) : r.asStored.isLifecycle = r.isLifecycle := rfl
@[simp] theorem status_asStored (r : FileRecord) : r.asStored.status = r.status := rfl
@[simp] theorem jobId_asStored (r : FileRecord) : r.asStored.jobId = r.jobId := rfl

/-- A record stamped at an instant is stored as it is. -/
theorem asStored_toFileInPartition (f : FileRecord) {now : Int} (hnow : isInstant now = true) :
    (f.toFileInPartition now).asStored = f.toFileInPartition now := by
  simp only [asStored, toFileInPartition, Option.map_some, toInt_ofInt_of_isInstant hnow]

theorem asStored_toActiveLifecycle (f : FileRecord) {now : Int} (hnow : isInstant now = true) :
    (f.toActiveLifecycle now).asStored = f.toActiveLifecycle now := by
  simp only [asStored, toActiveLifecycle, Option.map_some, toInt_ofInt_of_isInstant hnow]

/-- A record whose time, through a signed 64-bit integer, is an instant. -/
def TimeFits (f : FileRecord) : Prop :=
  f.lastUpdateTime.all (fun t => isInstant (Int64.ofInt t).toInt) = true

/-- A record whose item reads back: its count and its time fit. -/
def ReadsBack (f : FileRecord) : Prop :=
  f.CountFits ∧ f.TimeFits

/-- A record stamped at an instant has a time that fits. -/
theorem timeFits_of_instant {f : FileRecord} (h : f.lastUpdateTime.all isInstant = true) :
    f.TimeFits := by
  unfold TimeFits
  cases ht : f.lastUpdateTime with
  | none => rfl
  | some t =>
    rw [ht] at h
    simp only [Option.all_some] at h ⊢
    rw [toInt_ofInt_of_isInstant h]
    exact h

/-- The item of a record reads back as the record with its time through a 64-bit integer,
unless its count reads back negative or that time is not an instant. -/
theorem ofItem_toItem_eq (f : FileRecord) : ofItem f.toItem =
    if f.numberOfRecords.toInt64.toInt < 0 then .error (.deserialize "file info")
    else if f.lastUpdateTime.all (fun t => isInstant (Int64.ofInt t).toInt) then
      .ok { f.asStored with numberOfRecords := f.numberOfRecords.toInt64.toInt.toNat.toUInt64 }
    else .error (.deserialize "update time") := by
  simp only [ofItem, Item.getString?_of_get? (toItem_fileName f),
    Item.getString?_of_get? (toItem_status f), Item.getString?_of_get? (toItem_partitionId f),
    Item.getNumber?_of_get?_map _ "numberOfRecords" (v := some _) (toItem_numberOfRecords f),
    Item.getString?_of_get?_map _ "minRowKey" ((toItem_minRowKey f).trans (Option.map_map _ _ _).symm),
    Item.getString?_of_get?_map _ "maxRowKey" ((toItem_maxRowKey f).trans (Option.map_map _ _ _).symm),
    Item.getString?_of_get?_map _ "jobId" (toItem_jobId f),
    Item.getNumber?_of_get?_map _ "lastStateStoreUpdateTime"
      ((toItem_lastUpdateTime f).trans (Option.map_map _ _ _).symm),
    FileStatus.parse_name, readKey_map_json, readTime_map_ofInt]
  split
  · rfl
  · split
    · simp [asStored]
    · rfl

/-- The item of a record whose count and time fit reads back as the record. -/
theorem ofItem_toItem {f : FileRecord} (h : f.ReadsBack) : ofItem f.toItem = .ok f.asStored := by
  have hc : f.numberOfRecords.toInt64.toInt = f.numberOfRecords.toNat := by
    rw [toInt_toInt64, if_pos (show _ < _ from h.1)]
  rw [ofItem_toItem_eq, hc, if_neg (by omega),
    if_pos (show f.lastUpdateTime.all _ = true from h.2)]
  simp only [Int.toNat_natCast, UInt64.ofNat_toNat]
  rfl

/-- An item of a record that reads back holds a count and a time that fit, and reads as the
record. -/
theorem ofItem_toItem_eq_ok {f y : FileRecord} (h : ofItem f.toItem = .ok y) :
    f.ReadsBack ∧ y = f.asStored := by
  by_cases hf : f.CountFits
  · by_cases ht : f.TimeFits
    · rw [ofItem_toItem ⟨hf, ht⟩] at h
      exact ⟨⟨hf, ht⟩, (Except.ok.inj h).symm⟩
    · have hc : ¬f.numberOfRecords.toInt64.toInt < 0 := by
        rw [toInt_toInt64, if_pos (show _ < _ from hf)]
        omega
      rw [ofItem_toItem_eq, if_neg hc, if_neg (show ¬f.lastUpdateTime.all _ = true from ht)] at h
      cases h
  · -- a count beyond the signed range reads back negative
    have hc : f.numberOfRecords.toInt64.toInt < 0 := by
      rw [toInt_toInt64, if_neg (show ¬ _ < _ from hf)]
      have := f.numberOfRecords.toNat_lt
      simp only [Nat.pow_eq] at this ⊢
      omega
    rw [ofItem_toItem_eq, if_pos hc] at h
    cases h

/-! ## Keys -/

/-- The key of a record's item: under its file and partition for a file-in-partition record,
under its file for a lifecycle record. -/
def itemKey (r : FileRecord) : String :=
  if r.isLifecycle then lifecycleKey r.filename else fileInPartitionKey r.filename r.partitionId

/-- A record whose filename and partition id hold no NUL, as the checks on files demand. -/
def NulFree (r : FileRecord) : Prop :=
  '\x00' ∉ r.filename.toList ∧ '\x00' ∉ r.partitionId.toList

theorem itemKey_eq_fileInPartitionKey_iff {r : FileRecord} (hr : r.NulFree) (f p : String) :
    r.itemKey = fileInPartitionKey f p ↔ r.isLifecycle = false ∧ r.pair = (f, p) := by
  unfold itemKey
  cases hl : r.isLifecycle with
  | true => simpa using (fileInPartitionKey_ne_lifecycleKey f p r.filename).symm
  | false =>
    simp only [true_and, pair, Prod.mk.injEq]
    constructor
    · exact fileInPartitionKey_inj hr.1 hr.2
    · rintro ⟨rfl, rfl⟩
      rfl

theorem itemKey_eq_lifecycleKey_iff (r : FileRecord) (f : String) :
    r.itemKey = lifecycleKey f ↔ r.isLifecycle = true ∧ r.filename = f := by
  unfold itemKey
  cases hl : r.isLifecycle with
  | true => simpa using ⟨lifecycleKey_inj, fun h => h ▸ rfl⟩
  | false => simpa using fileInPartitionKey_ne_lifecycleKey r.filename r.partitionId f

@[simp] theorem isPrefixOf_itemKey_fileInPartition (r : FileRecord) :
    fileInPartitionPrefix.isPrefixOf r.itemKey = !r.isLifecycle := by
  unfold itemKey
  cases r.isLifecycle
  · exact isPrefixOf_fileInPartitionKey _ _
  · exact not_isPrefixOf_lifecycleKey _

@[simp] theorem isPrefixOf_itemKey_lifecycle (r : FileRecord) :
    lifecyclePrefix.isPrefixOf r.itemKey = r.isLifecycle := by
  unfold itemKey
  cases r.isLifecycle
  · exact not_isPrefixOf_fileInPartitionKey _ _
  · exact isPrefixOf_lifecycleKey _

/-- Two file-in-partition records without NUL have one key exactly when they have one pair. -/
theorem itemKey_eq_iff_pair_eq {r w : FileRecord} (hr : r.NulFree) (hrl : r.isLifecycle = false)
    (hwl : w.isLifecycle = false) : r.itemKey = w.itemKey ↔ r.pair = w.pair := by
  have hw : w.itemKey = fileInPartitionKey w.filename w.partitionId := by simp [itemKey, hwl]
  rw [hw, itemKey_eq_fileInPartitionKey_iff hr]
  simp [hrl, pair]

end FileRecord

/-! ## Tables of file records -/

namespace ItemTable

open FileRecord

/-- A file table that mirrors the stored records `ws`, without NUL in their ids, whose counts
and times fit, and whose file-in-partition and lifecycle records read back, in some order, as
`F` and `L`. -/
structure FilesView (t : ItemTable) (ws F L : List FileRecord) : Prop where
  mirrors : t.Mirrors itemKey toItem ws
  nulFree : ∀ w ∈ ws, w.NulFree
  fits : ∀ w ∈ ws, w.ReadsBack
  fips : F.Perm ((ws.filter (!·.isLifecycle)).map asStored)
  lifecycles : L.Perm ((ws.filter (·.isLifecycle)).map asStored)

variable {t : ItemTable} {ws F L : List FileRecord}

theorem read_perm_asStored (h : t.Mirrors itemKey toItem ws) {pfx : String} {n : Nat}
    {rs : List FileRecord} (hread : (t.scanAll pfx n).mapM (ofItem ·.2) = .ok rs) :
    rs.Perm ((ws.filter fun w => pfx.isPrefixOf w.itemKey).map asStored) :=
  h.read_perm (fun _ _ _ hy => (ofItem_toItem_eq_ok hy).2) hread

/-- A table that mirrors records without NUL in their ids, from which both kinds of record read,
is a view of the records read. -/
theorem FilesView.of_reads (h : t.Mirrors itemKey toItem ws) (hnul : ∀ w ∈ ws, w.NulFree) {n : Nat}
    (hF : (t.scanAll fileInPartitionPrefix n).mapM (ofItem ·.2) = .ok F)
    (hL : (t.scanAll lifecyclePrefix n).mapM (ofItem ·.2) = .ok L) : t.FilesView ws F L := by
  refine ⟨h, hnul, fun w hw => ?_, by simpa using read_perm_asStored h hF,
    by simpa using read_perm_asStored h hL⟩
  -- every record is of one kind, and the read of that kind decoded its item
  cases hl : w.isLifecycle with
  | false =>
    obtain ⟨y, hy⟩ := h.decode_of_read hF w hw (by simp [hl])
    exact (ofItem_toItem_eq_ok hy).1
  | true =>
    obtain ⟨y, hy⟩ := h.decode_of_read hL w hw (by simp [hl])
    exact (ofItem_toItem_eq_ok hy).1

namespace FilesView

/-- A view reads: under each prefix, its records in some order. -/
theorem reads (h : t.FilesView ws F L) (n : Nat) :
    (∃ F', (t.scanAll fileInPartitionPrefix n).mapM (ofItem ·.2) = .ok F' ∧ F'.Perm F) ∧
      ∃ L', (t.scanAll lifecyclePrefix n).mapM (ofItem ·.2) = .ok L' ∧ L'.Perm L := by
  have hdec : ∀ pfx : String, ∃ rs, (t.scanAll pfx n).mapM (ofItem ·.2) = .ok rs := fun _ =>
    h.mirrors.read_isOk (fun w hw _ => ⟨_, ofItem_toItem (h.fits w hw)⟩) n
  obtain ⟨F', hF'⟩ := hdec fileInPartitionPrefix
  obtain ⟨L', hL'⟩ := hdec lifecyclePrefix
  refine ⟨⟨F', hF', ?_⟩, L', hL', ?_⟩
  · exact (by simpa using read_perm_asStored h.mirrors hF' : F'.Perm _).trans h.fips.symm
  · exact (by simpa using read_perm_asStored h.mirrors hL' : L'.Perm _).trans h.lifecycles.symm

/-- A view of the same records reads the same up to order. -/
theorem perm (h : t.FilesView ws F L) {F' L' : List FileRecord} (hF : F'.Perm F) (hL : L'.Perm L) :
    t.FilesView ws F' L' :=
  ⟨h.mirrors, h.nulFree, h.fits, hF.trans h.fips, hL.trans h.lifecycles⟩

theorem hasPair_eq (h : t.FilesView ws F L) (p : String × String) :
    hasPair F p = (ws.filter (!·.isLifecycle)).any (·.pair == p) := by
  rw [hasPair, h.fips.any_eq, List.any_map]
  rfl

theorem any_filename_eq (h : t.FilesView ws F L) (name : String) :
    L.any (·.filename == name) = (ws.filter (·.isLifecycle)).any (·.filename == name) := by
  rw [h.lifecycles.any_eq, List.any_map]
  rfl

/-- The key of a file and partition holds an item exactly when the records read name them. -/
theorem isSome_get?_fileInPartitionKey (h : t.FilesView ws F L) (f p : String) :
    (t.get? (fileInPartitionKey f p)).isSome = hasPair F (f, p) := by
  rw [Bool.eq_iff_iff, h.mirrors.isSome_get?_iff, h.hasPair_eq, List.any_eq_true]
  constructor
  · rintro ⟨w, hw, hk⟩
    obtain ⟨hl, hp⟩ := (itemKey_eq_fileInPartitionKey_iff (h.nulFree w hw) f p).1 hk
    exact ⟨w, List.mem_filter.2 ⟨hw, by simp [hl]⟩, by simp [hp]⟩
  · rintro ⟨w, hw, hp⟩
    obtain ⟨hw, hl⟩ := List.mem_filter.1 hw
    exact ⟨w, hw, (itemKey_eq_fileInPartitionKey_iff (h.nulFree w hw) f p).2
      ⟨by simpa using hl, by simpa using hp⟩⟩

/-- The key of a file's lifecycle record holds an item exactly when the lifecycle records read
name the file. -/
theorem isSome_get?_lifecycleKey (h : t.FilesView ws F L) (name : String) :
    (t.get? (lifecycleKey name)).isSome = L.any (·.filename == name) := by
  rw [Bool.eq_iff_iff, h.mirrors.isSome_get?_iff, h.any_filename_eq, List.any_eq_true]
  constructor
  · rintro ⟨w, hw, hk⟩
    obtain ⟨hl, hn⟩ := (itemKey_eq_lifecycleKey_iff w name).1 hk
    exact ⟨w, List.mem_filter.2 ⟨hw, hl⟩, by simp [hn]⟩
  · rintro ⟨w, hw, hn⟩
    obtain ⟨hw, hl⟩ := List.mem_filter.1 hw
    exact ⟨w, hw, (itemKey_eq_lifecycleKey_iff w name).2 ⟨hl, by simpa using hn⟩⟩

/-- The file-in-partition records read name each file and partition once. -/
theorem pairs_nodup (h : t.FilesView ws F L) : (F.map pair).Nodup := by
  rw [(h.fips.map pair).nodup_iff, List.map_map]
  -- two stored file-in-partition records of one pair have one key, so they are one record
  refine (List.nodup_map_iff_inj_on (h.mirrors.keys_nodup.sublist
    ((List.filter_sublist).map itemKey)).of_map).2 fun x hx y hy he => ?_
  obtain ⟨hx, hxl⟩ := List.mem_filter.1 hx
  obtain ⟨hy, hyl⟩ := List.mem_filter.1 hy
  refine h.mirrors.eq_of_key_eq hx hy ?_
  exact (itemKey_eq_iff_pair_eq (h.nulFree x hx) (by simpa using hxl) (by simpa using hyl)).2 he

end FilesView

end ItemTable

end TableState
