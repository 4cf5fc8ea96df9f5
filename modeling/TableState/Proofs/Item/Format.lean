import TableState.Store.ItemFormat
import TableState.Proofs.Item.Scan
import TableState.Proofs.Except

/-!
# Records as items: keys, attributes and decoding

The keys of file records tell the two kinds apart: a file-in-partition key starts with `fip/`
and a lifecycle key with `lifecycle/`, so no key is of both kinds
(`fileInPartitionKey_ne_lifecycleKey`) and a scan under one prefix meets only keys of its kind.
A lifecycle key names its file (`lifecycleKey_inj`).

The item of a file record sets its attributes in a fixed order, the optional ones only when they
are there (`FileRecord.toItem_eq`, with `Item.setOpt`); reading an item back gives a record whose
filename, partition, status, job and time are the item's attributes (`FileRecord.ofItem_eq_ok`).
-/

set_option autoImplicit false

namespace TableState

/-! ## Keys -/

theorem fileInPartitionKey_ne_lifecycleKey (f p g : String) :
    fileInPartitionKey f p ≠ lifecycleKey g := by
  intro h
  have := congrArg String.toList h
  simp [fileInPartitionKey, lifecycleKey, fileInPartitionPrefix, lifecyclePrefix] at this

theorem lifecycleKey_inj {f g : String} (h : lifecycleKey f = lifecycleKey g) : f = g := by
  simpa [lifecycleKey] using h

theorem isPrefixOf_fileInPartitionKey (f p : String) :
    fileInPartitionPrefix.isPrefixOf (fileInPartitionKey f p) = true := by
  rw [isPrefixOf_iff]
  simp [fileInPartitionKey, fileInPartitionPrefix]

theorem isPrefixOf_lifecycleKey (f : String) : lifecyclePrefix.isPrefixOf (lifecycleKey f) = true := by
  rw [isPrefixOf_iff]
  simp [lifecycleKey, lifecyclePrefix]

theorem not_isPrefixOf_lifecycleKey (f : String) :
    fileInPartitionPrefix.isPrefixOf (lifecycleKey f) = false := by
  rw [Bool.eq_false_iff, ne_eq, isPrefixOf_iff]
  simp [lifecycleKey, fileInPartitionPrefix, lifecyclePrefix]

theorem not_isPrefixOf_fileInPartitionKey (f p : String) :
    lifecyclePrefix.isPrefixOf (fileInPartitionKey f p) = false := by
  rw [Bool.eq_false_iff, ne_eq, isPrefixOf_iff]
  simp [fileInPartitionKey, fileInPartitionPrefix, lifecyclePrefix]

/-! ## Items of file records -/

namespace Item

/-- The item with `name` set to the value, if there is one. -/
def setOpt (i : Item) (name : String) : Option AttrValue → Item
  | some v => i.set name v
  | none => i

@[simp] theorem get?_setOpt (i : Item) (name m : String) (v : Option AttrValue) :
    (i.setOpt name v).get? m = (if m = name then v else none).or (i.get? m) := by
  cases v with
  | none => split <;> rfl
  | some v =>
    simp only [setOpt, get?_set]
    split <;> rfl

theorem Sorted.setOpt {i : Item} (h : i.Sorted) (name : String) (v : Option AttrValue) :
    (i.setOpt name v).Sorted := by
  cases v with
  | none => exact h
  | some v => exact h.set name v

theorem getString?_of_get? {i : Item} {name s : String} (h : i.get? name = some (.string s)) :
    i.getString? name = some s := by
  simp [getString?, h]

end Item

namespace FileRecord

/-- The item of a file record: its fixed attributes, then each optional one that it has. -/
theorem toItem_eq (f : FileRecord) : f.toItem =
    ((((Item.empty.set "fileName" (.string f.filename)
      |>.set "partitionId" (.string f.partitionId)
      |>.set "numberOfRecords" (.number f.numberOfRecords.toInt64)
      |>.set "status" (.string f.status.name)).setOpt
        "minRowKey" (f.minRowKey.map fun k => .string k.json)).setOpt
        "maxRowKey" (f.maxRowKey.map fun k => .string k.json)).setOpt
        "jobId" (f.jobId.map .string)).setOpt
        "lastStateStoreUpdateTime" (f.lastUpdateTime.map fun t => .number (Int64.ofInt t)) := by
  rcases f with ⟨fn, p, n, mn, mx, st, j, tm⟩
  cases mn <;> cases mx <;> cases j <;> cases tm <;> rfl

@[simp] theorem toItem_fileName (f : FileRecord) :
    f.toItem.get? "fileName" = some (.string f.filename) := by
  simp [toItem_eq]

@[simp] theorem toItem_partitionId (f : FileRecord) :
    f.toItem.get? "partitionId" = some (.string f.partitionId) := by
  simp [toItem_eq]

@[simp] theorem toItem_status (f : FileRecord) :
    f.toItem.get? "status" = some (.string f.status.name) := by
  simp [toItem_eq]

@[simp] theorem toItem_jobId (f : FileRecord) : f.toItem.get? "jobId" = f.jobId.map .string := by
  simp [toItem_eq]

@[simp] theorem toItem_lastUpdateTime (f : FileRecord) :
    f.toItem.get? "lastStateStoreUpdateTime" =
      f.lastUpdateTime.map fun t => .number (Int64.ofInt t) := by
  simp [toItem_eq]

end FileRecord

/-! ## Reading file records back -/

theorem FileStatus.parse_eq_ok {text : String} {s : FileStatus} (h : FileStatus.parse text = .ok s) :
    text = s.name := by
  unfold FileStatus.parse at h
  split_ifs at h with h1 h2 h3 <;> cases h
  · exact h1
  · exact h2
  · exact h3

/-- A time read back is the stored one. -/
theorem FileRecord.readTime_eq_ok {n : Option Int64} {time : Option Int}
    (h : FileRecord.readTime n = .ok time) : time = n.map Int64.toInt := by
  cases n with
  | none => exact (Except.ok.inj h).symm
  | some n =>
    by_cases ht : isInstant n.toInt = true
    · simp only [FileRecord.readTime, ht, if_true] at h
      exact (Except.ok.inj h).symm
    · simp [FileRecord.readTime, ht] at h

/-- A record read from an item has the item's filename, partition, status, job and time. -/
theorem FileRecord.ofItem_eq_ok {i : Item} {r : FileRecord} (h : FileRecord.ofItem i = .ok r) :
    i.getString? "fileName" = some r.filename ∧ i.getString? "partitionId" = some r.partitionId ∧
      i.getString? "status" = some r.status.name ∧ r.jobId = i.getString? "jobId" ∧
      r.lastUpdateTime = (i.getNumber? "lastStateStoreUpdateTime").map Int64.toInt := by
  simp only [FileRecord.ofItem] at h
  -- each attribute is read in turn; every branch that does not read it throws
  split at h
  · rename_i fn hfn
    split at h
    · rename_i st hst
      split at h
      · rename_i s hs
        simp only [pure_bind] at h
        split at h
        · split at h
          · rename_i p hp
            split at h
            · simp only [Except.bind_eq_ok, Except.throw_ne_ok, false_and, exists_false] at h
            · simp only [Except.bind_eq_ok] at h
              obtain ⟨_, _, _, _, time, htime, hr⟩ := h
              rw [← Except.pure_eq_ok.1 hr]
              exact ⟨hfn, hp, hst.trans (congrArg some (FileStatus.parse_eq_ok hs)), rfl,
                FileRecord.readTime_eq_ok htime⟩
          · cases h
        · cases h
      · simp only [Except.bind_eq_ok, Except.throw_ne_ok, false_and, exists_false] at h
    · cases h
  · cases h

end TableState
