import TableState.Proofs.Item.Partitions
import TableState.Proofs.Item.FileItems
import TableState.Proofs.Session.FileChanges

/-!
# Records through items and back

The item backend stores numbers as signed 64-bit integers, and what comes back from an item is
decided by them. A split dimension within a machine word is stored with its bits read as a signed
64-bit integer: below 2^63 it reads back as it was, from 2^63 on it reads back negative, and so
as no split dimension at all (`Partition.storedDimension_eq_filter`). A record count is stored
the same way and a negative count is refused, so a record with a count of 2^63 or more cannot be
read back (`FileRecord.ofItem_toItem_of_instant`). A time is stored as the 64-bit integer of its
milliseconds, which holds every instant the clock can show.

`item_round_trips` puts the three round trips together: a partition's item, the item of a
partition updated by a split, and a file record's item.
-/

set_option autoImplicit false

namespace TableState

/-- A split dimension within a machine word is stored with its bits as a signed 64-bit
integer. -/
theorem toInt_splitDimensionNumber {d : Nat} (hd : d < Nat.pow 2 64) :
    (splitDimensionNumber (some d)).toInt =
      if d < Nat.pow 2 63 then (d : Int) else (d : Int) - Nat.pow 2 64 := by
  rw [splitDimensionNumber, Int64.toInt_ofInt]
  simp only [Nat.pow_eq] at hd ⊢
  have hsize : (Int64.size : Int) = 18446744073709551616 := rfl
  split <;> simp only [Int.bmod_def, hsize] <;> omega

namespace Partition

/-- A split dimension within a machine word reads back when it is below 2^63, and as none from
2^63 on. -/
theorem storedDimension_eq_filter {sd : Option Nat} (hsd : sd.all (· < Nat.pow 2 64) = true) :
    storedDimension sd = sd.filter (· < Nat.pow 2 63) := by
  cases sd with
  | none => rfl
  | some d =>
    have hd : d < Nat.pow 2 64 := by simpa using hsd
    simp only [storedDimension, toInt_splitDimensionNumber hd, Option.filter]
    by_cases hlt : d < Nat.pow 2 63
    · simp [hlt]
    · -- the sign bit is set, and the stored number is negative
      have hneg : (d : Int) - Nat.pow 2 64 < 0 := by omega
      simp only [hlt, hneg, if_false, if_true, decide_false, Bool.false_eq_true]

end Partition

namespace FileRecord

/-- A count of 2^63 or more is stored as a negative 64-bit integer. -/
theorem toInt_toInt64_lt_zero {n : UInt64} (h : ¬n.toNat < Nat.pow 2 63) : n.toInt64.toInt < 0 := by
  rw [toInt_toInt64, if_neg h]
  have := n.toNat_lt
  simp only [Nat.pow_eq] at this ⊢
  omega

/-- A record that is not stamped, or stamped at an instant the clock holds, keeps its time
through the item. -/
theorem asStored_of_instant {f : FileRecord} (ht : f.lastUpdateTime.all isInstant = true) :
    f.asStored = f := by
  rcases f with ⟨filename, partitionId, count, minKey, maxKey, status, jobId, _ | t⟩
  · rfl
  · have hinstant : isInstant t = true := by simpa using ht
    simp only [asStored, Option.map_some, toInt_ofInt_of_isInstant hinstant]

/-- A record stamped at an instant reads back from its item exactly when its count is below
2^63; a larger count is stored negative and refused. -/
theorem ofItem_toItem_of_instant {f : FileRecord} (ht : f.lastUpdateTime.all isInstant = true) :
    ofItem f.toItem =
      if f.numberOfRecords.toNat < Nat.pow 2 63 then .ok f
      else .error (.deserialize "file info") := by
  by_cases hfit : f.numberOfRecords.toNat < Nat.pow 2 63
  · rw [if_pos hfit, ofItem_toItem ⟨hfit, timeFits_of_instant ht⟩, asStored_of_instant ht]
  · rw [if_neg hfit, ofItem_toItem_eq, if_pos (toInt_toInt64_lt_zero hfit)]

end FileRecord

/-- The item encoding round-trips exactly for the numbers a signed 64-bit integer holds. A
partition whose split dimension is within a machine word reads back from its item with the
dimension kept below 2^63 and dropped from 2^63 on; its item updated by a split reads back as the
partition in the split form, with the split dimension so kept or dropped; and a file record
stamped at an instant reads back from its item when its count is below 2^63, and is refused
otherwise. -/
theorem item_round_trips (p parent : Partition) (f : FileRecord)
    (hp : p.splitDimension.all (· < Nat.pow 2 64) = true)
    (hparent : parent.splitDimension.all (· < Nat.pow 2 64) = true)
    (hf : f.lastUpdateTime.all isInstant = true) :
    Partition.ofItem p.toItem =
        .ok { p with splitDimension := p.splitDimension.filter (· < Nat.pow 2 63) } ∧
      Partition.ofItem (p.toItem.merge parent.splitUpdate) =
        .ok { p with isLeaf := false, childIds := parent.childIds,
                     splitDimension := parent.splitDimension.filter (· < Nat.pow 2 63) } ∧
      FileRecord.ofItem f.toItem =
        if f.numberOfRecords.toNat < Nat.pow 2 63 then .ok f
        else .error (.deserialize "file info") := by
  refine ⟨?_, ?_, FileRecord.ofItem_toItem_of_instant hf⟩
  · rw [Partition.ofItem_toItem, Partition.storedDimension_eq_filter hp]
  · rw [Partition.ofItem_merge_splitUpdate (Partition.ofItem_toItem p) parent,
      Partition.storedDimension_eq_filter hparent]

/-- At the first numbers past the signed range the round trips break: a split dimension of 2^63
reads back as none, also after a split to it, and a record of 2^63 rows stamped at an instant is
refused. -/
theorem item_round_trips_at_two_pow_63 :
    let p : Partition :=
      { Partition.root "root" (.single "key" .long) with splitDimension := some (Nat.pow 2 63) }
    let f : FileRecord :=
      ⟨"f", "root", UInt64.ofNat (Nat.pow 2 63), none, none, .fileInPartition, none,
        some 1685620800000⟩
    Partition.ofItem p.toItem = .ok { p with splitDimension := none } ∧
      Partition.ofItem (p.toItem.merge p.splitUpdate) =
        .ok { p with isLeaf := false, splitDimension := none } ∧
      FileRecord.ofItem f.toItem = .error (.deserialize "file info") := by
  intro p f
  obtain ⟨hp, hsplit, hf⟩ := item_round_trips p p f (by decide) (by decide) (by decide)
  refine ⟨?_, ?_, ?_⟩
  · rw [hp]
    rfl
  · rw [hsplit]
    rfl
  · rw [hf]
    rfl

end TableState
