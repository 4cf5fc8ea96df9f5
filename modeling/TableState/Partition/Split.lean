import TableState.Partition.Basic

/-!
# Splitting a leaf

A leaf is split at a point of one dimension into a left child below the point and a right child
from the point on. The parent keeps its id, region and parent, and becomes internal with the two
children. The checks come in a fixed order: the partition must be a leaf, the dimension must
exist in its region, the point must have the type of the range's minimum, and the range must
strictly contain the point, so that neither child is empty.

Main definitions:

* `SplitResult`: the parent in its split form and the two new leaves.
* `Partition.split`: the split, with the ids of the two children given.
-/

set_option autoImplicit false

namespace TableState

/-- A split parent and its two new children. -/
structure SplitResult where
  parent : Partition
  left : Partition
  right : Partition
  deriving DecidableEq, Repr

namespace Partition

/-- Splits the leaf `p` at `point` along `dimension`, naming the children `leftId` and
`rightId`. -/
def split (p : Partition) (dimension : Nat) (point : KeyValue) (leftId rightId : String) :
    Except Error SplitResult :=
  if !p.isLeaf then .error (.notALeaf p.id) else
  match p.region.range? dimension with
  | none => .error (.noSuchDimension dimension)
  | some r =>
    if r.min.keyType ≠ point.keyType then
      .error (.keyTypeMismatch r.min.keyType point.keyType)
    else if !r.strictlyContains point then .error (.splitPointOutsidePartition p.id)
    else
      let left := leaf leftId (p.region.withRange dimension ⟨r.field, r.min, some point⟩) (some p.id)
      let right := leaf rightId (p.region.withRange dimension ⟨r.field, point, r.max⟩) (some p.id)
      .ok ⟨p.intoSplit [leftId, rightId] dimension, left, right⟩

end Partition

end TableState
