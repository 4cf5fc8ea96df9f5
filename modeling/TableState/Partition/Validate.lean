import TableState.Partition.Tree

/-!
# Checks on partitions before they are stored

Identifiers must not hold a NUL character, since stored keys join identifiers with NUL.

A split is given as the parent in its split form and its two new children. The checks, in
order: no id holds NUL (parent, then the children); the parent is internal with a split
dimension; its children are exactly the two given, which differ; each child names the parent
and is a leaf without children; and the children's regions cut the parent's region in two along
the split dimension. The last check asks that the two ranges at the split dimension meet, the
lower one starting where the parent starts and the upper one ending where the parent ends, and
that every other range of each child equals the parent's.

A list of partitions to start a table with must form one tree: it has one root and no repeated
id, each partition is a leaf exactly when it has no children, names an existing parent that
lists it, and lists only existing children.

Main definitions:

* `validateIdentifier`, `Partition.validateSplit`, `Partition.childRegionsCover`.
* `Partition.validateList`.
-/

set_option autoImplicit false

namespace TableState

/-- An identifier may not hold a NUL character. -/
def validateIdentifier (id : String) : Except Error Unit :=
  if id.toList.contains '\x00' then .error (.invalidIdentifier id) else .ok ()

namespace Partition

/-- Whether the ranges of `c1` and `c2` at `dimension` cut the parent's range there in two, and
their other ranges equal the parent's. -/
def childRegionsCover (parent c1 c2 : Partition) (dimension : Nat) : Bool :=
  match parent.region.range? dimension, c1.region.range? dimension, c2.region.range? dimension with
  | some p, some r1, some r2 =>
    let (lower, upper) := if r1.min ≤ r2.min then (r1, r2) else (r2, r1)
    let covers := lower.min == p.min && lower.max == some upper.min && upper.max == p.max &&
      decide (lower.min < upper.min)
    let othersMatch := [c1, c2].all fun c =>
      c.region.ranges.length == parent.region.ranges.length &&
        (c.region.ranges.zip parent.region.ranges).zipIdx.all fun q =>
          q.2 == dimension || q.1.1 == q.1.2
    covers && othersMatch
  | _, _, _ => false

/-- The checks on a split parent and its two children, in order. -/
def validateSplit (parent c1 c2 : Partition) : Except Error Unit := do
  validateIdentifier parent.id
  validateIdentifier c1.id
  validateIdentifier c2.id
  let dimension ← match parent.splitDimension with
    | some d => if parent.isLeaf then throw (.invalidSplitParent parent.id) else pure d
    | none => throw (.invalidSplitParent parent.id)
  let expected := [c1.id, c2.id]
  let sorted := fun (xs : List String) => xs.mergeSort fun a b => decide (a ≤ b)
  if !(sorted parent.childIds == sorted expected && c1.id != c2.id) then
    throw (.childrenMismatch parent.id expected parent.childIds)
  for c in [c1, c2] do
    if c.parentId != some parent.id then throw (.childParentMismatch c.id parent.id)
    if !(c.isLeaf && c.childIds.isEmpty) then throw (.childNotLeaf c.id)
  if !childRegionsCover parent c1 c2 dimension then throw (.childRegionsMismatch parent.id)

/-- The checks on one partition of a list that forms a tree `t`. -/
def validateMember (t : PartitionTree) (p : Partition) : Except Error Unit := do
  validateIdentifier p.id
  if p.isLeaf != p.childIds.isEmpty then throw .invalidPartitions
  match p.parentId with
  | some parentId =>
    match t.find? parentId with
    | some q => if !q.childIds.contains p.id then throw .invalidPartitions
    | none => throw .invalidPartitions
  | none => pure ()
  match t.children p.id with
  | .ok _ => pure ()
  | .error _ => throw .invalidPartitions

/-- The checks on a list of partitions to start a table with. -/
def validateList (ps : List Partition) : Except Error Unit := do
  let t ← match PartitionTree.ofPartitions ps with
    | .ok t => pure t
    | .error _ => throw .invalidPartitions
  if t.size != ps.length then throw .invalidPartitions
  ps.forM (validateMember t)

end Partition

end TableState
