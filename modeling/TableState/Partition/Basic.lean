import TableState.Region

/-!
# Partitions

A partition covers a region of the key space. A leaf holds data; an internal partition has been
split along one dimension into children. Each partition but the root names its parent.

Main definitions:

* `Partition`, `Partition.leaf`, `Partition.root`, `Partition.isRoot`, `Partition.intoSplit`.
* `Partition.display`: `partition 'id' [region] (leaf)`, or the children listed quoted for an
  internal partition.
-/

set_option autoImplicit false

namespace TableState

/-- A partition of the key space. -/
structure Partition where
  id : String
  region : Region
  isLeaf : Bool
  parentId : Option String
  childIds : List String
  splitDimension : Option Nat
  deriving DecidableEq, Repr, Inhabited

namespace Partition

/-- A leaf covering a region. -/
def leaf (id : String) (region : Region) (parentId : Option String) : Partition :=
  ⟨id, region, true, parentId, [], none⟩

/-- The root of a new table: a leaf covering every key of the schema. -/
def root (id : String) (s : Schema) : Partition :=
  leaf id (Region.full s) none

/-- A partition is the root when it names no parent. -/
def isRoot (p : Partition) : Bool :=
  p.parentId.isNone

/-- The split form of a partition: not a leaf, with the given children and split dimension. -/
def intoSplit (p : Partition) (childIds : List String) (dimension : Nat) : Partition :=
  { p with isLeaf := false, childIds := childIds, splitDimension := some dimension }

/-- The display of a partition. -/
def display (p : Partition) : String :=
  "partition '" ++ p.id ++ "' [" ++ p.region.display ++ "]" ++
    (if p.isLeaf then " (leaf)" else " (children: " ++ Text.quoteList p.childIds ++ ")")

end Partition

end TableState
