import TableState.Partition.Basic

/-!
# Partition trees

A partition tree is built from a list of partitions that has exactly one root, a partition that
names no parent. Partitions are looked up by id; when the list names an id twice, the later
partition is the one found. The root is the id of the one partition without a parent, taken
before ids are merged, and looking it up gives the partition found for that id.

The leaf for a key is found by descent from the root: at an internal partition, the first child
in the partition's list of children whose region contains the key. A descent that comes back to
a partition it has passed never ends; since every step is decided by the current partition
alone, a descent longer than the number of partitions is such a one.

Main definitions:

* `PartitionTree`, `PartitionTree.ofPartitions`: the tree, or `Error.missingRoot` or
  `Error.multipleRoots`.
* `PartitionTree.find?`, `PartitionTree.children`, `PartitionTree.leafIds`.
* `PartitionTree.leafForKey`: the leaf for a key; `none` for a descent that never ends.
-/

set_option autoImplicit false

namespace TableState

/-- Keeps, for each id, the last partition of the list with that id. -/
def lastById : List Partition → List Partition
  | [] => []
  | p :: ps =>
    let rest := lastById ps
    if rest.any (·.id == p.id) then rest else p :: rest

/-- Partitions with distinct ids and the id of the root. -/
structure PartitionTree where
  rootId : String
  partitions : List Partition
  deriving Repr

namespace PartitionTree

/-- The tree of a list of partitions with exactly one root. -/
def ofPartitions (ps : List Partition) : Except Error PartitionTree :=
  match (ps.filter Partition.isRoot).map Partition.id with
  | [] => .error .missingRoot
  | [r] => .ok ⟨r, lastById ps⟩
  | roots => .error (.multipleRoots roots)

/-- The number of distinct ids. -/
def size (t : PartitionTree) : Nat :=
  t.partitions.length

/-- The partition with an id. -/
def find? (t : PartitionTree) (id : String) : Option Partition :=
  t.partitions.find? (·.id == id)

/-- The children of a partition, in its list order; the first id that names no partition is an
error, the partition's own id first. -/
def children (t : PartitionTree) (id : String) : Except Error (List Partition) :=
  match t.find? id with
  | none => .error (.unknownPartition id)
  | some p => p.childIds.mapM fun c =>
    match t.find? c with
    | some q => .ok q
    | none => .error (.unknownPartition c)

/-- The ids of the leaves, in increasing order. -/
def leafIds (t : PartitionTree) : List String :=
  ((t.partitions.filter (·.isLeaf)).map (·.id)).mergeSort fun a b => decide (a ≤ b)

/-- The descent for a key from `current`, with at most `fuel` steps down. -/
def descend (t : PartitionTree) (k : Key) : Nat → Partition → Option (Except Error Partition)
  | 0, _ => none
  | fuel + 1, current =>
    if current.isLeaf then some (.ok current) else
    match t.children current.id with
    | .error e => some (.error e)
    | .ok cs =>
      match cs.find? (·.region.contains k) with
      | some c => descend t k fuel c
      | none => some (.error (.unknownPartition current.id))

/-- The leaf whose region contains a key, found by descent from the root; `none` when the
descent never ends. -/
def leafForKey (t : PartitionTree) (k : Key) : Option (Except Error Partition) :=
  match t.find? t.rootId with
  | some root => descend t k (t.size + 1) root
  | none => some (.error (.unknownPartition t.rootId))

end PartitionTree

end TableState
