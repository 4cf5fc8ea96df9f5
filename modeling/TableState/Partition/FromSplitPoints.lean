import TableState.Partition.Basic

/-!
# A balanced tree from split points

Split points of the first dimension cut its range into consecutive leaves: from the type's
minimum to the first point, between adjacent points, and from the last point on without end.
Above the leaves the tree is built level by level: adjacent nodes of a level, from the left,
become the two children of a new internal node split on dimension zero, whose range runs from
the left child's minimum to the right child's maximum; an odd last node moves up unchanged.

The partitions are listed leaves first, in key order, then the internal nodes in the order they
are made, so the root comes last. The partition at position `i` has the id `prefix ++ i`.

Main definitions:

* `SplitNode`: a node of the tree by its position, its range on dimension zero and its children.
* `pairLevel`, `upperNodes`: the internal nodes, level by level.
* `Partition.fromSplitPoints`: the partitions of the tree, after the checks that every point has
  the first field's type (`Error.keyTypeMismatch`) and that the points strictly increase
  (`Error.unsortedSplitPoints`).
-/

set_option autoImplicit false

namespace TableState

/-- A node of the balanced tree: its position in the result, its range on dimension zero, and
the positions of its children if it is internal. -/
structure SplitNode where
  index : Nat
  lower : KeyValue
  upper : Option KeyValue
  children : Option (Nat × Nat)
  deriving DecidableEq, Repr

namespace SplitNode

/-- Pairs adjacent nodes of a level from the left. Each pair gets a new parent at the next free
position, starting at `next`. Returns the next level and the new parents in order. -/
def pairLevel (next : Nat) : List SplitNode → List SplitNode × List SplitNode
  | a :: b :: rest =>
    let p : SplitNode := ⟨next, a.lower, b.upper, some (a.index, b.index)⟩
    let r := pairLevel (next + 1) rest
    (p :: r.1, p :: r.2)
  | [a] => ([a], [])
  | [] => ([], [])

/-- The internal nodes above a level, level by level, with `next` the next free position. Each
level at least halves, so as many rounds as the level has nodes suffice. -/
def upperNodes (fuel next : Nat) (level : List SplitNode) : List SplitNode :=
  match fuel with
  | 0 => []
  | fuel + 1 =>
    match level with
    | _ :: _ :: _ =>
      let r := pairLevel next level
      r.2 ++ upperNodes fuel (next + r.2.length) r.1
    | _ => []

/-- The leaves for split points: consecutive ranges from `lower`, the last without end. -/
def leaves (index : Nat) (lower : KeyValue) : List KeyValue → List SplitNode
  | [] => [⟨index, lower, none, none⟩]
  | p :: ps => ⟨index, lower, some p, none⟩ :: leaves (index + 1) p ps

/-- All nodes of the tree for split points, in position order. -/
def tree (minimum : KeyValue) (points : List KeyValue) : List SplitNode :=
  let ls := leaves 0 minimum points
  ls ++ upperNodes ls.length ls.length ls

/-- The position of a node's parent among `nodes`. -/
def parentOf (nodes : List SplitNode) (i : Nat) : Option Nat :=
  (nodes.find? fun n =>
    match n.children with
    | some (l, r) => l == i || r == i
    | none => false).map SplitNode.index

end SplitNode

namespace Partition

/-- The first split point whose type is not `t`, as a type error. -/
def checkPointTypes (t : KeyType) : List KeyValue → Except Error Unit
  | [] => .ok ()
  | p :: ps => if p.keyType = t then checkPointTypes t ps else .error (.keyTypeMismatch t p.keyType)

/-- Whether each value is below the next. -/
def strictlyIncreasing : List KeyValue → Bool
  | a :: b :: rest => decide (a < b) && strictlyIncreasing (b :: rest)
  | _ => true

/-- The partitions of the balanced tree for split points, ids made from `idPrefix` and the
position. -/
def fromSplitPoints (s : Schema) (points : List KeyValue) (idPrefix : String) :
    Except Error (List Partition) := do
  let f := s.firstField
  checkPointTypes f.keyType points
  if !strictlyIncreasing points then throw .unsortedSplitPoints
  let full := Region.full s
  let nodes := SplitNode.tree f.keyType.minValue points
  let name := fun (i : Nat) => idPrefix ++ toString i
  pure <| nodes.map fun n =>
    let region := full.withRange 0 ⟨f.name, n.lower, n.upper⟩
    let parent := (SplitNode.parentOf nodes n.index).map name
    match n.children with
    | some (l, r) => ⟨name n.index, region, false, parent, [name l, name r], some 0⟩
    | none => ⟨name n.index, region, true, parent, [], none⟩

end Partition

end TableState
