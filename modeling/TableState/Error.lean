import TableState.Key.Value

/-!
# Errors

Every way an operation of this library can fail, as one inductive type. Each constructor is a
cause; `Error.message` gives the one-line text that reports it. Identifiers are written between
single quotes; an identifier that may hold a NUL character and lists of identifiers are written
quoted (`TableState.Text.quote`, `TableState.Text.quoteList`).

Main definitions:

* `Error`: the causes, grouped into the key space and partition tree, the stored table state, and
  configuration.
* `Error.message`: the text of each cause.
-/

set_option autoImplicit false

namespace TableState

/-- The causes of failure of the operations of this library. -/
inductive Error where
  /-- A schema was given no row key field. -/
  | noRowKeys
  /-- A dimension beyond the row key fields was named. -/
  | noSuchDimension (dimension : Nat)
  /-- A key value of the wrong type was given. -/
  | keyTypeMismatch (expected actual : KeyType)
  /-- Split points that do not strictly increase. -/
  | unsortedSplitPoints
  /-- A split point that the partition's range does not strictly contain. -/
  | splitPointOutsidePartition (id : String)
  /-- A split of a partition that is not a leaf. -/
  | notALeaf (id : String)
  /-- A partition list without a root. -/
  | missingRoot
  /-- A partition list with more than one root. -/
  | multipleRoots (ids : List String)
  /-- A partition id that names no partition. -/
  | unknownPartition (id : String)
  /-- A required field left empty. -/
  | missingField (field : String)
  /-- A partition list that is not a single tree with consistent links. -/
  | invalidPartitions
  /-- A split whose parent is not given in its split form. -/
  | invalidSplitParent (id : String)
  /-- A stored parent that is no longer a leaf. -/
  | parentNotLeaf (id : String)
  /-- A split parent whose children are not the two given partitions. -/
  | childrenMismatch (parent : String) (expected actual : List String)
  /-- A new child that does not name the split parent as its parent. -/
  | childParentMismatch (child parent : String)
  /-- A new child that is not a leaf. -/
  | childNotLeaf (id : String)
  /-- Children whose regions do not exactly cover their parent's region. -/
  | childRegionsMismatch (id : String)
  /-- A split parent whose region differs from the stored one. -/
  | parentRegionMismatch (id : String)
  /-- An identifier holding a NUL character. -/
  | invalidIdentifier (id : String)
  /-- A partition id that is already stored. -/
  | partitionAlreadyExists (id : String)
  /-- A file that is already recorded. -/
  | fileAlreadyExists (filename : String)
  /-- A file-in-partition record that is not stored. -/
  | fileInPartitionMissing (filename partitionId : String)
  /-- A file-in-partition record named twice in one request. -/
  | duplicateFileInPartition (filename partitionId : String)
  /-- A file-in-partition record that already has a job. -/
  | jobAlreadyAssigned (filename partitionId : String)
  /-- A lifecycle record that is not pending garbage collection. -/
  | fileNotReadyForDeletion (filename : String)
  /-- A change that lost a race with another writer. -/
  | concurrentModification (what : String)
  /-- A snapshot update that conflicted on every attempt. -/
  | retriesExhausted (attempts : Nat)
  /-- A revision numbered 2^64 - 1, the largest 64-bit number, that an update would follow:
  adding one overflows, and the store panics. -/
  | revisionOverflow
  /-- An initialisation of state that is already initialised. -/
  | alreadyInitialised
  /-- A read or write of state that was never initialised. -/
  | notInitialised
  /-- A storage operation that failed. -/
  | backend (operation : String)
  /-- A value that cannot be written in its stored form. -/
  | serialize (what : String)
  /-- A stored form that cannot be read back. -/
  | deserialize (what : String)
  /-- Configuration that cannot be read or is not valid. -/
  | invalidConfig
  /-- A file status name that is not one of the three. -/
  | unknownFileStatus (text : String)
  deriving DecidableEq, Repr, Inhabited

namespace Error

/-- The text that reports an error. -/
def message : Error → String
  | noRowKeys => "schema must have at least one row key field"
  | noSuchDimension d => "no row key field at dimension " ++ toString d
  | keyTypeMismatch e a =>
    "expected key of type " ++ e.debugName ++ " but was " ++ a.debugName
  | unsortedSplitPoints => "split points must be strictly increasing"
  | splitPointOutsidePartition id => "split point is outside of partition '" ++ id ++ "'"
  | notALeaf id => "partition '" ++ id ++ "' is not a leaf"
  | missingRoot => "partition tree has no root"
  | multipleRoots ids => "partition tree has more than one root: " ++ Text.quoteList ids
  | unknownPartition id => "no partition with id '" ++ id ++ "'"
  | missingField f => "missing required field '" ++ f ++ "'"
  | invalidPartitions => "invalid partitions"
  | invalidSplitParent id =>
    "partition '" ++ id ++
      "' must be passed in its split form (not a leaf, with a split dimension)"
  | parentNotLeaf id => "partition '" ++ id ++ "' is not a leaf"
  | childrenMismatch p e a =>
    "partition '" ++ p ++ "' should have children " ++ Text.quoteList e ++ " but has " ++
      Text.quoteList a
  | childParentMismatch c p => "partition '" ++ c ++ "' should have parent '" ++ p ++ "'"
  | childNotLeaf id => "new partition '" ++ id ++ "' must be a leaf"
  | childRegionsMismatch id =>
    "regions of the children of '" ++ id ++ "' do not exactly cover its region"
  | parentRegionMismatch id =>
    "region of partition '" ++ id ++ "' does not match the stored partition"
  | invalidIdentifier id => "identifier " ++ Text.quote id ++ " contains a NUL character"
  | partitionAlreadyExists id => "partition '" ++ id ++ "' already exists"
  | fileAlreadyExists f => "file '" ++ f ++ "' already exists"
  | fileInPartitionMissing f p =>
    "no file-in-partition record for file '" ++ f ++ "' in partition '" ++ p ++ "'"
  | duplicateFileInPartition f p =>
    "file '" ++ f ++ "' in partition '" ++ p ++ "' is named more than once"
  | jobAlreadyAssigned f p =>
    "file '" ++ f ++ "' in partition '" ++ p ++ "' is already assigned to a job"
  | fileNotReadyForDeletion f => "file '" ++ f ++ "' is not ready for garbage collection"
  | concurrentModification what => "concurrent modification of " ++ what
  | retriesExhausted n => "gave up after " ++ toString n ++ " conflicting update attempts"
  | revisionOverflow => "attempt to add with overflow"
  | alreadyInitialised => "state store is already initialised"
  | notInitialised => "state store is not initialised"
  | backend op => "failed to perform '" ++ op ++ "' on backend"
  | serialize what => "failed to serialize " ++ what
  | deserialize what => "failed to deserialize " ++ what
  | invalidConfig => "invalid configuration"
  | unknownFileStatus text => "unknown file status '" ++ text ++ "'"

end Error

end TableState
