import TableState.Store.Columns
import TableState.Revision
import TableState.Url.ObjectStore

/-!
# Snapshot series

The snapshot backend keeps each kind of record as a series of immutable snapshots in an object
store. A revision pointer, an item under the kind's pointer key, names the current snapshot; the
snapshot of revision `r` lies at the base location joined with `<kind>/<r>.parquet`.

* Initialising writes revision 1 and creates the pointer; an existing pointer refuses it.
* Reading follows the pointer; no pointer means the state was never initialised.
* Updating reads the current records, applies a change, writes the result as the next revision
  and moves the pointer from the revision read to the new one. A change that reports no
  difference writes nothing. A series allowed no attempts fails every update at once, and a
  current revision numbered 2^64 - 1 has no next one.

The snapshot is written before the pointer moves. A call returns the state it leaves with its
result: as it was when it fails before writing, and with the pointer as the refused move left it
and the snapshot written deleted again when the pointer refuses to move.

Each revision gets a fresh token, so two snapshots never share a path unless the base location
maps different names to one path. Objects are kept per store and path, so a path that two series
share holds whatever was written there last, as a real store would.

Main definitions:

* `SnapshotObject`, `ObjectStores`: what the object stores hold.
* `SnapshotFormat`, `partitionFormat`, `fileFormat`: how records are stored.
* `SnapshotSeries.snapshot`: where the snapshot of a revision goes, and what it holds.
* `SnapshotSeries.initialise`, `SnapshotSeries.read`, `SnapshotSeries.update`.
-/

set_option autoImplicit false

namespace TableState

/-- The content of a snapshot object: the records of one kind. -/
inductive SnapshotObject where
  | partitions (ps : List Partition)
  | files (fs : List FileRecord)
  deriving DecidableEq, Repr

/-- Where an object lies: its store and its path. -/
abbrev ObjectLocation := StoreKey × String

/-- The objects of every object store, with the number of revision tokens issued so far. -/
structure ObjectStores where
  objects : List (ObjectLocation × SnapshotObject)
  tokens : Nat
  deriving Repr

namespace ObjectStores

/-- Object stores without objects. -/
def empty : ObjectStores := ⟨[], 0⟩

/-- The object at a location. -/
def get? (o : ObjectStores) (loc : ObjectLocation) : Option SnapshotObject :=
  (o.objects.find? (·.1 == loc)).map (·.2)

/-- Writes an object at a location, replacing what was there. -/
def put (o : ObjectStores) (loc : ObjectLocation) (obj : SnapshotObject) : ObjectStores :=
  { o with objects := (loc, obj) :: o.objects.filter (·.1 != loc) }

/-- Deletes the object at a location. -/
def delete (o : ObjectStores) (loc : ObjectLocation) : ObjectStores :=
  { o with objects := o.objects.filter (·.1 != loc) }

/-- A token no revision has had yet. -/
def freshToken (o : ObjectStores) : String × ObjectStores :=
  ("rev" ++ toString o.tokens, { o with tokens := o.tokens + 1 })

end ObjectStores

/-- How the records of one kind are stored: the kind, the object of a record list (refused for
lists the columns cannot hold), and the records of an object. -/
structure SnapshotFormat (α : Type) where
  kind : RevisionKind
  encode : List α → Except Error SnapshotObject
  decode : SnapshotObject → Except Error (List α)

/-- Partitions are stored as partition columns. An object of files with no rows reads as no
partitions; with rows, its columns are not those of partitions. -/
def partitionFormat : SnapshotFormat Partition where
  kind := .partitions
  encode ps := (PartitionColumns.ofPartitions ps).map fun _ => .partitions ps
  decode
    | .partitions ps => .ok ps
    | .files [] => .ok []
    | .files _ => .error (.deserialize "partitions")

/-- File records are stored as file columns, as partitions are. -/
def fileFormat : SnapshotFormat FileRecord where
  kind := .files
  encode fs := (FileColumns.ofFiles fs).map fun _ => .files fs
  decode
    | .files fs => .ok fs
    | .partitions [] => .ok []
    | .partitions _ => .error (.deserialize "files")

/-- The state a snapshot series reads and changes: the table's revision pointers and the object
stores. -/
structure SnapshotState where
  pointers : ItemTable
  objects : ObjectStores
  deriving Repr

/-- The location of a revision's snapshot under a base location. -/
def snapshotUrl (L : UrlLibrary) (base : Url) (k : RevisionKind) (r : RevisionId) :
    Except Error Url :=
  match L.join base (k.name ++ "/" ++ r.toText ++ ".parquet") with
  | .ok u => .ok u
  | .error _ => .error (.backend "snapshot path")

/-- The store and path of a location; either failing fails `operation`. -/
def objectLocation (L : UrlLibrary) (u : Url) (operation : String) :
    Except Error ObjectLocation :=
  match L.objectPath u, u.storeKey with
  | .ok p, .ok k => .ok (k, p.toText)
  | _, _ => .error (.backend operation)

/-- A series of snapshots of one kind of record under a base location, whose locations the
libraries `urls` read. An update whose pointer swap is refused on every one of `maxAttempts`
attempts fails; with one writer the swap always succeeds, since the pointer still names the
revision just read. -/
structure SnapshotSeries (α : Type) where
  format : SnapshotFormat α
  base : Url
  urls : UrlLibrary
  maxAttempts : Nat

namespace SnapshotSeries

variable {α : Type}

/-- The location and the object of the snapshot of records at a revision. -/
def snapshot (s : SnapshotSeries α) (r : RevisionId) (rs : List α) :
    Except Error (ObjectLocation × SnapshotObject) := do
  let url ← snapshotUrl s.urls s.base s.format.kind r
  let obj ← s.format.encode rs
  let loc ← objectLocation s.urls url "write snapshot"
  pure (loc, obj)

/-- Writes the first snapshot and creates the pointer. -/
def initialise (s : SnapshotSeries α) (st : SnapshotState) (rs : List α) :
    SnapshotState × Except Error Unit :=
  match s.format.kind.current st.pointers with
  | .error e => (st, .error e)
  | .ok (some _) => (st, .error .alreadyInitialised)
  | .ok none =>
    let r := RevisionId.initial st.objects.freshToken.1
    match s.snapshot r rs with
    | .error e => (st, .error e)
    | .ok (loc, obj) =>
      let o := st.objects.freshToken.2.put loc obj
      match s.format.kind.create st.pointers r with
      | (.committed, t) => (⟨t, o⟩, .ok ())
      | (.conditionFailed .., t) => (⟨t, o.delete loc⟩, .error .alreadyInitialised)

/-- The current revision and its records. -/
def read (s : SnapshotSeries α) (st : SnapshotState) : Except Error (RevisionId × List α) := do
  let some r ← s.format.kind.current st.pointers | throw .notInitialised
  let url ← snapshotUrl s.urls s.base s.format.kind r
  let loc ← objectLocation s.urls url "read snapshot"
  let some obj := st.objects.get? loc | throw (.backend "read snapshot")
  pure (r, ← s.format.decode obj)

/-- The current records. -/
def records (s : SnapshotSeries α) (st : SnapshotState) : Except Error (List α) :=
  (s.read st).map (·.2)

/-- Applies a change to the current records and makes the result the next revision. The change
gives `none` when it changes nothing, and then nothing is written. -/
def update (s : SnapshotSeries α) (st : SnapshotState)
    (change : List α → Except Error (Option (List α))) : SnapshotState × Except Error Unit :=
  if s.maxAttempts = 0 then (st, .error (.retriesExhausted 0)) else
  match s.read st with
  | .error e => (st, .error e)
  | .ok (cur, rs) =>
    match change rs with
    | .error e => (st, .error e)
    | .ok none => (st, .ok ())
    | .ok (some rs') =>
      match cur.next? st.objects.freshToken.1 with
      | none => (st, .error .revisionOverflow)
      | some next =>
        match s.snapshot next rs' with
        | .error e => (st, .error e)
        | .ok (loc, obj) =>
          let o := st.objects.freshToken.2.put loc obj
          match s.format.kind.moveFrom st.pointers cur next with
          | (.committed, t) => (⟨t, o⟩, .ok ())
          | (.conditionFailed .., t) => (⟨t, o.delete loc⟩, .error (.retriesExhausted s.maxAttempts))

end SnapshotSeries

end TableState
