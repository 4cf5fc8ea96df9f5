import TableState.Store.Provider
import TableState.Partition.Split
import TableState.Partition.FromSplitPoints
import TableState.Partition.Tree
import TableState.Config.Properties

/-!
# Sessions on state stores

A session is a script of steps run against one provider, one set of object stores and a clock
that moves only when a step moves it. Opening a table gets its state store from the provider and
makes it the current table; every other step on a table names it, or goes to the current one.
Each step has its own answer, and a step that fails leaves the session as it was, except where a
change documents otherwise. Every object store of a session is held in memory, so a snapshot
table whose URL names another kind of store is not opened.

Besides the changes and reads of a table, a session can split a partition it names: it reads the
stored partitions, takes the one with that id, splits it with the given names or `<id>.L` and
`<id>.R`, and applies the split. It can look up the leaf of a key through the stored tree.

The clock holds instants (`isInstant`). A step that would move the clock outside them, or
compute a garbage collection cutoff outside them, stops the whole session: it has no answers
then. So does an update past the largest revision number (`Session.stops`).

Main definitions:

* `TableRead`, `SplitParent`, `TableStep`, `SessionStep`: what a step asks.
* `SessionReply`, `StepFailure`: what a step answers.
* `Session`, `Session.start`, `Session.step`, `Session.stops`, `Session.run`, `Session.runFrom`.
-/

set_option autoImplicit false

namespace TableState

/-- A read of a table's state. -/
inductive TableRead where
  | allPartitions
  | leafPartitions
  | fileInPartitionRecords
  | unassignedRecords
  | lifecycleRecords
  | activeRecords
  | readyForGc
  | readyForGcFilenames
  | partitionMap
  | leafForKey (k : Key)
  | tableName
  | schema

/-- The partition a split starts from: the stored one with an id, or a given copy. -/
inductive SplitParent where
  | stored (id : String)
  | given (p : Partition)

/-- A step on one table. -/
inductive TableStep where
  | change (c : TableChange)
  /-- Initialises the table with the tree of split points, ids `idPrefix` followed by the
  position. -/
  | initialiseSplitPoints (points : List KeyValue) (idPrefix : String)
  /-- Splits a partition and applies the split; the children's names default to the parent's id
  followed by `.L` and `.R`. -/
  | splitLeaf (parent : SplitParent) (dimension : Nat) (point : KeyValue) (left right : Option String)
  | read (r : TableRead)

/-- A step of a session. -/
inductive SessionStep where
  | openTable (props : TableProperties)
  /-- Opens the table whose properties a YAML document describes. -/
  | openYaml (text : String)
  | advance (millis : Int)
  | setTime (millis : Int)
  | onTable (table : Option String) (s : TableStep)

/-- The answer of a step that succeeds. -/
inductive SessionReply where
  | tables (n : Nat)
  | time (millis : Int)
  | done
  | partitions (ps : List Partition)
  | files (fs : List FileRecord)
  | filenames (names : List String)
  | groups (m : List (String × List String))
  | text (s : String)
  | schema (s : Schema)

/-- Why a step fails: an error of the store, a table that was never opened, a snapshot table
whose objects would live outside memory, a lookup that would descend forever, or a time outside
the instants the clock holds, which stops the session. -/
inductive StepFailure where
  | failed (e : Error)
  | noSuchTable
  | storeOutsideMemory
  | endlessDescent
  | timeOutOfRange
  deriving DecidableEq, Repr

/-- A provider, the object stores its snapshot tables share, the clock, and the current table. -/
structure Session where
  provider : Provider
  objects : ObjectStores
  now : Int
  current : Option String

namespace Session

/-- A session with no tables at time `now`, making five attempts per snapshot update. -/
def start (now : Int) : Session :=
  ⟨Provider.empty 5, ObjectStores.empty, now, none⟩

/-- The answer of a read. -/
def read (s : Session) (t : TableStore) : TableRead → Except StepFailure SessionReply
  | .allPartitions => lift .partitions (t.allPartitions s.objects)
  | .leafPartitions => lift .partitions (t.leafPartitions s.objects)
  | .fileInPartitionRecords => lift .files (t.fileInPartitionRecords s.objects)
  | .unassignedRecords => lift .files (t.unassignedRecords s.objects)
  | .lifecycleRecords => lift .files (t.lifecycleRecords s.objects)
  | .activeRecords => lift .files (t.activeRecords s.objects)
  | .readyForGc =>
    if isInstant (s.now - t.gcDelayMillis) then lift .files (t.readyForGc s.objects s.now)
    else .error .timeOutOfRange
  | .readyForGcFilenames =>
    if isInstant (s.now - t.gcDelayMillis) then
      lift (fun fs => .filenames (fs.map (·.filename))) (t.readyForGc s.objects s.now)
    else .error .timeOutOfRange
  | .partitionMap => lift .groups (t.partitionMap s.objects)
  | .leafForKey k =>
    match t.allPartitions s.objects >>= PartitionTree.ofPartitions with
    | .error e => .error (.failed e)
    | .ok tree =>
      match tree.leafForKey k with
      | none => .error .endlessDescent
      | some (.error e) => .error (.failed e)
      | some (.ok p) => .ok (.text p.id)
  | .tableName => .ok (.text t.name)
  | .schema => .ok (.schema t.schema)
where
  /-- A store result as an answer. -/
  lift {α : Type} (f : α → SessionReply) : Except Error α → Except StepFailure SessionReply
    | .ok a => .ok (f a)
    | .error e => .error (.failed e)

/-- The session after a change of a table, with the change's outcome. -/
def applyChange (s : Session) (t : TableStore) (c : TableChange) :
    Except StepFailure SessionReply × Session :=
  let ((t', o), r) := t.change s.objects s.now c
  let s' := { s with provider := s.provider.replace t', objects := o }
  match r with
  | .ok () => (.ok .done, s')
  | .error e => (.error (.failed e), s')

/-- The partition a split starts from. -/
def splitParent (s : Session) (t : TableStore) : SplitParent → Except Error Partition
  | .given p => .ok p
  | .stored id => do
    let ps ← t.allPartitions s.objects
    match ps.find? (·.id == id) with
    | some p => pure p
    | none => throw (.unknownPartition id)

/-- Runs a step on a table. -/
def tableStep (s : Session) (t : TableStore) : TableStep → Except StepFailure SessionReply × Session
  | .change c => s.applyChange t c
  | .initialiseSplitPoints points idPrefix =>
    match Partition.fromSplitPoints t.schema points idPrefix with
    | .ok ps => s.applyChange t (.initialiseWith ps)
    | .error e => (.error (.failed e), s)
  | .splitLeaf parent dimension point left right =>
    let made := do
      let p ← s.splitParent t parent
      Partition.split p dimension point (left.getD (p.id ++ ".L")) (right.getD (p.id ++ ".R"))
    match made with
    | .ok r => s.applyChange t (.split r.parent r.left r.right)
    | .error e => (.error (.failed e), s)
  | .read r => (s.read t r, s)

/-- Whether properties describe a snapshot table whose URL reads as a location with a scheme
other than `mem`. A session keeps every object in memory, so it does not open such a table; a
URL that does not read is left for the provider to report. -/
def outsideMemory (props : TableProperties) : Bool :=
  match props.backend, props.snapshotUrl.bind UrlLibrary.standard.parse with
  | .snapshot, some u => u.scheme != "mem"
  | _, _ => false

/-- Opens the table of the properties, if they were read, and makes it the current table. -/
def openWith (s : Session) : Except Error TableProperties → Except StepFailure SessionReply × Session
  | .ok props =>
    if outsideMemory props then (.error .storeOutsideMemory, s) else
    match s.provider.stateStore props with
    | .ok (t, p) => (.ok (.tables p.size), { s with provider := p, current := some t.name })
    | .error e => (.error (.failed e), s)
  | .error e => (.error (.failed e), s)

/-- Sets the clock to a time, which must be an instant. -/
def moveClock (s : Session) (t : Int) : Except StepFailure SessionReply × Session :=
  if isInstant t then (.ok (.time t), { s with now := t }) else (.error .timeOutOfRange, s)

/-- Runs one step. -/
def step (s : Session) : SessionStep → Except StepFailure SessionReply × Session
  | .openTable props => s.openWith (.ok props)
  | .openYaml text => s.openWith (TableProperties.fromYaml text)
  | .advance millis => s.moveClock (s.now + millis)
  | .setTime millis => s.moveClock millis
  | .onTable table ts =>
    match (table <|> s.current).bind s.provider.find? with
    | some t => s.tableStep t ts
    | none => (.error .noSuchTable, s)

/-- Whether an answer stops the whole session, as a panic of the store would: a time outside
the instants, or an update past the largest revision number. -/
def stops : Except StepFailure SessionReply → Bool
  | .error .timeOutOfRange | .error (.failed .revisionOverflow) => true
  | _ => false

/-- The answers of the steps of a script, run in order from `s`, or `none` when a step stops
the session. -/
def run (s : Session) : List SessionStep → Option (List (Except StepFailure SessionReply))
  | [] => some []
  | st :: rest =>
    match s.step st with
    | (r, s') => if stops r then none else (s'.run rest).map (r :: ·)

/-- The answers of a script run from a session that starts at `now`, or `none` when `now` is not
an instant or a step stops the session. -/
def runFrom (now : Int) (steps : List SessionStep) : Option (List (Except StepFailure SessionReply)) :=
  if isInstant now then (start now).run steps else none

end Session

end TableState
