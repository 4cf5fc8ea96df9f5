import TableState.Item.Basic

/-!
# Item tables

An item table maps string keys to items, keys in increasing order (code point order, which is
the order of their UTF-8 bytes).

A transaction applies a list of writes in order, each seeing the effect of those before it. A
write fails when its condition does not hold of the item then under its key, and an update
also fails when no item is there. The first failure cancels the whole transaction, which
reports the failing position and key; otherwise all writes take effect.

A scan reads a page of entries in key order: from just after `startAfter`, or from `prefix`
itself, while keys start with `prefix`, at most `limit` of them (no limit when `limit` is 0).
The page names its last key when it is full, so that the next page can start after it.

Main definitions:

* `ItemTable`, `ItemTable.get?`, `ItemTable.put`, `ItemTable.erase`.
* `WriteOutcome`, `ItemTable.transact`.
* `ScanPage`, `ItemTable.scan`, `ItemTable.scanAll`.
-/

set_option autoImplicit false

namespace TableState

/-- Entries under distinct keys, in increasing key order. -/
structure ItemTable where
  entries : List (String × Item)
  deriving Repr, Inhabited

/-- The result of a transaction. -/
inductive WriteOutcome where
  | committed
  | conditionFailed (index : Nat) (key : String)
  deriving DecidableEq, Repr

/-- A page of a scan and, when the page is full, its last key. -/
structure ScanPage where
  items : List (String × Item)
  lastKey : Option String
  deriving Repr

namespace ItemTable

/-- The table without entries. -/
def empty : ItemTable := ⟨[]⟩

/-- The item under a key. -/
def get? (t : ItemTable) (key : String) : Option Item :=
  (t.entries.find? (·.1 == key)).map (·.2)

/-- Stores `i` under `key` in entries sorted by key. -/
def insertSorted (key : String) (i : Item) : List (String × Item) → List (String × Item)
  | [] => [(key, i)]
  | (k, j) :: rest =>
    if key < k then (key, i) :: (k, j) :: rest
    else if key = k then (key, i) :: rest
    else (k, j) :: insertSorted key i rest

/-- The table with `i` stored under `key`. -/
def put (t : ItemTable) (key : String) (i : Item) : ItemTable :=
  ⟨insertSorted key i t.entries⟩

/-- The table without the entry under `key`. -/
def erase (t : ItemTable) (key : String) : ItemTable :=
  ⟨t.entries.filter (·.1 != key)⟩

/-- The table with the entry under `key` set to `i`, or removed for `none`. -/
def store (t : ItemTable) (key : String) : Option Item → ItemTable
  | some i => t.put key i
  | none => t.erase key

/-- Whether a write may take effect on the table: its condition holds, and an update finds a
stored item. -/
def admits (t : ItemTable) (op : WriteOp) : Bool :=
  let cur := t.get? op.key
  let updatesMissing := match op with
    | .update .. => cur.isNone
    | _ => false
  !updatesMissing && op.condition.holds cur

/-- Applies writes in order from position `index`; the first that may not take effect gives its
position and key. -/
def applyAll (t : ItemTable) (index : Nat) : List WriteOp → Except (Nat × String) ItemTable
  | [] => .ok t
  | op :: ops =>
    if t.admits op then applyAll (t.store op.key (op.apply (t.get? op.key))) (index + 1) ops
    else .error (index, op.key)

/-- A transaction: all writes take effect, or none and the first failure is reported. -/
def transact (t : ItemTable) (ops : List WriteOp) : WriteOutcome × ItemTable :=
  match t.applyAll 0 ops with
  | .ok t' => (.committed, t')
  | .error (i, k) => (.conditionFailed i k, t)

/-- A page of entries: after `startAfter`, or from `pfx` on, while keys start with `pfx`, at most
`limit` of them when `limit` is positive. -/
def scan (t : ItemTable) (pfx : String) (startAfter : Option String) (limit : Nat) : ScanPage :=
  let start : List (String × Item) := match startAfter with
    | some s => t.entries.filter fun e => decide (s < e.1)
    | none => t.entries.filter fun e => decide (pfx ≤ e.1)
  let matching := start.takeWhile fun e => pfx.isPrefixOf e.1
  let items := if limit = 0 then matching else matching.take limit
  ⟨items, if items.length = limit then items.getLast?.map (·.1) else none⟩

/-- Pages through a scan, each page starting after the last key of the one before, until a page
is not full. Each further page starts after a key of the table, so the number of entries bounds
the number of pages. -/
def scanPages (t : ItemTable) (pfx : String) (pageSize : Nat) :
    Nat → Option String → List (String × Item)
  | 0, _ => []
  | fuel + 1, startAfter =>
    let page := t.scan pfx startAfter pageSize
    match page.lastKey with
    | some k => page.items ++ scanPages t pfx pageSize fuel (some k)
    | none => page.items

/-- Every entry whose key starts with `pfx`, read page by page. -/
def scanAll (t : ItemTable) (pfx : String) (pageSize : Nat) : List (String × Item) :=
  t.scanPages pfx pageSize (t.entries.length + 1) none

end ItemTable

end TableState
