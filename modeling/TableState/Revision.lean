import TableState.Item.Table

/-!
# Revisions and revision pointers

A revision id names one version of a snapshot: a revision number and a token that tells apart
versions written concurrently. Its text is the number in decimal, padded with zeros to twelve
digits, a dash, and the token; the padding makes text order follow number order. Reading splits
at the first dash: the part before must be an unsigned 64-bit decimal number, optionally
preceded by a plus sign, and the token after it must not be empty.

A revision pointer is an item under a fixed key of an item table, whose attribute `revision`
holds the text of the current revision id. It is created only where none exists, and moved only
from the revision it still holds.

Main definitions:

* `parseUInt64`: unsigned 64-bit decimal numbers.
* `RevisionId`, `RevisionId.toText`, `RevisionId.parse`, `RevisionId.next`, `RevisionId.next?`.
* `RevisionKind` and the pointer operations `RevisionKind.current`, `RevisionKind.create`,
  `RevisionKind.moveFrom`.
-/

set_option autoImplicit false

namespace TableState

/-- The value of decimal digits, `none` unless every character is an ASCII digit. -/
def decimalValue (cs : List Char) : Option Nat :=
  cs.foldl (fun acc c => acc.bind fun n =>
    if '0' ≤ c ∧ c ≤ '9' then some (n * 10 + (c.toNat - 48)) else none) (some 0)

/-- An unsigned 64-bit decimal number: at least one ASCII digit, an optional leading plus sign,
and a value below 2^64. -/
def parseUInt64 (s : String) : Option Nat :=
  let digits := match s.toList with
    | '+' :: rest => rest
    | cs => cs
  if digits.isEmpty then none else
  match decimalValue digits with
  | some n => if n < Nat.pow 2 64 then some n else none
  | none => none

/-- A revision number and a token. -/
structure RevisionId where
  revision : Nat
  token : String
  deriving DecidableEq, Repr, Inhabited

namespace RevisionId

/-- The text of a number padded with zeros to at least `width` digits. -/
def padded (width n : Nat) : String :=
  let ds := toString n
  String.ofList (List.replicate (width - ds.length) '0') ++ ds

/-- The text of a revision id: the number padded to twelve digits, a dash, the token. -/
def toText (r : RevisionId) : String :=
  padded 12 r.revision ++ "-" ++ r.token

/-- Reads the text of a revision id. -/
def parse (s : String) : Except Error RevisionId :=
  match s.toList.span (· != '-') with
  | (number, '-' :: token) =>
    match parseUInt64 (String.ofList number) with
    | some n => if token.isEmpty then .error (.deserialize "revision id")
      else .ok ⟨n, String.ofList token⟩
    | none => .error (.deserialize "revision id")
  | _ => .error (.deserialize "revision id")

/-- The first revision. -/
def initial (token : String) : RevisionId := ⟨1, token⟩

/-- The revision after this one, with a new token. -/
def next (r : RevisionId) (token : String) : RevisionId := ⟨r.revision + 1, token⟩

/-- The revision after this one, or `none` when its number is the largest 64-bit number and has
no successor. Revisions a store writes start at one and grow by one, so they never get there;
only a revision read from text can. -/
def next? (r : RevisionId) (token : String) : Option RevisionId :=
  if r.revision + 1 < Nat.pow 2 64 then some (r.next token) else none

end RevisionId

/-- What a snapshot holds: partitions or files. -/
inductive RevisionKind where
  | partitions
  | files
  deriving DecidableEq, Repr, Inhabited

namespace RevisionKind

/-- The name of a kind, which also names its snapshot objects. -/
def name : RevisionKind → String
  | partitions => "partitions"
  | files => "files"

/-- The key of the pointer item of a kind. -/
def pointerKey : RevisionKind → String
  | partitions => "CURRENT_PARTITIONS_REVISION_ID"
  | files => "CURRENT_FILES_REVISION_ID"

/-- The attribute of the pointer item that holds the revision text. -/
def revisionAttribute : String := "revision"

/-- The current revision of a kind, if its pointer exists. -/
def current (k : RevisionKind) (t : ItemTable) : Except Error (Option RevisionId) :=
  match t.get? k.pointerKey with
  | none => .ok none
  | some i =>
    match i.getString? revisionAttribute with
    | some text => (RevisionId.parse text).map some
    | none => .error (.deserialize "revision pointer")

/-- Creates the pointer of a kind at `r`, where no pointer exists yet. -/
def create (k : RevisionKind) (t : ItemTable) (r : RevisionId) : WriteOutcome × ItemTable :=
  t.transact [.put k.pointerKey (Item.empty.set revisionAttribute (.string r.toText)) .absent]

/-- Moves the pointer of a kind from `cur` to `next`, where it still holds `cur`. -/
def moveFrom (k : RevisionKind) (t : ItemTable) (cur next : RevisionId) :
    WriteOutcome × ItemTable :=
  t.transact [.put k.pointerKey (Item.empty.set revisionAttribute (.string next.toText))
    (.attributeEquals revisionAttribute (.string cur.toText))]

end RevisionKind

end TableState
