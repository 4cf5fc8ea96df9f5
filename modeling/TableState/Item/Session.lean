import TableState.Revision

/-!
# Scripted use of an item table

A script runs steps one after another on one item table, each step reading or changing it, and
answers every step. A failed step answers with its error and leaves the table as it was.

Main definitions:

* `ItemStep`: reads, scans, transactions and revision pointer steps.
* `ItemReply`: what a step answers.
* `ItemStep.run`, `ItemStep.runAll`.
-/

set_option autoImplicit false

namespace TableState

/-- A step of a script on an item table. Revision ids are given as text. -/
inductive ItemStep where
  | get (key : String)
  | scan (pfx : String) (startAfter : Option String) (limit : Nat)
  | scanAll (pfx : String) (pageSize : Nat)
  | transact (ops : List WriteOp)
  | revisionCurrent (kind : RevisionKind)
  | revisionCreate (kind : RevisionKind) (revision : String)
  | revisionUpdate (kind : RevisionKind) (current next : String)
  deriving Repr

/-- The answer of a step. -/
inductive ItemReply where
  | item (i : Option Item)
  | page (p : ScanPage)
  | entries (es : List (String × Item))
  | outcome (o : WriteOutcome)
  | revision (r : Option RevisionId)
  deriving Repr

namespace ItemStep

/-- Runs a step: its answer and the table after it. -/
def run (t : ItemTable) : ItemStep → Except Error ItemReply × ItemTable
  | get k => (.ok (.item (t.get? k)), t)
  | scan p s n => (.ok (.page (t.scan p s n)), t)
  | scanAll p n => (.ok (.entries (t.scanAll p n)), t)
  | transact ops =>
    let r := t.transact ops
    (.ok (.outcome r.1), r.2)
  | revisionCurrent k => ((k.current t).map .revision, t)
  | revisionCreate k text =>
    match RevisionId.parse text with
    | .ok r =>
      let o := k.create t r
      (.ok (.outcome o.1), o.2)
    | .error e => (.error e, t)
  | revisionUpdate k cur next =>
    match RevisionId.parse cur, RevisionId.parse next with
    | .ok c, .ok n =>
      let o := k.moveFrom t c n
      (.ok (.outcome o.1), o.2)
    | .error e, _ => (.error e, t)
    | _, .error e => (.error e, t)

/-- Runs steps in order from a table, answering each. -/
def runAll (t : ItemTable) : List ItemStep → List (Except Error ItemReply)
  | [] => []
  | s :: ss =>
    let r := run t s
    r.1 :: runAll r.2 ss

end ItemStep

end TableState
