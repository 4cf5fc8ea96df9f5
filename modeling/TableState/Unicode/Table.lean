/-!
# Code point tables

Character data is kept as text and read into sorted arrays once. A table text is a list of
entries separated by spaces; an entry is a code point in lowercase hexadecimal, a colon, and a
payload. A range table gives each entry's payload to every code point from its own up to the
next entry's; a key table gives it to its own code point only.

Lookups search the sorted code points by halving the interval; the number of rounds is bounded
by the logarithm of the table size, passed as fuel, so every lookup is a total function.

Main definitions:

* `hexValue`, `hexList`, `tableEntries`.
* `lastAtMost`: the last position whose key is at most a given one.
* `CodeTable`, `CodeTable.ofText`, `CodeTable.rangeValue`, `CodeTable.exactValue?`.
-/

set_option autoImplicit false

namespace TableState.Unicode

/-- Whether a character is a lowercase hexadecimal digit. -/
def isHexDigit (c : Char) : Bool :=
  ('0' ≤ c && c ≤ '9') || ('a' ≤ c && c ≤ 'f')

/-- The value of a lowercase hexadecimal digit; other characters count as zero. -/
def hexDigitValue (c : Char) : Nat :=
  if '0' ≤ c ∧ c ≤ '9' then c.toNat - 48
  else if 'a' ≤ c ∧ c ≤ 'f' then c.toNat - 87
  else 0

/-- The value of lowercase hexadecimal digits. -/
def hexValue (cs : List Char) : Nat :=
  cs.foldl (fun n c => n * 16 + hexDigitValue c) 0

/-- Splits the rest of a list at every separator; `piece` holds the current piece reversed and
`done` the finished pieces reversed. -/
def splitOnFrom {α : Type} [BEq α] (sep : α) : List α → List α → List (List α) → List (List α)
  | [], piece, done => (piece.reverse :: done).reverse
  | c :: rest, piece, done =>
    if c == sep then splitOnFrom sep rest [] (piece.reverse :: done)
    else splitOnFrom sep rest (c :: piece) done

/-- Splits a list at every occurrence of a separator. -/
def splitOn {α : Type} [BEq α] (sep : α) (cs : List α) : List (List α) :=
  splitOnFrom sep cs [] []

/-- Hexadecimal numbers separated by commas. -/
def hexList (cs : List Char) : List Nat :=
  (splitOn ',' cs).map hexValue

/-- The entries of a table text: each code point with the payload after its colon. -/
def tableEntries (text : String) : List (Nat × List Char) :=
  (splitOn ' ' text.toList).filterMap fun e =>
    if e.isEmpty then none
    else some (hexValue (e.takeWhile isHexDigit), (e.dropWhile isHexDigit).drop 1)

/-- The last position in `[lo, hi)` whose key is at most `key`, or `lo` when there is none;
`keys` is sorted. Each round halves the interval, so `fuel` above the logarithm of its length
is enough. -/
def lastAtMost (keys : Array Nat) (key : Nat) : Nat → Nat → Nat → Nat
  | 0, lo, _ => lo
  | fuel + 1, lo, hi =>
    if lo + 1 < hi then
      let mid := (lo + hi) / 2
      if keys.getD mid 0 ≤ key then lastAtMost keys key fuel mid hi
      else lastAtMost keys key fuel lo mid
    else lo

/-- Code points in increasing order, each with a value. -/
structure CodeTable (α : Type) where
  keys : Array Nat
  values : Array α

namespace CodeTable

variable {α : Type}

/-- Reads a table text whose entries are in increasing order, reading each payload with
`read`. -/
def ofText (read : List Char → α) (text : String) : CodeTable α :=
  let es := tableEntries text
  ⟨(es.map (·.1)).toArray, (es.map fun e => read e.2).toArray⟩

/-- The position of the last entry at or before a code point, if there is one. -/
def position? (t : CodeTable α) (cp : Nat) : Option Nat :=
  if t.keys.getD 0 0 ≤ cp && 0 < t.keys.size then
    some (lastAtMost t.keys cp (Nat.log2 t.keys.size + 2) 0 t.keys.size)
  else none

/-- The value of the range a code point lies in, or `fallback` before the first entry. -/
def rangeValue (t : CodeTable α) (fallback : α) (cp : Nat) : α :=
  match t.position? cp with
  | some i => t.values.getD i fallback
  | none => fallback

/-- The value of the entry for exactly this code point, if there is one. -/
def exactValue? (t : CodeTable α) (cp : Nat) : Option α :=
  match t.position? cp with
  | some i => if t.keys.getD i 0 == cp then t.values[i]? else none
  | none => none

end CodeTable

end TableState.Unicode
