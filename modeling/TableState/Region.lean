import TableState.Key.Basic
import TableState.Schema

/-!
# Ranges and regions

A range of one row key field runs from an inclusive minimum to an exclusive maximum, or without
end. A region gives one range per dimension. A key lies in a region when, at every dimension of
the region, either the key's value lies in the range, or the key has no value there and the
range starts at the minimum of its type. Values of the key beyond the region's dimensions play
no part.

Main definitions:

* `Range`, `Range.full`, `Range.contains`, `Range.strictlyContains`, `Range.display`.
* `Region`, `Region.full`, `Region.range?`, `Region.withRange`, `Region.contains`,
  `Region.display`.
* `Range.json`, `Region.json` and their readers `Range.readJson`, `Region.readJson`: the JSON
  text that stored partitions keep.
-/

set_option autoImplicit false

namespace TableState

/-- The values of one field from `min`, inclusive, up to `max`, exclusive, or without end. -/
structure Range where
  field : String
  min : KeyValue
  max : Option KeyValue
  deriving DecidableEq, Repr, Inhabited

namespace Range

/-- The range of every value of a field's type. -/
def full (f : Field) : Range :=
  ⟨f.name, f.keyType.minValue, none⟩

/-- A value lies in the range when it is at least the minimum and below the maximum. Values of
another type compare by type. -/
def contains (r : Range) (v : KeyValue) : Bool :=
  decide (r.min ≤ v) &&
    match r.max with
    | some m => decide (v < m)
    | none => true

/-- A value lies strictly inside the range when it is above the minimum and in the range. -/
def strictlyContains (r : Range) (v : KeyValue) : Bool :=
  decide (r.min < v) && r.contains v

/-- The display of a range: `field: [min, max)`, or `field: [min, MAX)` without end. -/
def display (r : Range) : String :=
  r.field ++ ": [" ++ r.min.display ++ ", " ++
    (match r.max with
     | some m => m.display
     | none => "MAX") ++ ")"

/-- The JSON text of a range. -/
def json (r : Range) : String :=
  "\x7b\"field\":" ++ Text.jsonString r.field ++ ",\"min\":" ++ r.min.json ++ ",\"max\":" ++
    (match r.max with
     | some m => m.json
     | none => "null") ++ "\x7d"

/-- Reads the JSON text of a range, in the form `json` writes, at the front of `cs`. -/
def readJson (cs : List Char) : Option (Range × List Char) := do
  let cs ← Text.expect "\x7b\"field\":" cs
  let (field, cs) ← Text.readJsonString cs
  let cs ← Text.expect ",\"min\":" cs
  let (min, cs) ← KeyValue.readJson cs
  let cs ← Text.expect ",\"max\":" cs
  let (max, cs) ← match Text.expect "null" cs with
    | some cs => some (none, cs)
    | none => (KeyValue.readJson cs).map fun r => (some r.1, r.2)
  let cs ← Text.expect "\x7d" cs
  pure (⟨field, min, max⟩, cs)

end Range

/-- One range per dimension. -/
structure Region where
  ranges : List Range
  deriving DecidableEq, Repr, Inhabited

namespace Region

/-- The region of every key of a schema. -/
def full (s : Schema) : Region :=
  ⟨s.rowKeys.map Range.full⟩

/-- The range at a dimension. -/
def range? (r : Region) (dimension : Nat) : Option Range :=
  r.ranges[dimension]?

/-- The region with the range at a dimension replaced. -/
def withRange (r : Region) (dimension : Nat) (range : Range) : Region :=
  ⟨r.ranges.set dimension range⟩

/-- Whether a range admits a key at its dimension: the key's value lies in the range, or the
key has no value there and the range starts at the minimum of its type. -/
def admits (range : Range) (v : Option KeyValue) : Bool :=
  match v with
  | some v => range.contains v
  | none => decide (range.min = range.min.keyType.minValue)

/-- A key lies in a region when every dimension of the region admits it. -/
def contains (r : Region) (k : Key) : Bool :=
  (r.ranges.zipIdx).all fun p => admits p.1 (k.get? p.2)

/-- The display of a region: its ranges' displays separated by a comma and a space. -/
def display (r : Region) : String :=
  ", ".intercalate (r.ranges.map Range.display)

/-- The JSON text of a region. -/
def json (r : Region) : String :=
  "\x7b\"ranges\":" ++ Text.jsonArray Range.json r.ranges ++ "\x7d"

/-- Reads the JSON text of a region, in the form `json` writes, at the front of `cs`. -/
def readJson (cs : List Char) : Option (Region × List Char) := do
  let cs ← Text.expect "\x7b\"ranges\":" cs
  let (ranges, cs) ← Text.readArray Range.readJson cs
  let cs ← Text.expect "\x7d" cs
  pure (⟨ranges⟩, cs)

/-- Reads a whole text as the JSON text of a region. -/
def ofJson? (s : String) : Option Region :=
  match readJson s.toList with
  | some (r, []) => some r
  | _ => none

end Region

end TableState
