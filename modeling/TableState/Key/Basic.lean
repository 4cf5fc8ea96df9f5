import TableState.Key.Value

/-!
# Row keys

A row key is a list of key values, one per dimension, possibly shorter than the schema and
possibly empty. Keys are ordered lexicographically by the order of values, a proper prefix coming
first.

Main definitions:

* `Key`, `Key.get?`, `Key.compare`.
* `Key.json`: the JSON text of a key, an array of value texts.
-/

set_option autoImplicit false

namespace TableState

/-- A row key: one value per dimension, from the first dimension on. -/
structure Key where
  values : List KeyValue
  deriving DecidableEq, Repr, Inhabited

namespace Key

/-- The value at a dimension, if the key reaches it. -/
def get? (k : Key) (dimension : Nat) : Option KeyValue :=
  k.values[dimension]?

/-- Keys ordered lexicographically by the order of key values. -/
def compare (a b : Key) : Ordering :=
  List.compareLex KeyValue.compare a.values b.values

instance : Ord Key := ⟨Key.compare⟩

/-- The JSON text of a key: the texts of its values in an array. -/
def json (k : Key) : String :=
  Text.jsonArray KeyValue.json k.values

end Key

end TableState
