import TableState.Error

/-!
# Schemas

A schema names the row key fields of a table and their types, in dimension order. A schema has
at least one field, and the type keeps that as a proof.

Main definitions:

* `Field`, `Schema`, `Schema.ofFields`, which refuses an empty list with `Error.noRowKeys`.
* `Schema.rowKey`: the field at a dimension, or `Error.noSuchDimension`.
* `Schema.firstField`: the field of dimension zero, which every schema has.
-/

set_option autoImplicit false

namespace TableState

/-- A row key field: a name and a key type. -/
structure Field where
  name : String
  keyType : KeyType
  deriving DecidableEq, Repr, Inhabited

/-- The row key fields of a table, at least one. -/
structure Schema where
  rowKeys : List Field
  rowKeys_ne_nil : rowKeys ≠ []

namespace Schema

/-- A schema of the given fields, unless there are none. -/
def ofFields (fields : List Field) : Except Error Schema :=
  if h : fields = [] then .error .noRowKeys else .ok ⟨fields, h⟩

/-- The number of row key fields. -/
def numDimensions (s : Schema) : Nat :=
  s.rowKeys.length

/-- The field at a dimension. -/
def rowKey (s : Schema) (dimension : Nat) : Except Error Field :=
  match s.rowKeys[dimension]? with
  | some f => .ok f
  | none => .error (.noSuchDimension dimension)

/-- The field of the first dimension. -/
def firstField (s : Schema) : Field :=
  match h : s.rowKeys with
  | f :: _ => f
  | [] => absurd h s.rowKeys_ne_nil

/-- A schema of a single field. -/
def single (name : String) (keyType : KeyType) : Schema :=
  ⟨[⟨name, keyType⟩], by simp⟩

end Schema

end TableState
