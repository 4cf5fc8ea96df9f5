import TableState.Config.Decode
import TableState.Config.Table

/-!
# Table properties from YAML

Reads table properties from a YAML document and checks them. The name and the schema must be
given; the other properties take their defaults when not given. The schema is a structure with
a list of row key fields, each with a name and a type; it needs at least one field. Anything
that does not read is a configuration error; properties that read but are not valid report
their own error.

Main definitions:

* `TableProperties.ofYaml?`: the properties a document describes.
* `TableProperties.fromYaml`: read and checked.
-/

set_option autoImplicit false

namespace TableState

open Yaml

/-- A row key field: its name and its type. -/
def Field.ofYaml? (d : Document) (n : Node) : Option Field := do
  let fs ← fieldsOf d (some n)
  let name ← required fs "name" (readString d)
  let keyType ← required fs "type" fun n => readVariant d n >>= KeyType.ofName?
  pure ⟨name, keyType⟩

/-- A schema: at least one row key field. -/
def Schema.ofYaml? (d : Document) (n : Node) : Option Schema := do
  let fs ← fieldsOf d (some n)
  let items ← required fs "row_keys" (itemsOf d)
  let fields ← items.mapM (Field.ofYaml? d)
  match Schema.ofFields fields with
  | .ok s => some s
  | .error _ => none

namespace TableProperties

/-- The properties a document describes. -/
def ofYaml? (d : Document) : Option TableProperties := do
  let fs ← fieldsOf d d.root
  let tableName ← required fs "table_name" (readString d)
  let schema ← required fs "schema" (Schema.ofYaml? d)
  let backend ← withDefault fs "state_store" .items fun n => readVariant d n >>= BackendKind.ofName?
  let snapshotUrl ← optional d fs "snapshot_url" (readString d)
  let gcDelay ← withDefault fs "garbage_collection_delay_minutes" 10 (readUnsigned (Nat.pow 2 32) d)
  let consistentReads ← withDefault fs "consistent_reads" true (readBool d)
  let pageSize ← withDefault fs "scan_page_size" 100 (readUnsigned (Nat.pow 2 64) d)
  pure ⟨tableName, schema, backend, snapshotUrl, gcDelay, consistentReads, pageSize⟩

/-- Reads properties from YAML text and checks them. -/
def fromYaml (text : String) : Except Error TableProperties :=
  match (Document.read? text).bind ofYaml? with
  | some p => p.validate.map fun _ => p
  | none => .error .invalidConfig

end TableProperties

end TableState
