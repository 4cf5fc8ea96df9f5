import TableState.Config.Decode
import TableState.Error

/-!
# Provider configuration

The settings shared by every table of a provider: where its item database lives, if not in a
temporary place, and the retry policy of snapshot updates, the number of attempts and the
longest sleep between two. Every setting has a default: no database path, five attempts, and
2000 milliseconds.

Main definitions:

* `RetryPolicy`, `ProviderConfig`, `ProviderConfig.fromYaml`.
-/

set_option autoImplicit false

namespace TableState

open Yaml

/-- The retry policy of snapshot updates. -/
structure RetryPolicy where
  maxAttempts : Nat
  maxSleepMillis : Nat
  deriving DecidableEq, Repr

/-- The default policy: five attempts, sleeping at most two seconds. -/
def RetryPolicy.default : RetryPolicy := ⟨5, 2000⟩

/-- The settings of a provider. -/
structure ProviderConfig where
  dbPath : Option String
  retry : RetryPolicy
  deriving DecidableEq, Repr

namespace ProviderConfig

/-- The retry policy a node describes. -/
def retryOfYaml? (d : Document) (n : Node) : Option RetryPolicy := do
  let fs ← fieldsOf d (some n)
  let attempts ← withDefault fs "max_attempts" RetryPolicy.default.maxAttempts
    (readUnsigned (Nat.pow 2 64) d)
  let sleep ← withDefault fs "max_sleep_millis" RetryPolicy.default.maxSleepMillis
    (readUnsigned (Nat.pow 2 64) d)
  pure ⟨attempts, sleep⟩

/-- The settings a document describes. -/
def ofYaml? (d : Document) : Option ProviderConfig := do
  let fs ← fieldsOf d d.root
  let dbPath ← optional d fs "db_path" (readString d)
  let retry ← withDefault fs "snapshot_retry" RetryPolicy.default (retryOfYaml? d)
  pure ⟨dbPath, retry⟩

/-- Reads provider settings from YAML text. -/
def fromYaml (text : String) : Except Error ProviderConfig :=
  match (Document.read? text).bind ofYaml? with
  | some c => .ok c
  | none => .error .invalidConfig

end ProviderConfig

end TableState
