import TableState.Text.Json
import TableState.Yaml.Node

/-!
# Typed values of YAML nodes

How configuration values are read from the nodes of a document. An alias is read as the node
it refers to, wherever a value is read.

* A string is the text of any scalar.
* An optional value is absent when it is missing, or a plain scalar that is empty, `~`, `null`,
  `Null` or `NULL` and has no tag; with the null tag such a scalar is absent and any other
  text is refused. A quoted scalar, a tagged plain scalar and a collection are present.
* A boolean or an unsigned integer is read from a plain scalar, whatever its tag, or from a
  literal block scalar tagged as a boolean or an integer. A boolean is `true`, `True`, `TRUE`,
  `false`, `False` or `FALSE`.
* An unsigned integer has an optional `+` and is written in hexadecimal after `0x`, octal after
  `0o`, binary after `0b`, or else in decimal; a decimal with a leading zero and more digits is
  not a number. It must be below 2^64, and then below the bound of its field.
* A choice among names is named by the tag of a scalar that starts with `!` (the scalar must
  then be a plain null), or else by the text of the scalar.
* A structure is a mapping whose keys are scalars; each field may be given once, unknown keys
  are ignored, and an empty plain scalar or an empty stream is a structure with no fields
  given. A list is a sequence, or an empty plain scalar for no items.

Main definitions:

* `Yaml.readString`, `Yaml.readBool`, `Yaml.readUnsigned`, `Yaml.readVariant`.
* `Yaml.Fields`, `Yaml.fieldsOf`, `Yaml.required`, `Yaml.withDefault`, `Yaml.optional`.
-/

set_option autoImplicit false

namespace TableState.Yaml

/-- The tag of null scalars. -/
def nullTag : List UInt8 := asciiBytes "tag:yaml.org,2002:null"

/-- The tag of booleans. -/
def boolTag : List UInt8 := asciiBytes "tag:yaml.org,2002:bool"

/-- The tag of integers. -/
def intTag : List UInt8 := asciiBytes "tag:yaml.org,2002:int"

/-- The texts of a plain scalar that stand for no value. -/
def isNullWord (t : String) : Bool :=
  ["", "~", "null", "Null", "NULL"].contains t

/-- The text, style and tag of the scalar a node is, following an alias. -/
def scalarOf (d : Document) (n : Node) : Option (String × ScalarStyle × Option (List UInt8)) :=
  match d.resolve n with
  | some (.scalar t s tag) => some (t, s, tag)
  | _ => none

/-- The text of a scalar. -/
def readString (d : Document) (n : Node) : Option String :=
  (scalarOf d n).map (·.1)

/-- Whether a node stands for no value; `none` when it has the null tag but another text. With
the null tag the text must be one of the null words: the empty text is not one there. -/
def isNull (d : Document) (n : Node) : Option Bool :=
  match d.resolve n with
  | some (.scalar t .plain (some tag)) =>
    if tag == nullTag then (if t != "" && isNullWord t then some true else none) else some false
  | some (.scalar t .plain none) => some (isNullWord t)
  | some _ => some false
  | none => none

/-- Whether a scalar of this style and tag may be read as a value with tag `expected`: a plain
one always, a literal one with exactly that tag. -/
def plainOrTaggedLiteral (expected : List UInt8) : ScalarStyle → Option (List UInt8) → Bool
  | .plain, _ => true
  | .literal, some tag => tag == expected
  | _, _ => false

/-- A boolean. -/
def readBool (d : Document) (n : Node) : Option Bool := do
  let (t, style, tag) ← scalarOf d n
  guard (plainOrTaggedLiteral boolTag style tag)
  if ["true", "True", "TRUE"].contains t then some true
  else if ["false", "False", "FALSE"].contains t then some false
  else none

/-- The value of digits in a radix; at least one digit is required. -/
def digitsValue (radix : Nat) (cs : List Char) : Option Nat :=
  if cs.isEmpty then none else
  cs.foldlM (fun acc c => (Text.hexValue c).bind fun d => if d < radix then some (acc * radix + d) else none) 0

/-- Whether a scalar, after one sign, is a zero followed by more decimal digits. -/
def leadingZeroDigits (cs : List Char) : Bool :=
  let cs := match cs with
    | '+' :: r => r
    | '-' :: r => r
    | r => r
  match cs with
  | '0' :: d :: ds => (d :: ds).all Char.isDigit
  | _ => false

/-- Reads the digits after a radix prefix `pfx`. `none` means the prefix does not apply and the
next reading is tried; `some r` is the result. -/
def prefixedValue (radix : Nat) (pfx u : List Char) : Option (Option Nat) :=
  if pfx.isPrefixOf u then
    match u.drop pfx.length with
    | '+' :: _ => some none
    | '-' :: _ => some none
    | r =>
      match digitsValue radix r with
      | some v => if v < Nat.pow 2 64 then some (some v) else none
      | none => none
  else none

/-- The value of an unsigned integer scalar below 2^64. -/
def unsignedValue (t : String) : Option Nat :=
  let cs := t.toList
  let u := match cs with
    | '+' :: r => r
    | r => r
  match prefixedValue 16 ['0', 'x'] u with
  | some r => r
  | none =>
    match prefixedValue 8 ['0', 'o'] u with
    | some r => r
    | none =>
      match prefixedValue 2 ['0', 'b'] u with
      | some r => r
      | none =>
        if u.head? == some '+' || u.head? == some '-' || leadingZeroDigits cs then none
        else if u.all Char.isDigit then (digitsValue 10 u).filter (· < Nat.pow 2 64)
        else none

/-- An unsigned integer below `bound`. -/
def readUnsigned (bound : Nat) (d : Document) (n : Node) : Option Nat := do
  let (t, style, tag) ← scalarOf d n
  guard (plainOrTaggedLiteral intTag style tag)
  (unsignedValue t).filter (· < bound)

/-- The name a tag gives: the tag after its leading `!`, or `!` for the tag `!` alone, when it is
UTF-8 text. -/
def tagName? : List UInt8 → Option String
  | 0x21 :: rest => String.fromUTF8? ⟨(if rest.isEmpty then [0x21] else rest).toArray⟩
  | _ => none

/-- The name a node selects among choices: the name its tag gives, when the scalar is a plain
null, or else its text. -/
def readVariant (d : Document) (n : Node) : Option String :=
  match d.resolve n with
  | some (.scalar t style tag) =>
    match tag.bind tagName? with
    | some name => if style == .plain && isNullWord t then some name else none
    | none => some t
  | _ => none

/-- The fields given to a structure, by name, in order. -/
abbrev Fields := List (String × Node)

/-- The fields of a node read as a structure; `none` stands for an empty stream. -/
def fieldsOf (d : Document) : Option Node → Option Fields
  | none => some []
  | some n =>
    match d.resolve n with
    | some (.map es) => es.mapM fun e => (readString d e.1).map (·, e.2)
    | some (.scalar "" .plain _) => some []
    | _ => none

/-- The items of a node read as a list. -/
def itemsOf (d : Document) (n : Node) : Option (List Node) :=
  match d.resolve n with
  | some (.seq xs) => some xs
  | some (.scalar "" .plain _) => some []
  | _ => none

/-- The node given to a field, if any; a field given twice is refused. -/
def field (fs : Fields) (name : String) : Option (Option Node) :=
  match fs.filter (·.1 == name) with
  | [] => some none
  | [(_, v)] => some (some v)
  | _ => none

/-- The value of a field that must be given. -/
def required {α : Type} (fs : Fields) (name : String) (read : Node → Option α) : Option α := do
  let some n ← field fs name | none
  read n

/-- The value of a field, or `d` when it is not given. -/
def withDefault {α : Type} (fs : Fields) (name : String) (d : α) (read : Node → Option α) :
    Option α := do
  match ← field fs name with
  | some n => read n
  | none => pure d

/-- The value of an optional field: absent when not given or null. -/
def optional {α : Type} (d : Document) (fs : Fields) (name : String) (read : Node → Option α) :
    Option (Option α) := do
  match ← field fs name with
  | some n => if ← isNull d n then pure none else (read n).map some
  | none => pure none

end TableState.Yaml
