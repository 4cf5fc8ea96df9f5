/-!
# JSON text of strings

Stored records keep regions, keys and id lists as compact JSON text. A JSON string is written
between double quotes; a double quote and a backslash are preceded by a backslash; backspace,
form feed, line feed, carriage return and tab take the short escapes `\b`, `\f`, `\n`, `\r`,
`\t`; the other characters below U+0020 are written `\u00` followed by two lowercase hexadecimal
digits; every other character, U+007F and all non-ASCII characters included, stands as itself.

Main definitions:

* `jsonChar`, `jsonString`: the written form of a character and of a string.
* `readJsonString`: reads a JSON string at the front of a character list and returns the rest.
* `readNat`, `readInt`: read a decimal number at the front of a character list.
* `expect`: consumes a fixed prefix.
* `readArray`, `jsonArray`: a JSON array, read and written item by item.
-/

set_option autoImplicit false

namespace TableState.Text

/-- A hexadecimal digit in lowercase. -/
def hexDigit (n : Nat) : Char :=
  if n < 10 then Char.ofNat (48 + n) else Char.ofNat (87 + n)

/-- The written form of one character inside a JSON string. -/
def jsonChar (c : Char) : List Char :=
  if c = '"' then ['\\', '"']
  else if c = '\\' then ['\\', '\\']
  else if c = '\x08' then ['\\', 'b']
  else if c = '\x0c' then ['\\', 'f']
  else if c = '\n' then ['\\', 'n']
  else if c = '\r' then ['\\', 'r']
  else if c = '\t' then ['\\', 't']
  else if c.toNat < 0x20 then
    ['\\', 'u', '0', '0', hexDigit (c.toNat / 16), hexDigit (c.toNat % 16)]
  else [c]

/-- The characters of a JSON string, quotes included. -/
def jsonChars (s : String) : List Char :=
  '"' :: s.toList.flatMap jsonChar ++ ['"']

/-- A string as JSON text. -/
def jsonString (s : String) : String :=
  String.ofList (jsonChars s)

/-- The value of a hexadecimal digit, either case. -/
def hexValue (c : Char) : Option Nat :=
  if '0' ≤ c ∧ c ≤ '9' then some (c.toNat - 48)
  else if 'a' ≤ c ∧ c ≤ 'f' then some (c.toNat - 87)
  else if 'A' ≤ c ∧ c ≤ 'F' then some (c.toNat - 55)
  else none

/-- The character of a short escape `\x` of JSON, for `x` other than `u`. -/
def shortEscape (c : Char) : Option Char :=
  if c = '"' then some '"'
  else if c = '\\' then some '\\'
  else if c = '/' then some '/'
  else if c = 'b' then some '\x08'
  else if c = 'f' then some '\x0c'
  else if c = 'n' then some '\n'
  else if c = 'r' then some '\r'
  else if c = 't' then some '\t'
  else none

/-- Reads the body of a JSON string up to its closing quote, and returns the characters read
and the rest after the quote. Escapes `\u` of four hexadecimal digits are read as the code
point they name. -/
def readJsonBody : List Char → Option (List Char × List Char)
  | [] => none
  | '"' :: rest => some ([], rest)
  | '\\' :: 'u' :: a :: b :: c :: d :: rest =>
    match hexValue a, hexValue b, hexValue c, hexValue d with
    | some a, some b, some c, some d =>
      (readJsonBody rest).map fun r => (Char.ofNat (((a * 16 + b) * 16 + c) * 16 + d) :: r.1, r.2)
    | _, _, _, _ => none
  | '\\' :: e :: rest =>
    match shortEscape e with
    | some c => (readJsonBody rest).map fun r => (c :: r.1, r.2)
    | none => none
  | c :: rest => (readJsonBody rest).map fun r => (c :: r.1, r.2)

/-- Reads a JSON string at the front of `cs` and returns it with the rest. -/
def readJsonString : List Char → Option (String × List Char)
  | '"' :: rest => (readJsonBody rest).map fun r => (String.ofList r.1, r.2)
  | _ => none

/-- Consumes the prefix `p` of `cs`. -/
def expect (p : String) (cs : List Char) : Option (List Char) :=
  if p.toList.isPrefixOf cs then some (cs.drop p.length) else none

/-- Reads decimal digits at the front of `cs`, with `acc` the value of the digits read so far. -/
def readDigits (acc : Nat) : List Char → Nat × List Char
  | [] => (acc, [])
  | c :: rest =>
    if '0' ≤ c ∧ c ≤ '9' then readDigits (acc * 10 + (c.toNat - 48)) rest else (acc, c :: rest)

/-- Reads a natural number in decimal at the front of `cs`; at least one digit is required. -/
def readNat (cs : List Char) : Option (Nat × List Char) :=
  match cs with
  | c :: _ => if '0' ≤ c ∧ c ≤ '9' then some (readDigits 0 cs) else none
  | [] => none

/-- Reads an integer in decimal, with an optional minus sign, at the front of `cs`. -/
def readInt (cs : List Char) : Option (Int × List Char) :=
  match cs with
  | '-' :: rest => (readNat rest).map fun r => (-(r.1 : Int), r.2)
  | _ => (readNat cs).map fun r => ((r.1 : Int), r.2)

/-- Reads the comma-separated items of a JSON array after its opening bracket, each item read
by `item`, up to and including the closing bracket. -/
def readItems {α : Type} (item : List Char → Option (α × List Char)) (fuel : Nat) :
    List Char → Option (List α × List Char)
  | ']' :: rest => some ([], rest)
  | cs =>
    match fuel with
    | 0 => none
    | fuel + 1 =>
      match item cs with
      | some (a, ',' :: rest) => (readItems item fuel rest).map fun r => (a :: r.1, r.2)
      | some (a, ']' :: rest) => some ([a], rest)
      | _ => none

/-- Reads a JSON array whose items are read by `item`. The array has at most as many items as
the text has characters, so that many steps suffice. -/
def readArray {α : Type} (item : List Char → Option (α × List Char)) :
    List Char → Option (List α × List Char)
  | '[' :: rest => readItems item rest.length rest
  | _ => none

/-- A list as JSON text: items written by `item`, separated by commas, between brackets. -/
def jsonArray {α : Type} (item : α → String) (xs : List α) : String :=
  "[" ++ ",".intercalate (xs.map item) ++ "]"

end TableState.Text
