import TableState.Text.CharClass

/-!
# Quoted text

Error messages and key displays show a string between double quotes. Inside the quotes a tab,
carriage return, line feed and NUL take the short escapes `\t`, `\r`, `\n` and `\0`; a
backslash and a double quote are preceded by a backslash; a character of
`TableState.Text.escapesAsCode` is written as `\u` followed by its code point in lowercase
hexadecimal between braces; every other character, the single quote included, stands as itself.

Main definitions:

* `quoteChar`: the written form of one character.
* `quote`: a string between double quotes, each character written by `quoteChar`.
* `quoteList`: a list of strings as `["a", "b"]`.

The lemma `quote_toList` says that quoting works character by character.
-/

set_option autoImplicit false

namespace TableState.Text

/-- Lowercase hexadecimal digits of `n`, most significant first, without leading zeros. -/
def hexDigits (n : Nat) : List Char :=
  Nat.toDigits 16 n

/-- The written form of one character inside quotes. -/
def quoteChar (c : Char) : List Char :=
  if c = '\t' then ['\\', 't']
  else if c = '\r' then ['\\', 'r']
  else if c = '\n' then ['\\', 'n']
  else if c = '\x00' then ['\\', '0']
  else if c = '\\' then ['\\', '\\']
  else if c = '"' then ['\\', '"']
  else if escapesAsCode c then ['\\', 'u', '\x7b'] ++ hexDigits c.toNat ++ ['\x7d']
  else [c]

/-- A string between double quotes, every character written by `quoteChar`. -/
def quote (s : String) : String :=
  String.ofList ('"' :: s.toList.flatMap quoteChar ++ ['"'])

/-- A list of strings between brackets, each quoted, separated by a comma and a space. -/
def quoteList (xs : List String) : String :=
  "[" ++ ", ".intercalate (xs.map quote) ++ "]"

/-- Quoting works character by character between two double quotes. -/
theorem quote_toList (s : String) :
    (quote s).toList = '"' :: s.toList.flatMap quoteChar ++ ['"'] := by
  simp [quote]

end TableState.Text
