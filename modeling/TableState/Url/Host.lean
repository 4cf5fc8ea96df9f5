import TableState.Url.Idna

/-!
# URL hosts and percent-encoding

The pieces of URL parsing that do not depend on the shape of the whole URL, after the WHATWG URL
standard.

Percent-encoding writes a character of an encode set as the UTF-8 bytes of the character, each
as `%` and two uppercase hexadecimal digits. The sets grow from the C0 control set (controls and
everything above `~`) by the characters each part of a URL must not hold literally.

A host is an IPv6 address between brackets, or for the special schemes a domain or an IPv4
address, or for other schemes an opaque host that is only percent-encoded. A domain is
percent-decoded, mapped to ASCII by `domainToAscii`, and must not hold a forbidden code point.
A domain whose last label is a number is read as an IPv4 address, whose parts may be decimal, octal
(leading `0`) or hexadecimal (leading `0x`), the last part filling the remaining bytes.

Main definitions:

* `percentEncode` and the encode sets `inC0Set`, `inFragmentSet`, `inQuerySet`,
  `inSpecialQuerySet`, `inPathSet`, `inUserinfoSet`.
* `parseIPv4`, `parseIPv6` and their serialisations.
* `parseHost`: the serialised host, or `none` for failure.
-/

set_option autoImplicit false

namespace TableState.Url

/-! ## Percent-encoding -/

/-- An uppercase hexadecimal digit. -/
def hexUpper (n : Nat) : Char :=
  if n < 10 then Char.ofNat (48 + n) else Char.ofNat (55 + n)

/-- Writes `c` as the percent-encoded UTF-8 bytes of it when `inSet c`, else as itself. -/
def percentEncode (inSet : Char → Bool) (c : Char) : List Char :=
  if inSet c then
    (String.utf8EncodeChar c).flatMap fun b => ['%', hexUpper (b.toNat / 16), hexUpper (b.toNat % 16)]
  else [c]

/-- Percent-encodes every character of `cs` that lies in a set. -/
def encodeAll (inSet : Char → Bool) (cs : List Char) : List Char :=
  cs.flatMap (percentEncode inSet)

/-- The C0 control set: controls below U+0020 and every character above `~`. -/
def inC0Set (c : Char) : Bool :=
  c.toNat < 0x20 || c.toNat > 0x7E

/-- The fragment set: the C0 control set, space, double quote, `<`, `>` and the grave accent. -/
def inFragmentSet (c : Char) : Bool :=
  inC0Set c || [' ', '"', '<', '>', Char.ofNat 0x60].contains c

/-- The query set: the C0 control set, space, double quote, `#`, `<` and `>`. -/
def inQuerySet (c : Char) : Bool :=
  inC0Set c || [' ', '"', '#', '<', '>'].contains c

/-- The query set of special schemes: the query set and the single quote. -/
def inSpecialQuerySet (c : Char) : Bool :=
  inQuerySet c || c == Char.ofNat 0x27

/-- The path set: the query set, `?`, the grave accent and the braces. -/
def inPathSet (c : Char) : Bool :=
  inQuerySet c || ['?', Char.ofNat 0x60, '\x7b', '\x7d'].contains c

/-- The userinfo set: the path set and `/ : ; = @ [ \ ] ^ |`. -/
def inUserinfoSet (c : Char) : Bool :=
  inPathSet c || ['/', ':', ';', '=', '@', '[', '\\', ']', '^', '|'].contains c

/-- Decodes percent escapes into bytes; other characters give their UTF-8 bytes. -/
def percentDecode : List Char → List UInt8
  | '%' :: a :: b :: rest =>
    match hexNibble a, hexNibble b with
    | some x, some y => (x * 16 + y).toUInt8 :: percentDecode rest
    | _, _ => (String.utf8EncodeChar '%') ++ percentDecode (a :: b :: rest)
  | c :: rest => String.utf8EncodeChar c ++ percentDecode rest
  | [] => []
where
  /-- The value of a hexadecimal digit. -/
  hexNibble (c : Char) : Option Nat :=
    if '0' ≤ c ∧ c ≤ '9' then some (c.toNat - 48)
    else if 'a' ≤ c ∧ c ≤ 'f' then some (c.toNat - 87)
    else if 'A' ≤ c ∧ c ≤ 'F' then some (c.toNat - 55)
    else none

/-! ## Splitting -/

/-- Splits a list at every element satisfying `p`, dropping the separators; `k` separators give
`k + 1` pieces. -/
def splitWhen {α : Type} (p : α → Bool) : List α → List (List α)
  | [] => [[]]
  | c :: cs =>
    if p c then [] :: splitWhen p cs
    else match splitWhen p cs with
      | s :: ss => (c :: s) :: ss
      | [] => [[c]]

/-! ## IPv4 -/

/-- The value of digits in a radix, `none` unless every character is a digit of it. -/
def radixValue (radix : Nat) (cs : List Char) : Option Nat :=
  cs.foldl (fun acc c => acc.bind fun n =>
    let d := if '0' ≤ c ∧ c ≤ '9' then c.toNat - 48
      else if 'a' ≤ c ∧ c ≤ 'z' then c.toNat - 87
      else if 'A' ≤ c ∧ c ≤ 'Z' then c.toNat - 55
      else 36
    if d < radix then some (n * radix + d) else none) (some 0)

/-- One part of an IPv4 address: hexadecimal after `0x`, octal after a leading `0`, else
decimal; an empty part fails. -/
def ipv4Number (cs : List Char) : Option Nat :=
  match cs with
  | [] => none
  | '0' :: x :: rest => if x = 'x' ∨ x = 'X' then radixValue 16 rest else radixValue 8 (x :: rest)
  | _ => radixValue 10 cs

/-- Whether a domain's last label is a number, so that the domain is read as an IPv4 address. -/
def endsInNumber (cs : List Char) : Bool :=
  let parts := splitWhen (· == '.') cs
  let parts := match parts.getLast? with
    | some [] => if parts.length == 1 then parts else parts.dropLast
    | _ => parts
  match parts.getLast? with
  | some last =>
    (!last.isEmpty && last.all fun c => '0' ≤ c ∧ c ≤ '9') || (ipv4Number last).isSome
  | none => false

/-- The 32-bit value of an IPv4 address: at most four parts, each but the last below 256, the
last filling the bytes left. -/
def parseIPv4 (cs : List Char) : Option Nat := do
  let parts := splitWhen (· == '.') cs
  let parts := match parts.getLast? with
    | some [] => if parts.length > 1 then parts.dropLast else parts
    | _ => parts
  if parts.length > 4 then none
  let numbers ← parts.mapM ipv4Number
  let last ← numbers.getLast?
  let front := numbers.dropLast
  if front.any (· > 255) then none
  if last ≥ Nat.pow 256 (5 - numbers.length) then none
  pure (front.zipIdx.foldl (fun acc p => acc + p.1 * Nat.pow 256 (3 - p.2)) last)

/-- An IPv4 address in dotted decimal. -/
def ipv4Text (n : Nat) : String :=
  ".".intercalate ([3, 2, 1, 0].map fun i => toString (n / Nat.pow 256 i % 256))

/-! ## IPv6 -/

/-- Hexadecimal groups of one to four digits, separated by colons; the last group may be an
IPv4 address in dotted decimal, which counts as two groups. -/
def ipv6Groups (cs : List Char) (allowIPv4 : Bool) : Option (List Nat) :=
  if cs.isEmpty then some [] else
  let groups := splitWhen (· == ':') cs
  let front := groups.dropLast
  let last := groups.getLast?.getD []
  let hexGroup := fun (g : List Char) =>
    if g.isEmpty || g.length > 4 then none else radixValue 16 g
  if allowIPv4 && last.contains '.' then do
    let f ← front.mapM hexGroup
    let parts := splitWhen (· == '.') last
    if parts.length != 4 then none
    let bytes ← parts.mapM fun p =>
      if p.isEmpty || (p.length > 1 && p.head? == some '0') then none
      else match radixValue 10 p with
        | some v => if v ≤ 255 then some v else none
        | none => none
    match bytes with
    | [a, b, c, d] => pure (f ++ [a * 256 + b, c * 256 + d])
    | _ => none
  else groups.mapM hexGroup

/-- The eight 16-bit pieces of an IPv6 address, with at most one `::` standing for a run of
zero pieces. -/
def parseIPv6 (cs : List Char) : Option (List Nat) :=
  match splitOnDoubleColon cs with
  | (left, none) =>
    match ipv6Groups left true with
    | some gs => if gs.length == 8 then some gs else none
    | none => none
  | (left, some right) => do
    let l ← ipv6Groups left false
    let r ← ipv6Groups right true
    if l.length + r.length > 7 then none
    pure (l ++ List.replicate (8 - l.length - r.length) 0 ++ r)
where
  /-- Splits at the first `::`. -/
  splitOnDoubleColon : List Char → List Char × Option (List Char)
    | ':' :: ':' :: rest => ([], some rest)
    | c :: rest =>
      let r := splitOnDoubleColon rest
      (c :: r.1, r.2)
    | [] => ([], none)

/-- The first longest run of at least two zero pieces, as start and length. -/
def longestZeroRun (pieces : List Nat) : Option (Nat × Nat) :=
  let step := fun (acc : Option (Nat × Nat) × Nat × Nat) (p : Nat × Nat) =>
    let (best, start, len) := acc
    if p.1 == 0 then
      let start := if len == 0 then p.2 else start
      let len := len + 1
      let best := match best with
        | some (_, bl) => if len > bl && len ≥ 2 then some (start, len) else best
        | none => if len ≥ 2 then some (start, len) else none
      (best, start, len)
    else (best, start, 0)
  (pieces.zipIdx.foldl step (none, 0, 0)).1

/-- An IPv6 address in its shortest text: lowercase hexadecimal pieces, the first longest run of
two or more zero pieces written `::`. -/
def ipv6Text (pieces : List Nat) : String :=
  let hex := fun (n : Nat) => String.ofList (Nat.toDigits 16 n)
  match longestZeroRun pieces with
  | some (s, l) =>
    ":".intercalate ((pieces.take s).map hex) ++ "::" ++
      ":".intercalate ((pieces.drop (s + l)).map hex)
  | none => ":".intercalate (pieces.map hex)

/-! ## Hosts -/

/-- Code points no host may hold. -/
def isForbiddenHostChar (c : Char) : Bool :=
  ['\x00', '\t', '\n', '\r', ' ', '#', '/', ':', '<', '>', '?', '@', '[', '\\', ']', '^', '|'].contains c

/-- Code points no domain may hold: those of hosts, the other controls, `%` and U+007F. -/
def isForbiddenDomainChar (c : Char) : Bool :=
  isForbiddenHostChar c || c.toNat < 0x20 || c == '%' || c.toNat == 0x7F

/-- The host of a URL, serialised, or `none` when it cannot be read. `special` tells whether the
scheme is one of the special schemes. -/
def parseHost (special : Bool) (cs : List Char) : Option String :=
  match cs with
  | '[' :: rest =>
    if rest.getLast? != some ']' then none
    else (parseIPv6 rest.dropLast).map fun ps => "[" ++ ipv6Text ps ++ "]"
  | _ =>
    if !special then
      if cs.any isForbiddenHostChar then none else some (String.ofList (encodeAll inC0Set cs))
    else
      match String.fromUTF8? ⟨(percentDecode cs).toArray⟩ with
      | none => none
      | some domain =>
        match domainToAscii domain.toList with
        | none => none
        | some ascii =>
          if ascii.isEmpty || ascii.any isForbiddenDomainChar then none
          else if endsInNumber ascii then (parseIPv4 ascii).map ipv4Text
          else some (String.ofList ascii)

end TableState.Url
