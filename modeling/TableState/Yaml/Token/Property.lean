import TableState.Yaml.Token

/-!
# Directives, anchors and tags

The tokens that stand before a document or a node.

* A directive is `%YAML` with a version `major.minor` of up to nine digits each, or `%TAG` with
  a handle and a URI prefix; any other directive name is an error, and only blanks and a
  comment may follow on its line.
* An anchor `&name` or an alias `*name` is made of letters, digits, `_` and `-`, and ends at a
  blank, a line end, the end of the text or one of `? : , ] } % @` and the grave accent.
* A tag is `!<uri>`, `!handle!suffix`, `!suffix`, or `!` alone. A URI is made of letters,
  digits and `-_;/?:@&=+$.%!~*'()` (in verbatim tags and directives also `,[]`), where `%` starts
  the escaped octets of one UTF-8 encoded character. A tag must be followed by a blank, a line
  end or the end of the text, or by a comma in flow context.

Main definitions:

* `Lexer.directiveLine`, `Lexer.anchorName`, `Lexer.tagProperty`.
-/

set_option autoImplicit false

namespace TableState.Yaml

namespace Lexer

/-! ## Directives -/

/-- A version number: one to nine digits. -/
def versionNumber (s : Lexer) : Option (Nat × Lexer) :=
  let (ds, s') := readWhile isDigitChar s.rest.length s []
  if ds.isEmpty || ds.length > 9 then none
  else some (ds.foldl (fun n c => n * 10 + (c.toNat - 48)) 0, s')

/-- The value of a `%YAML` directive: `major.minor`. -/
def versionValue (s : Lexer) : Option (Token × Lexer) := do
  let (major, s) ← versionNumber s.skipBlanks
  guard (s.isAt 0 '.')
  let (minor, s) ← versionNumber s.skip
  pure (.versionDirective major minor, s)

/-- A tag handle: `!`, word characters, and a closing `!`. Without the closing `!` only a lone
`!` is a handle in a directive; in a tag the characters read start the suffix instead. -/
def tagHandle (directive : Bool) (s : Lexer) : Option (String × Lexer) := do
  guard (s.isAt 0 '!')
  let (word, s) := readWhile isWordChar s.rest.length s.skip []
  if s.isAt 0 '!' then pure (String.ofList ('!' :: word ++ ['!']), s.skip)
  else
    guard (!directive || word.isEmpty)
    pure (String.ofList ('!' :: word), s)

/-- The octets of one UTF-8 encoded character written as percent escapes; `width` is the number
of octets the first one announces, and at most `fuel` more are read. -/
def uriEscapes : Nat → Nat → Lexer → List UInt8 → Option (List UInt8 × Lexer)
  | 0, _, s, acc => some (acc.reverse, s)
  | fuel + 1, width, s, acc => do
    guard (s.isAt 0 '%')
    let hi ← (s.charAt 1).bind hexDigit?
    let lo ← (s.charAt 2).bind hexDigit?
    let octet := hi * 16 + lo
    let width ←
      if width == 0 then
        if octet &&& 0x80 == 0 then some 1
        else if octet &&& 0xE0 == 0xC0 then some 2
        else if octet &&& 0xF0 == 0xE0 then some 3
        else if octet &&& 0xF8 == 0xF0 then some 4
        else none
      else if octet &&& 0xC0 == 0x80 then some width else none
    let acc := octet.toUInt8 :: acc
    let s := s.skip.skip.skip
    if acc.length ≥ width then some (acc.reverse, s) else uriEscapes fuel width s acc

/-- Reads URI characters after the bytes `acc`, of which `count` characters are already given;
at least one character must be given or read. -/
def uriChars (verbatim : Bool) : Nat → Lexer → List UInt8 → Nat → Option (List UInt8 × Lexer)
  | 0, s, acc, count => if count == 0 then none else some (acc, s)
  | fuel + 1, s, acc, count =>
    match s.rest with
    | c :: _ =>
      if isUriChar verbatim c then
        if c == '%' then do
          let (bs, s) ← uriEscapes 4 0 s []
          uriChars verbatim fuel s (acc ++ bs) (count + 1)
        else uriChars verbatim fuel s.skip (acc ++ String.utf8EncodeChar c) (count + 1)
      else if count == 0 then none
      else some (acc, s)
    | [] => if count == 0 then none else some (acc, s)

/-- A tag URI, continuing `head` (whose leading `!` is not part of the URI). -/
def tagUri (verbatim : Bool) (head : List Char) (s : Lexer) : Option (List UInt8 × Lexer) :=
  uriChars verbatim s.rest.length s ((head.drop 1).flatMap String.utf8EncodeChar) head.length

/-- The value of a `%TAG` directive: a handle, blanks, and a URI. -/
def tagDirectiveValue (s : Lexer) : Option (Token × Lexer) := do
  let (handle, s) ← tagHandle true s.skipBlanks
  guard (s.blankAt 0)
  let (uri, s) ← tagUri true [] s.skipBlanks
  guard (s.blankOrEndAt 0)
  pure (.tagDirective handle uri, s)

/-- A directive line: `%YAML` or `%TAG` with its value, then only blanks and a comment. -/
def directiveLine (s : Lexer) : Option Lexer := do
  let (name, s) := readWhile isWordChar s.rest.length s.skip []
  guard (!name.isEmpty && s.blankOrEndAt 0)
  let (t, s) ←
    if name == ['Y', 'A', 'M', 'L'] then versionValue s
    else if name == ['T', 'A', 'G'] then tagDirectiveValue s
    else none
  let s := s.skipBlanks.skipComment
  guard (s.lineEndOrEndAt 0)
  pure (s.advanceLine.emit t)

/-! ## Anchors, aliases and tags -/

/-- An anchor or an alias: its indicator, then word characters up to a blank, a line end, the end
of the text or one of `? : , ] } % @` and the grave accent. -/
def anchorName (isAlias : Bool) (s : Lexer) : Option (Token × Lexer) := do
  let (name, s) := readWhile isWordChar s.rest.length s.skip []
  guard (!name.isEmpty && (s.blankOrEndAt 0 || "?:,]\x7d%@`".any (s.isAt 0 ·)))
  let n := String.ofList name
  pure (if isAlias then .alias n else .anchor n, s)

/-- A tag: `!<uri>`, `!handle!suffix`, `!suffix`, or `!` alone, followed by a blank, a line end or
the end of the text (or a comma in flow context). -/
def tagProperty (s : Lexer) : Option (Token × Lexer) := do
  let (handle, suffix, s) ←
    if s.isAt 1 '<' then do
      let (suffix, s) ← tagUri true [] s.skip.skip
      guard (s.isAt 0 '>')
      pure ("", suffix, s.skip)
    else do
      let (handle, s) ← tagHandle false s
      let hs := handle.toList
      if hs.length > 1 && hs.getLast? == some '!' then
        let (suffix, s) ← tagUri false [] s
        pure (handle, suffix, s)
      else
        let (suffix, s) ← tagUri false hs s
        if suffix.isEmpty then pure ("", [0x21], s) else pure ("!", suffix, s)
  guard (s.blankOrEndAt 0 || (s.flowLevel > 0 && s.isAt 0 ','))
  pure (.tag handle suffix, s)

end Lexer

end TableState.Yaml
