/-!
# YAML tokens

The first stage of reading YAML text turns characters into tokens. This module holds the
characters YAML allows and distinguishes, the tokens, and the state of a lexer with its
primitive moves: reading characters and line ends, recording where a key may start, and opening
and closing block collections by indentation.

* Only tab, line feed, carriage return, printable ASCII, next line (U+0085) and the code points
  from U+00A0 up, except surrogates, U+FFFE and U+FFFF, may appear. Carriage return, line feed,
  their pair, next line, and the line and paragraph separators end lines.
* A key written without `?` must stand on one line, and its `:` must come within 1024
  characters of its start. When such a key stands at the indentation of its block mapping and
  no `:` follows, the text is malformed.
* Indentation deeper than the current block collection opens a new one where a `-`, a `?` or a
  key's `:` stands; a line less indented closes the collections deeper than it.
* A tab may separate tokens in flow context and where no key may start; elsewhere it may not
  start a token.

Main definitions:

* `ScalarStyle`, `Token`, `Mark`, `SimpleKey`, `Lexer`.
* `Lexer.notePossibleKey`, `Lexer.expireKeys`, `Lexer.openBlock`, `Lexer.closeBlocks`.
* `Lexer.skipToToken`.
-/

set_option autoImplicit false

namespace TableState.Yaml

/-! ## Characters -/

/-- Whether a character may appear in YAML text. -/
def isAllowedChar (c : Char) : Bool :=
  let n := c.toNat
  n == 0x09 || n == 0x0A || n == 0x0D || (0x20 ≤ n && n ≤ 0x7E) || n == 0x85 ||
    (0xA0 ≤ n && n ≤ 0xD7FF) || (0xE000 ≤ n && n ≤ 0xFFFD) || (0x10000 ≤ n && n ≤ 0x10FFFF)

/-- Space or tab. -/
def isBlankChar (c : Char) : Bool := c == ' ' || c == '\t'

/-- The characters that end lines. -/
def isBreakChar (c : Char) : Bool :=
  c == '\r' || c == '\n' || c == '\x85' || c == '\u2028' || c == '\u2029'

/-- Letters, digits, `_` and `-`: the characters of anchors, directive names and tag handles. -/
def isWordChar (c : Char) : Bool :=
  ('0' ≤ c && c ≤ '9') || ('A' ≤ c && c ≤ 'Z') || ('a' ≤ c && c ≤ 'z') || c == '_' || c == '-'

/-- An ASCII digit. -/
def isDigitChar (c : Char) : Bool := '0' ≤ c && c ≤ '9'

/-- The value of a hexadecimal digit in either case. -/
def hexDigit? (c : Char) : Option Nat :=
  if '0' ≤ c && c ≤ '9' then some (c.toNat - 48)
  else if 'A' ≤ c && c ≤ 'F' then some (c.toNat - 55)
  else if 'a' ≤ c && c ≤ 'f' then some (c.toNat - 87)
  else none

/-- The characters of tag URIs: word characters and `; / ? : @ & = + $ . % ! ~ * ' ( )`, and in
verbatim tags and tag readDirectives also `,`, `[` and `]`. -/
def isUriChar (verbatim : Bool) (c : Char) : Bool :=
  isWordChar c || ";/?:@&=+$.%!~*'()".contains c || (verbatim && (c == ',' || c == '[' || c == ']'))

/-! ## Tokens -/

/-- How a scalar was written. -/
inductive ScalarStyle where
  | plain
  | singleQuoted
  | doubleQuoted
  | literal
  | folded
  deriving DecidableEq, Repr

/-- The tokens of YAML text. A tag directive and a tag keep the bytes of their URI part, which
may come from percent escapes. -/
inductive Token where
  | streamStart
  | streamEnd
  | versionDirective (major minor : Nat)
  | tagDirective (handle : String) (uri : List UInt8)
  | documentStart
  | documentEnd
  | blockSequenceStart
  | blockMappingStart
  | blockEnd
  | flowSequenceStart
  | flowSequenceEnd
  | flowMappingStart
  | flowMappingEnd
  | blockEntry
  | flowEntry
  | key
  | value
  | alias (name : String)
  | anchor (name : String)
  | tag (handle : String) (suffix : List UInt8)
  | scalar (text : String) (style : ScalarStyle)
  deriving DecidableEq, Repr

/-! ## The lexer -/

/-- A position in the text: characters read, lines ended, and characters read on this line. -/
structure Mark where
  index : Nat
  line : Nat
  column : Nat
  deriving DecidableEq, Repr

/-- A place where a key written without `?` may start: whether it still may, whether it must,
the number of the token it would be inserted before, and where it starts. -/
structure SimpleKey where
  possible : Bool
  required : Bool
  tokenNumber : Nat
  mark : Mark

/-- The state of a lexer: the text left, the position, the tokens so far, the indentation of
the open block collections, whether a key may start here, one possible key per flow level
(the current one first), the flow level, and whether the end has been reached. -/
structure Lexer where
  rest : List Char
  mark : Mark
  tokens : Array Token
  indent : Int
  indents : List Int
  keyAllowed : Bool
  keys : List SimpleKey
  flowLevel : Nat
  finished : Bool

namespace Lexer

/-- The character `k` places ahead. -/
def charAt (s : Lexer) (k : Nat) : Option Char := s.rest[k]?

/-- Whether the character `k` places ahead is `c`. -/
def isAt (s : Lexer) (k : Nat) (c : Char) : Bool := s.rest[k]? == some c

/-- Whether the character `k` places ahead is a blank. -/
def blankAt (s : Lexer) (k : Nat) : Bool := (s.rest[k]?.map isBlankChar).getD false

/-- Whether the character `k` places ahead ends a line. -/
def lineEndAt (s : Lexer) (k : Nat) : Bool := (s.rest[k]?.map isBreakChar).getD false

/-- Whether the character `k` places ahead ends a line, or the text ends there. -/
def lineEndOrEndAt (s : Lexer) (k : Nat) : Bool := (s.rest[k]?.map isBreakChar).getD true

/-- Whether the character `k` places ahead is a blank or ends a line, or the text ends there. -/
def blankOrEndAt (s : Lexer) (k : Nat) : Bool :=
  (s.rest[k]?.map fun c => isBlankChar c || isBreakChar c).getD true

/-- Whether `c` three times and then a blank, a line end or the end of the text come next. -/
def isDocumentMarker (s : Lexer) (c : Char) : Bool :=
  s.isAt 0 c && s.isAt 1 c && s.isAt 2 c && s.blankOrEndAt 3

/-- Moves past one character that does not end a line. -/
def skip (s : Lexer) : Lexer :=
  match s.rest with
  | [] => s
  | _ :: r => { s with rest := r, mark := ⟨s.mark.index + 1, s.mark.line, s.mark.column + 1⟩ }

/-- Moves past a line end, a carriage return and line feed pair counting as one. -/
def advanceLine (s : Lexer) : Lexer :=
  match s.rest with
  | '\r' :: '\n' :: r => { s with rest := r, mark := ⟨s.mark.index + 2, s.mark.line + 1, 0⟩ }
  | c :: r =>
    if isBreakChar c then { s with rest := r, mark := ⟨s.mark.index + 1, s.mark.line + 1, 0⟩ }
    else s
  | [] => s

/-- Moves past a line end and returns how it reads inside a scalar: a line or paragraph
separator as itself, any other line end as a line feed. -/
def readLineEnd (s : Lexer) : String × Lexer :=
  match s.rest with
  | c :: _ =>
    if c == '\u2028' || c == '\u2029' then (c.toString, s.advanceLine)
    else if isBreakChar c then ("\n", s.advanceLine)
    else ("", s)
  | [] => ("", s)

/-- Moves past characters while `p` holds, at most `fuel` of them. -/
def skipWhile (p : Lexer → Bool) : Nat → Lexer → Lexer
  | 0, s => s
  | fuel + 1, s => if !s.rest.isEmpty && p s then skipWhile p fuel s.skip else s

/-- Reads characters while `p` holds, at most `fuel` of them, after those in `acc` (reversed). -/
def readWhile (p : Char → Bool) : Nat → Lexer → List Char → List Char × Lexer
  | 0, s, acc => (acc.reverse, s)
  | fuel + 1, s, acc =>
    match s.rest with
    | c :: _ => if p c then readWhile p fuel s.skip (c :: acc) else (acc.reverse, s)
    | [] => (acc.reverse, s)

/-- Moves past the blanks ahead. -/
def skipBlanks (s : Lexer) : Lexer :=
  skipWhile (·.blankAt 0) s.rest.length s

/-- Moves past a comment, if one starts here, up to the end of its line. -/
def skipComment (s : Lexer) : Lexer :=
  if s.isAt 0 '#' then skipWhile (!·.lineEndOrEndAt 0) s.rest.length s else s

/-- Appends a token. -/
def emit (s : Lexer) (t : Token) : Lexer := { s with tokens := s.tokens.push t }

/-! ## Possible keys and indentation -/

/-- Forgets the possible key of the current flow level; it is an error when the key was
required. -/
def dropPossibleKey (s : Lexer) : Option Lexer :=
  match s.keys with
  | k :: ks =>
    if k.possible && k.required then none
    else some { s with keys := { k with possible := false } :: ks }
  | [] => some s

/-- Records that a key may start here, when keys are allowed here. It is required in block
context at the indentation of the current block collection. -/
def notePossibleKey (s : Lexer) : Option Lexer :=
  if s.keyAllowed then
    let k : SimpleKey :=
      ⟨true, s.flowLevel == 0 && s.indent == (s.mark.column : Int), s.tokens.size, s.mark⟩
    (s.dropPossibleKey).map fun s => { s with keys := k :: s.keys.drop 1 }
  else some s

/-- Forgets the possible keys that can no longer be keys: those on an earlier line and those
that started more than 1024 characters ago. It is an error when such a key was required. -/
def expireKeys (s : Lexer) : Option Lexer :=
  (s.keys.mapM fun k =>
    if k.possible && (k.mark.line < s.mark.line || k.mark.index + 1024 < s.mark.index) then
      if k.required then none else some { k with possible := false }
    else some k).map fun ks => { s with keys := ks }

/-- The tokens with `t` inserted at position `i`. -/
def insertToken (ts : Array Token) (i : Nat) (t : Token) : Array Token :=
  (ts.extract 0 i).push t ++ ts.extract i ts.size

/-- Opens a block collection at `column` in block context when it is deeper than the current
one: its start token is appended, or inserted at position `number`. -/
def openBlock (s : Lexer) (column : Int) (number : Option Nat) (t : Token) : Lexer :=
  if s.flowLevel == 0 && s.indent < column then
    { s with
      indents := s.indent :: s.indents
      indent := column
      tokens := match number with
        | some n => insertToken s.tokens n t
        | none => s.tokens.push t }
  else s

/-- Closes the block collections deeper than `column`, in block context. -/
def closeBlocks (s : Lexer) (column : Int) : Lexer :=
  if s.flowLevel == 0 then go s.indents.length s else s
where
  /-- Closes one collection per round, at most `fuel` of them. -/
  go : Nat → Lexer → Lexer
    | 0, s => s
    | fuel + 1, s =>
      match s.indents with
      | i :: is =>
        if s.indent > column then go fuel { (s.emit .blockEnd) with indent := i, indents := is }
        else s
      | [] => s

/-- Moves past blanks, comments and line ends up to the next token. Tabs count as blanks only in
flow context or where no key may start; a byte order mark may start a line. -/
def skipToToken : Nat → Lexer → Lexer
  | 0, s => s
  | fuel + 1, s =>
    let s := if s.mark.column == 0 && s.isAt 0 '\uFEFF' then s.skip else s
    let s := skipWhile (fun s => s.isAt 0 ' ' ||
      ((s.flowLevel > 0 || !s.keyAllowed) && s.isAt 0 '\t')) s.rest.length s
    let s := s.skipComment
    if s.lineEndAt 0 then
      let s := s.advanceLine
      skipToToken fuel (if s.flowLevel == 0 then { s with keyAllowed := true } else s)
    else s

end Lexer

end TableState.Yaml
