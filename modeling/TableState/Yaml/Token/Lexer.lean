import TableState.Yaml.Token.Property
import TableState.Yaml.Token.Scalar

/-!
# The lexer

Turns YAML text into its tokens, one step at a time. Each step moves past blanks, comments and
line ends, forgets the possible keys that can no longer be keys, closes the block collections
deeper than the next token, and reads the token the next character starts. A `:` after a
possible key inserts a key token before the key's first token, and where it opens a block
mapping, the mapping's start before that.

Main definitions:

* `Lexer.nextToken`: one step.
* `tokenize`: the tokens of a text, or `none` when it is malformed.
-/

set_option autoImplicit false

namespace TableState.Yaml

namespace Lexer

/-! ## Tokens by their first character -/

/-- The end of the text: closes every block collection. -/
def finish (s : Lexer) : Option Lexer := do
  let s := if s.mark.column != 0 then { s with mark := ⟨s.mark.index, s.mark.line + 1, 0⟩ } else s
  let s ← (s.closeBlocks (-1)).dropPossibleKey
  pure { (s.emit .streamEnd) with keyAllowed := false, finished := true }

/-- A directive, which closes every block collection. -/
def directive (s : Lexer) : Option Lexer := do
  let s ← (s.closeBlocks (-1)).dropPossibleKey
  directiveLine { s with keyAllowed := false }

/-- A document start or end marker, which closes every block collection. -/
def documentMarker (s : Lexer) (t : Token) : Option Lexer := do
  let s ← (s.closeBlocks (-1)).dropPossibleKey
  pure { (s.skip.skip.skip.emit t) with keyAllowed := false }

/-- The start of a flow collection, which may start a key. -/
def flowOpen (s : Lexer) (t : Token) : Option Lexer := do
  let s ← s.notePossibleKey
  let s := { s with flowLevel := s.flowLevel + 1, keys := ⟨false, false, 0, s.mark⟩ :: s.keys }
  pure { (s.skip.emit t) with keyAllowed := true }

/-- The end of a flow collection. -/
def flowClose (s : Lexer) (t : Token) : Option Lexer := do
  let s ← s.dropPossibleKey
  let s := if s.flowLevel > 0 then { s with flowLevel := s.flowLevel - 1, keys := s.keys.drop 1 }
    else s
  pure { (s.skip.emit t) with keyAllowed := false }

/-- A comma between the entries of a flow collection. -/
def flowComma (s : Lexer) : Option Lexer := do
  let s ← s.dropPossibleKey
  pure { (s.skip.emit .flowEntry) with keyAllowed := true }

/-- A `-` entry of a block sequence, which opens the sequence when it is deeper. -/
def blockEntryIndicator (s : Lexer) : Option Lexer := do
  let s ← if s.flowLevel == 0 then
      if s.keyAllowed then some (s.openBlock s.mark.column none .blockSequenceStart) else none
    else some s
  let s ← s.dropPossibleKey
  pure { (s.skip.emit .blockEntry) with keyAllowed := true }

/-- A `?` key indicator, which opens a block mapping when it is deeper. -/
def keyIndicator (s : Lexer) : Option Lexer := do
  let s ← if s.flowLevel == 0 then
      if s.keyAllowed then some (s.openBlock s.mark.column none .blockMappingStart) else none
    else some s
  let s ← s.dropPossibleKey
  pure { (s.skip.emit .key) with keyAllowed := s.flowLevel == 0 }

/-- A `:` value indicator. After a possible key, a key token is inserted before the key (and a
block mapping opened there when it is deeper); otherwise the value follows a `?` key or none. -/
def valueIndicator (s : Lexer) : Option Lexer := do
  let s ← match s.keys with
    | k :: ks =>
      if k.possible then
        let s := { s with tokens := insertToken s.tokens k.tokenNumber .key }
        let s := s.openBlock k.mark.column (some k.tokenNumber) .blockMappingStart
        some { s with keys := { k with possible := false } :: ks, keyAllowed := false }
      else if s.flowLevel == 0 then
        if s.keyAllowed then
          some { (s.openBlock s.mark.column none .blockMappingStart) with keyAllowed := true }
        else none
      else some { s with keyAllowed := false }
    | [] => none
  pure (s.skip.emit .value)

/-- An anchor or an alias, which may start a key. -/
def anchorOrAlias (isAlias : Bool) (s : Lexer) : Option Lexer := do
  let s ← s.notePossibleKey
  let (t, s) ← anchorName isAlias { s with keyAllowed := false }
  pure (s.emit t)

/-- A tag, which may start a key. -/
def tagToken (s : Lexer) : Option Lexer := do
  let s ← s.notePossibleKey
  let (t, s) ← tagProperty { s with keyAllowed := false }
  pure (s.emit t)

/-- A block scalar, after which a key may start. -/
def blockScalarToken (literal : Bool) (s : Lexer) : Option Lexer := do
  let s ← s.dropPossibleKey
  let (t, s) ← blockScalar literal { s with keyAllowed := true }
  pure (s.emit t)

/-- A quoted scalar, which may start a key. -/
def quotedToken (single : Bool) (s : Lexer) : Option Lexer := do
  let s ← s.notePossibleKey
  let (t, s) ← quotedScalar single { s with keyAllowed := false }
  pure (s.emit t)

/-- A plain scalar, which may start a key; a key may follow it when it ended after a line end. -/
def plainToken (s : Lexer) : Option Lexer := do
  let s ← s.notePossibleKey
  let (t, s, afterBreak) ← plainScalar { s with keyAllowed := false }
  pure { (s.emit t) with keyAllowed := afterBreak }

/-- Whether a plain scalar may start at the character ahead: not at a blank or an indicator,
except `-` before a character that is not a blank, and in block context `?` and `:` before one
that is not a blank or a line end. -/
def startsPlain (s : Lexer) : Bool :=
  match s.rest with
  | c :: _ =>
    !(s.blankOrEndAt 0 || "-?:,[]\x7b\x7d#&*!|>'\"%@`".contains c) ||
      (c == '-' && !s.blankAt 1) ||
      (s.flowLevel == 0 && (c == '?' || c == ':') && !s.blankOrEndAt 1)
  | [] => false

/-- Reads the next token (with any block ends and key tokens it brings), or `none` when the
text is malformed here. -/
def nextToken (s : Lexer) : Option Lexer := do
  let s := skipToToken (s.rest.length + 1) s
  let s ← s.expireKeys
  let s := s.closeBlocks s.mark.column
  match s.rest with
  | [] => s.finish
  | c :: _ =>
    if s.mark.column == 0 && c == '%' then s.directive
    else if s.mark.column == 0 && s.isDocumentMarker '-' then s.documentMarker .documentStart
    else if s.mark.column == 0 && s.isDocumentMarker '.' then s.documentMarker .documentEnd
    else if c == '[' then s.flowOpen .flowSequenceStart
    else if c == '\x7b' then s.flowOpen .flowMappingStart
    else if c == ']' then s.flowClose .flowSequenceEnd
    else if c == '\x7d' then s.flowClose .flowMappingEnd
    else if c == ',' then s.flowComma
    else if c == '-' && s.blankOrEndAt 1 then s.blockEntryIndicator
    else if c == '?' && (s.flowLevel > 0 || s.blankOrEndAt 1) then s.keyIndicator
    else if c == ':' && (s.flowLevel > 0 || s.blankOrEndAt 1) then s.valueIndicator
    else if c == '*' then s.anchorOrAlias true
    else if c == '&' then s.anchorOrAlias false
    else if c == '!' then s.tagToken
    else if c == '|' && s.flowLevel == 0 then s.blockScalarToken true
    else if c == '>' && s.flowLevel == 0 then s.blockScalarToken false
    else if c == '\x27' then s.quotedToken true
    else if c == '"' then s.quotedToken false
    else if s.startsPlain then s.plainToken
    else none

/-- Reads tokens until the end of the text; every step reads at least one character or ends
the text, so `fuel` above the length of the text is enough. -/
def run : Nat → Lexer → Option Lexer
  | 0, _ => none
  | fuel + 1, s => if s.finished then some s else (s.nextToken).bind (run fuel)

end Lexer

/-- The tokens of a text, or `none` when it holds a character YAML does not allow or is
malformed. A byte order mark is passed over only where a line starts, and it takes up a column
there, so a text that starts with one starts its first line at column 1. -/
def tokenize (text : String) : Option (Array Token) :=
  let cs := text.toList
  if !cs.all isAllowedChar then none
  else
    let start : Lexer :=
      ⟨cs, ⟨0, 0, 0⟩, #[.streamStart], -1, [], true, [⟨false, false, 0, ⟨0, 0, 0⟩⟩], 0, false⟩
    (Lexer.run (cs.length + 2) start).map (·.tokens)

end TableState.Yaml
