import TableState.Yaml.Token

/-!
# Scalars

The scalars of YAML text and how their lines are joined.

* A plain scalar ends at a `:` before a blank, a comment, a document marker, in flow context at
  a flow indicator, and in block context at a line indented no deeper than its collection. A
  single line end between two lines becomes a space; more line ends keep all but the first.
* A single-quoted scalar writes its quote twice; a double-quoted one has backslash escapes,
  among them `\x`, `\u` and `\U` with two, four or eight hexadecimal digits, and may continue
  a line with a backslash at its end. Neither may contain a document marker at the start of a
  line or run into the end of the text.
* A literal `|` or folded `>` block scalar takes its lines at one indentation, given by a digit
  or by its first non-empty line; a folded one joins lines that do not start with a blank. Its
  last line end stays unless chomping is `-`, and the empty lines after it only with `+`.

Main definitions:

* `Lexer.Pending`, `Lexer.Pending.fold`.
* `Lexer.plainScalar`, `Lexer.quotedScalar`, `Lexer.blockScalar`.
-/

set_option autoImplicit false

namespace TableState.Yaml

namespace Lexer

/-- The text of a scalar being read and the blanks pending after it: blanks on the current line,
the first line end, the later line ends, and whether a line end was met. -/
structure Pending where
  text : String
  spaces : String
  leadingBreak : String
  trailingBreaks : String
  leadingBlanks : Bool

/-- The empty scalar with nothing pending. -/
def Pending.empty : Pending := ⟨"", "", "", "", false⟩

/-- Adds the pending blanks to the text: blanks on one line stay as they are; a single line feed
becomes a space, and a line feed followed by more line ends becomes those line ends; a line or
paragraph separator stays with the line ends after it. -/
def Pending.fold (p : Pending) : Pending :=
  if p.leadingBlanks then
    if p.leadingBreak.startsWith "\n" then
      if p.trailingBreaks.isEmpty then { p with text := p.text.push ' ', leadingBreak := "" }
      else { p with text := p.text ++ p.trailingBreaks, trailingBreaks := "", leadingBreak := "" }
    else
      { p with text := p.text ++ p.leadingBreak ++ p.trailingBreaks, leadingBreak := "",
               trailingBreaks := "" }
  else { p with text := p.text ++ p.spaces, spaces := "" }

/-- Moves past blanks and line ends inside a scalar, keeping blanks before the first line end
and the line ends themselves. -/
def blanksInScalar : Nat → Lexer → Pending → Lexer × Pending
  | 0, s, p => (s, p)
  | fuel + 1, s, p =>
    match s.rest with
    | c :: _ =>
      if isBlankChar c then
        blanksInScalar fuel s.skip (if p.leadingBlanks then p else { p with spaces := p.spaces.push c })
      else if isBreakChar c then
        let (b, s') := s.readLineEnd
        if p.leadingBlanks then blanksInScalar fuel s' { p with trailingBreaks := p.trailingBreaks ++ b }
        else blanksInScalar fuel s' { p with spaces := "", leadingBreak := b, leadingBlanks := true }
      else (s, p)
    | [] => (s, p)

/-- The escape a character after a backslash stands for: a character, or the number of
hexadecimal digits of a code. A slash may be escaped, a single quote may not. -/
def escapeOf (c : Char) : Option (Char ⊕ Nat) :=
  match c with
  | '0' => some (.inl '\x00')
  | 'a' => some (.inl '\x07')
  | 'b' => some (.inl '\x08')
  | 't' => some (.inl '\t')
  | '\t' => some (.inl '\t')
  | 'n' => some (.inl '\n')
  | 'v' => some (.inl '\x0b')
  | 'f' => some (.inl '\x0c')
  | 'r' => some (.inl '\r')
  | 'e' => some (.inl '\x1b')
  | ' ' => some (.inl ' ')
  | '"' => some (.inl '"')
  | '/' => some (.inl '/')
  | '\\' => some (.inl '\\')
  | 'N' => some (.inl '\x85')
  | '_' => some (.inl '\xa0')
  | 'L' => some (.inl '\u2028')
  | 'P' => some (.inl '\u2029')
  | 'x' => some (.inr 2)
  | 'u' => some (.inr 4)
  | 'U' => some (.inr 8)
  | _ => none

/-- Moves past `n` characters. -/
def advanceBy (n : Nat) (s : Lexer) : Lexer :=
  n.fold (fun _ _ s => s.skip) s

/-- Reads an escape of a double-quoted scalar at the backslash ahead. A code must name a
character: not a surrogate, and below U+110000. -/
def readEscape (s : Lexer) (t : String) : Option (String × Lexer) := do
  let e ← (s.charAt 1).bind escapeOf
  let s := s.skip.skip
  match e with
  | .inl c => pure (t.push c, s)
  | .inr n =>
    let digits ← (List.range n).mapM fun k => (s.charAt k).bind hexDigit?
    let v := digits.foldl (fun a d => a * 16 + d) 0
    if h : v.isValidChar then pure (t.push (Char.ofNatAux v h), advanceBy n s) else none

/-- Reads the characters of a quoted scalar up to a blank, a line end, the closing quote or the
end of the text. Also returns whether it stopped at an escaped line end. -/
def quotedChars (single : Bool) : Nat → Lexer → String → Option (Lexer × String × Bool)
  | 0, s, t => some (s, t, false)
  | fuel + 1, s, t =>
    match s.rest with
    | [] => some (s, t, false)
    | c :: _ =>
      if isBlankChar c || isBreakChar c then some (s, t, false)
      else if single && c == '\x27' && s.isAt 1 '\x27' then quotedChars single fuel s.skip.skip (t.push '\x27')
      else if c == (if single then '\x27' else '"') then some (s, t, false)
      else if !single && c == '\\' && s.lineEndAt 1 then some (s.skip.advanceLine, t, true)
      else if !single && c == '\\' then do
        let (t, s) ← readEscape s t
        quotedChars single fuel s t
      else quotedChars single fuel s.skip (t.push c)

/-- Reads a quoted scalar after its opening quote, line by line, up to its closing quote. A line
may not start with a document marker, and the text may not end inside the scalar. -/
def quotedLines (single : Bool) : Nat → Lexer → Pending → Option (Lexer × Pending)
  | 0, _, _ => none
  | fuel + 1, s, p => do
    guard (!(s.mark.column == 0 && (s.isDocumentMarker '-' || s.isDocumentMarker '.')))
    guard (!s.rest.isEmpty)
    let (s, text, escaped) ← quotedChars single (s.rest.length + 1) s p.text
    let p := { p with text := text, leadingBlanks := escaped }
    if s.isAt 0 (if single then '\x27' else '"') then pure (s, p)
    else
      let (s, p) := blanksInScalar (s.rest.length + 1) s p
      quotedLines single fuel s p.fold

/-- A single-quoted or double-quoted scalar. -/
def quotedScalar (single : Bool) (s : Lexer) : Option (Token × Lexer) := do
  let (s, p) ← quotedLines single (s.rest.length + 2) s.skip Pending.empty
  pure (.scalar p.text (if single then .singleQuoted else .doubleQuoted), s.skip)

/-- Reads the characters of a plain scalar on the current line, up to a blank, a line end, a `:`
before a blank, or in flow context a flow indicator. A `:` before a flow indicator is an error
in flow context. Pending blanks are added before each character read. -/
def plainChars : Nat → Lexer → Pending → Option (Lexer × Pending)
  | 0, s, p => some (s, p)
  | fuel + 1, s, p =>
    match s.rest with
    | [] => some (s, p)
    | c :: _ =>
      if isBlankChar c || isBreakChar c then some (s, p)
      else if s.flowLevel > 0 && c == ':' && ",?[]\x7b\x7d".any (s.isAt 1 ·) then none
      else if (c == ':' && s.blankOrEndAt 1) || (s.flowLevel > 0 && ",[]\x7b\x7d".contains c) then
        some (s, p)
      else
        let p := if p.leadingBlanks || !p.spaces.isEmpty then { p.fold with leadingBlanks := false }
          else p
        plainChars fuel s.skip { p with text := p.text.push c }

/-- Moves past blanks and line ends after a plain scalar's characters; a tab may not stand where
the indentation of a continuation line is expected. -/
def plainBlanks (indent : Int) : Nat → Lexer → Pending → Option (Lexer × Pending)
  | 0, s, p => some (s, p)
  | fuel + 1, s, p =>
    match s.rest with
    | c :: _ =>
      if isBlankChar c then
        if p.leadingBlanks && (s.mark.column : Int) < indent && c == '\t' then none
        else plainBlanks indent fuel s.skip
          (if p.leadingBlanks then p else { p with spaces := p.spaces.push c })
      else if isBreakChar c then
        let (b, s') := s.readLineEnd
        if p.leadingBlanks then
          plainBlanks indent fuel s' { p with trailingBreaks := p.trailingBreaks ++ b }
        else plainBlanks indent fuel s' { p with spaces := "", leadingBreak := b, leadingBlanks := true }
      else some (s, p)
    | [] => some (s, p)

/-- Reads a plain scalar line by line. It ends at a document marker, a comment, a character that
cannot continue it, or in block context a line indented less than `indent`. -/
def plainLines (indent : Int) : Nat → Lexer → Pending → Option (Lexer × Pending)
  | 0, s, p => some (s, p)
  | fuel + 1, s, p =>
    if (s.mark.column == 0 && (s.isDocumentMarker '-' || s.isDocumentMarker '.')) || s.isAt 0 '#' then
      some (s, p)
    else do
      let (s, p) ← plainChars (s.rest.length + 1) s p
      if !(s.blankAt 0 || s.lineEndAt 0) then pure (s, p)
      else
        let (s, p) ← plainBlanks indent (s.rest.length + 1) s p
        if s.flowLevel == 0 && (s.mark.column : Int) < indent then pure (s, p)
        else plainLines indent fuel s p

/-- A plain scalar; also tells whether it ended after a line end, where a key may start. -/
def plainScalar (s : Lexer) : Option (Token × Lexer × Bool) := do
  let (s, p) ← plainLines (s.indent + 1) (s.rest.length + 1) s Pending.empty
  pure (.scalar p.text .plain, s, p.leadingBlanks)

/-- The chomping and indentation indicators of a block scalar, in either order; the indentation
is a digit other than `0`. -/
def blockHeader (s : Lexer) : Option (Int × Nat × Lexer) :=
  let chompOf := fun (c : Char) => if c == '+' then (1 : Int) else -1
  match s.rest with
  | c :: _ =>
    if c == '+' || c == '-' then
      let s := s.skip
      match s.rest with
      | d :: _ =>
        if isDigitChar d then
          if d == '0' then none else some (chompOf c, d.toNat - 48, s.skip)
        else some (chompOf c, 0, s)
      | [] => some (chompOf c, 0, s)
    else if isDigitChar c then
      if c == '0' then none
      else
        let s := s.skip
        match s.rest with
        | d :: _ =>
          if d == '+' || d == '-' then some (chompOf d, c.toNat - 48, s.skip)
          else some (0, c.toNat - 48, s)
        | [] => some (0, c.toNat - 48, s)
    else some (0, 0, s)
  | [] => some (0, 0, s)

/-- Moves past indentation and empty lines inside a block scalar, collecting the line ends and
the deepest indentation seen. With `indent` zero (not yet known) every space counts as
indentation; a tab where indentation is expected is an error. -/
def blockIndentFrom (indent : Int) : Nat → Nat → Lexer → String → Option (Nat × Lexer × String)
  | 0, m, s, b => some (m, s, b)
  | fuel + 1, m, s, b =>
    let s := skipWhile (fun s => (indent == 0 || (s.mark.column : Int) < indent) && s.isAt 0 ' ')
      s.rest.length s
    let m := max m s.mark.column
    if (indent == 0 || (s.mark.column : Int) < indent) && s.isAt 0 '\t' then none
    else if s.lineEndAt 0 then
      let (br, s) := s.readLineEnd
      blockIndentFrom indent fuel m s (b ++ br)
    else some (m, s, b)

/-- The line ends before the next line of a block scalar, and the indentation of its lines: the
given one, or else the deepest indentation of the empty lines and the first line, at least one
more than the enclosing block collection and at least one. -/
def blockIndent (indent : Int) (s : Lexer) : Option (Int × Lexer × String) := do
  let (m, s', b) ← blockIndentFrom indent (s.rest.length + 1) 0 s ""
  let indent := if indent == 0 then max (max (m : Int) (s.indent + 1)) 1 else indent
  pure (indent, s', b)

/-- Reads the lines of a block scalar at its indentation. In a folded scalar a line end between
two lines that do not start with a blank becomes a space, or disappears before empty lines.
Returns the text, the last line end and the line ends after it. -/
def blockLines (literal : Bool) :
    Nat → Int → Lexer → String → String → String → Bool → Option (Lexer × String × String × String)
  | 0, _, s, t, lb, tb, _ => some (s, t, lb, tb)
  | fuel + 1, indent, s, t, lb, tb, leadingBlank =>
    if (s.mark.column : Int) == indent && !s.rest.isEmpty then
      let trailingBlank := s.blankAt 0
      let t :=
        if !literal && lb.startsWith "\n" && !leadingBlank && !trailingBlank then
          if tb.isEmpty then t.push ' ' else t
        else t ++ lb
      let t := t ++ tb
      let leadingBlank := s.blankAt 0
      let (line, s) := readWhile (fun c => !isBreakChar c) s.rest.length s []
      let t := t ++ String.ofList line
      let (lb, s) := s.readLineEnd
      match blockIndent indent s with
      | none => none
      | some (indent, s, tb) => blockLines literal fuel indent s t lb tb leadingBlank
    else some (s, t, lb, tb)

/-- A literal or folded block scalar. Only blanks and a comment may follow the indicators. The
last line end is kept unless chomping is `-`, and the empty lines after it only when it is
`+`. -/
def blockScalar (literal : Bool) (s : Lexer) : Option (Token × Lexer) := do
  let (chomping, increment, s) ← blockHeader s.skip
  let s := s.skipBlanks.skipComment
  guard (s.lineEndOrEndAt 0)
  let s := s.advanceLine
  let indent : Int :=
    if increment == 0 then 0 else if s.indent ≥ 0 then s.indent + increment else increment
  let (indent, s, tb) ← blockIndent indent s
  let (s, t, lb, tb) ← blockLines literal (s.rest.length + 1) indent s "" "" tb false
  let t := if chomping != -1 then t ++ lb else t
  let t := if chomping == 1 then t ++ tb else t
  pure (.scalar t (if literal then .literal else .folded), s)

end Lexer

end TableState.Yaml
