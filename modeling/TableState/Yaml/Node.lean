import TableState.Yaml.Token.Lexer

/-!
# YAML nodes and documents

The second stage of reading YAML text: the tokens become the node trees of the documents of the
stream.

* The first document may start without `---`; every later one needs it. A `---` with no content
  after it holds an empty scalar.
* A document may start with directives: at most one `%YAML 1.1` or `%YAML 1.2`, and `%TAG`
  directives with distinct handles. The handles `!` and `!!` stand for `!` and
  `tag:yaml.org,2002:` unless a directive redefines them.
* A node may carry an anchor and a tag, in either order; a tag is resolved against the handles
  of its document, and a node with properties and no content is an empty plain scalar.
* An entry or a value that is missing is an empty plain scalar; in a flow sequence, a `?` or
  `key: value` entry is a mapping with that one pair.

Anchors are numbered when the node carrying them starts: the number is the count of distinct
anchor names met before it, so that an anchor name used again keeps the count, and a later
anchor may take the same number. An alias refers to the number its name has where it stands,
and a number refers to the node that took it last.

Main definitions:

* `Node`, `NodeReader`, `readNode`, `readStream`.
* `Document`, `Document.resolve`, `Document.read?`: the single document of a text, if it reads.
-/

set_option autoImplicit false

namespace TableState.Yaml

/-- A node of a document: a scalar with its text, its style and its resolved tag, a sequence, a
mapping, or an alias by anchor number. -/
inductive Node where
  | scalar (text : String) (style : ScalarStyle) (tag : Option (List UInt8))
  | seq (items : List Node)
  | map (entries : List (Node × Node))
  | alias (anchor : Nat)
  deriving Repr, Inhabited

/-- The empty plain scalar without tag that stands for a missing node. -/
def Node.empty : Node := .scalar "" .plain none

/-- The bytes of an ASCII text. -/
def asciiBytes (s : String) : List UInt8 := s.toList.map fun c => c.toNat.toUInt8

/-- The bytes before the first zero byte: a tag is read as a zero-terminated string. -/
def untilNul (bs : List UInt8) : List UInt8 := bs.takeWhile (· != 0)

/-- The tag handles every document knows unless its directives redefine them. -/
def defaultHandles : List (String × List UInt8) :=
  [("!", asciiBytes "!"), ("!!", asciiBytes "tag:yaml.org,2002:")]

/-- The state of reading nodes: the tokens and the position, the tag handles of the current document,
the anchor numbers by name (latest first), the number of distinct anchor names, which
registration last took each anchor number, the number of registrations, and the finished nodes
by registration. -/
structure NodeReader where
  tokens : Array Token
  pos : Nat
  handles : List (String × List UInt8)
  anchorIds : List (String × Nat)
  names : Nat
  slots : List (Nat × Nat)
  registrations : Nat
  anchored : List (Nat × Node)

namespace NodeReader

/-- The next token. -/
def peek (p : NodeReader) : Option Token := p.tokens[p.pos]?

/-- Moves past the next token. -/
def next (p : NodeReader) : NodeReader := { p with pos := p.pos + 1 }

/-- Whether the next token is one of `ts`. -/
def peekIs (p : NodeReader) (ts : List Token) : Bool :=
  match p.peek with
  | some t => ts.contains t
  | none => false

/-- The anchor and the tag before a node, in either order. -/
def properties (p : NodeReader) : Option String × Option (String × List UInt8) × NodeReader :=
  match p.peek with
  | some (.anchor a) =>
    match p.next.peek with
    | some (.tag h s) => (some a, some (h, s), p.next.next)
    | _ => (some a, none, p.next)
  | some (.tag h s) =>
    match p.next.peek with
    | some (.anchor a) => (some a, some (h, s), p.next.next)
    | _ => (none, some (h, s), p.next)
  | _ => (none, none, p)

/-- A tag resolved against the handles of the document: a verbatim tag stands for itself;
otherwise the handle must be known. `none` when it is not. -/
def resolveTag (p : NodeReader) : Option (String × List UInt8) → Option (Option (List UInt8))
  | none => some none
  | some (h, s) =>
    if h.isEmpty then some (some (untilNul s))
    else (List.lookup h p.handles).map fun pre => some (untilNul pre ++ untilNul s)

/-- Registers an anchor at the start of its node; returns the registration. -/
def register (p : NodeReader) : Option String → Option Nat × NodeReader
  | none => (none, p)
  | some a =>
    let known := (List.lookup a p.anchorIds).isSome
    let id := p.names
    let k := p.registrations
    (some k, { p with
      anchorIds := (a, id) :: p.anchorIds
      names := if known then p.names else p.names + 1
      slots := (id, k) :: p.slots
      registrations := k + 1 })

/-- Records the finished node of a registration. -/
def store (p : NodeReader) (k : Option Nat) (n : Node) : NodeReader :=
  match k with
  | some k => { p with anchored := (k, n) :: p.anchored }
  | none => p

end NodeReader

open NodeReader

/-- The empty scalar a node with properties and no content stands for, or `none` when the node
has no properties either. -/
def emptyWith (hasProperties : Bool) (tag : Option (List UInt8)) (p : NodeReader) : Option (Node × NodeReader) :=
  if hasProperties then some (.scalar "" .plain tag, p) else none

mutual

/-- A node. In block context (`block`) it may be a block collection, and where `indentless`
holds a `-` entry at the indentation of the mapping starts a sequence. -/
def readNode (block indentless : Bool) : Nat → NodeReader → Option (Node × NodeReader)
  | 0, _ => none
  | fuel + 1, p =>
    match p.peek with
    | some (.alias name) => (List.lookup name p.anchorIds).map fun id => (.alias id, p.next)
    | _ => do
      let (anchor, tagged, p) := properties p
      let tag ← p.resolveTag tagged
      let (k, p) := p.register anchor
      let hasProperties := anchor.isSome || tagged.isSome
      let (node, p) ← match p.peek with
        | some .blockEntry =>
          if indentless then readIndentlessSequence fuel p [] else emptyWith hasProperties tag p
        | some (.scalar text style) => some (.scalar text style tag, p.next)
        | some .flowSequenceStart => readFlowSequence fuel true p.next []
        | some .flowMappingStart => readFlowMapping fuel true p.next []
        | some .blockSequenceStart =>
          if block then readBlockSequence fuel p.next [] else emptyWith hasProperties tag p
        | some .blockMappingStart =>
          if block then readBlockMapping fuel p.next [] else emptyWith hasProperties tag p
        | _ => emptyWith hasProperties tag p
      pure (node, p.store k node)

/-- The entries of a block sequence after its start, up to its end. -/
def readBlockSequence : Nat → NodeReader → List Node → Option (Node × NodeReader)
  | 0, _, _ => none
  | fuel + 1, p, acc =>
    match p.peek with
    | some .blockEntry =>
      let p := p.next
      if p.peekIs [.blockEntry, .blockEnd] then readBlockSequence fuel p (Node.empty :: acc)
      else do
        let (n, p) ← readNode true false fuel p
        readBlockSequence fuel p (n :: acc)
    | some .blockEnd => some (.seq acc.reverse, p.next)
    | _ => none

/-- The entries of a sequence written at the indentation of the mapping it is a value of. -/
def readIndentlessSequence : Nat → NodeReader → List Node → Option (Node × NodeReader)
  | 0, _, _ => none
  | fuel + 1, p, acc =>
    match p.peek with
    | some .blockEntry =>
      let p := p.next
      if p.peekIs [.blockEntry, .key, .value, .blockEnd] then
        readIndentlessSequence fuel p (Node.empty :: acc)
      else do
        let (n, p) ← readNode true false fuel p
        readIndentlessSequence fuel p (n :: acc)
    | _ => some (.seq acc.reverse, p)

/-- The pairs of a block mapping after its start, up to its end. -/
def readBlockMapping : Nat → NodeReader → List (Node × Node) → Option (Node × NodeReader)
  | 0, _, _ => none
  | fuel + 1, p, acc =>
    match p.peek with
    | some .key => do
      let p := p.next
      let (k, p) ← if p.peekIs [.key, .value, .blockEnd] then some (Node.empty, p)
        else readNode true true fuel p
      let (v, p) ← match p.peek with
        | some .value =>
          let p := p.next
          if p.peekIs [.key, .value, .blockEnd] then some (Node.empty, p)
          else readNode true true fuel p
        | _ => some (Node.empty, p)
      readBlockMapping fuel p ((k, v) :: acc)
    | some .blockEnd => some (.map acc.reverse, p.next)
    | _ => none

/-- The entries of a flow sequence after its `[`, up to its `]`. A `?` entry whose key is
missing also passes over the token after it. -/
def readFlowSequence : Nat → Bool → NodeReader → List Node → Option (Node × NodeReader)
  | 0, _, _, _ => none
  | fuel + 1, first, p, acc =>
    match p.peek with
    | some .flowSequenceEnd => some (.seq acc.reverse, p.next)
    | _ => do
      let p ← if first then some p else if p.peek == some .flowEntry then some p.next else none
      match p.peek with
      | some .flowSequenceEnd => some (.seq acc.reverse, p.next)
      | some .key => do
        let p := p.next
        let (k, p) ← if p.peekIs [.value, .flowEntry, .flowSequenceEnd] then some (Node.empty, p.next)
          else readNode false false fuel p
        let (v, p) ← match p.peek with
          | some .value =>
            let p := p.next
            if p.peekIs [.flowEntry, .flowSequenceEnd] then some (Node.empty, p)
            else readNode false false fuel p
          | _ => some (Node.empty, p)
        readFlowSequence fuel false p (.map [(k, v)] :: acc)
      | _ => do
        let (n, p) ← readNode false false fuel p
        readFlowSequence fuel false p (n :: acc)

/-- The pairs of a flow mapping after its `\x7b`, up to its `\x7d`. -/
def readFlowMapping : Nat → Bool → NodeReader → List (Node × Node) → Option (Node × NodeReader)
  | 0, _, _, _ => none
  | fuel + 1, first, p, acc =>
    match p.peek with
    | some .flowMappingEnd => some (.map acc.reverse, p.next)
    | _ => do
      let p ← if first then some p else if p.peek == some .flowEntry then some p.next else none
      match p.peek with
      | some .flowMappingEnd => some (.map acc.reverse, p.next)
      | some .key => do
        let p := p.next
        let (k, p) ← if p.peekIs [.value, .flowEntry, .flowMappingEnd] then some (Node.empty, p)
          else readNode false false fuel p
        let (v, p) ← match p.peek with
          | some .value =>
            let p := p.next
            if p.peekIs [.flowEntry, .flowMappingEnd] then some (Node.empty, p)
            else readNode false false fuel p
          | _ => some (Node.empty, p)
        readFlowMapping fuel false p ((k, v) :: acc)
      | _ => do
        let (k, p) ← readNode false false fuel p
        readFlowMapping fuel false p ((k, Node.empty) :: acc)

end

/-! ## Documents -/

/-- The directives before a document: at most one version, which must be 1.1 or 1.2, and tag
handles defined once each, in order. -/
def readDirectives : Nat → NodeReader → Bool → List (String × List UInt8) →
    Option (NodeReader × List (String × List UInt8))
  | 0, p, _, hs => some (p, hs)
  | fuel + 1, p, seenVersion, hs =>
    match p.peek with
    | some (.versionDirective major minor) =>
      if seenVersion || major != 1 || (minor != 1 && minor != 2) then none
      else readDirectives fuel p.next true hs
    | some (.tagDirective h uri) =>
      if (List.lookup h hs).isSome then none else readDirectives fuel p.next seenVersion (hs ++ [(h, uri)])
    | _ => some (p, hs)

/-- The handles of a document: its own, then the default ones it does not redefine. -/
def withDefaults (hs : List (String × List UInt8)) : List (String × List UInt8) :=
  hs ++ defaultHandles.filter fun d => (List.lookup d.1 hs).isNone

/-- Whether the next token leaves a document that starts with `---` without content. -/
def leavesEmpty : Option Token → Bool
  | some (.versionDirective _ _) | some (.tagDirective _ _) | some .documentStart
  | some .documentEnd | some .streamEnd => true
  | _ => false

/-- Moves past a document's end marker, if any; its tag handles end with it. -/
def closeDocument (p : NodeReader) : NodeReader :=
  { (if p.peek == some .documentEnd then p.next else p) with handles := [] }

/-- Moves past end markers between documents, at most `fuel` of them. -/
def skipDocumentEnds : Nat → NodeReader → NodeReader
  | 0, p => p
  | fuel + 1, p => if p.peek == some .documentEnd then skipDocumentEnds fuel p.next else p

/-- The documents after the first, each starting with `---`, up to the end of the stream;
`docs` holds those read so far, latest first. -/
def readDocuments : Nat → NodeReader → List Node → Option (List Node × NodeReader)
  | 0, _, _ => none
  | fuel + 1, p, docs =>
    let p := skipDocumentEnds p.tokens.size p
    match p.peek with
    | some .streamEnd => some (docs.reverse, p)
    | _ => do
      let (p, hs) ← readDirectives p.tokens.size p false []
      guard (p.peek == some .documentStart)
      let p := { p.next with handles := withDefaults hs }
      let (root, p) ← if leavesEmpty p.peek then some (Node.empty, p) else readNode true false fuel p
      readDocuments fuel (closeDocument p) (root :: docs)

/-- The documents of a stream of tokens. -/
def readStream (tokens : Array Token) : Option (List Node × NodeReader) := do
  let p : NodeReader := ⟨tokens, 0, [], [], 0, [], 0, []⟩
  guard (p.peek == some .streamStart)
  let p := p.next
  let fuel := 2 * tokens.size + 4
  match p.peek with
  | some (.versionDirective _ _) | some (.tagDirective _ _) | some .documentStart | some .streamEnd =>
    readDocuments fuel p []
  | _ =>
    let (root, p) ← readNode true false fuel { p with handles := defaultHandles }
    readDocuments fuel (closeDocument p) [root]

/-- A document: its root node, if the stream held one, and the targets of its anchors: which
registration holds each anchor number, and the node of each registration. -/
structure Document where
  root : Option Node
  slots : List (Nat × Nat)
  anchored : List (Nat × Node)

/-- The node an anchor number refers to. -/
def Document.target (d : Document) (id : Nat) : Option Node :=
  (List.lookup id d.slots).bind fun k => List.lookup k d.anchored

/-- A node with an alias replaced by the node it refers to. -/
def Document.resolve (d : Document) : Node → Option Node
  | .alias id => d.target id
  | n => some n

/-- The single document of a text: a stream without documents has no root, and a text that
does not read, holds an unknown alias or holds more than one document gives `none`. -/
def Document.read? (text : String) : Option Document := do
  let tokens ← tokenize text
  let (docs, p) ← readStream tokens
  match docs with
  | [] => pure ⟨none, [], []⟩
  | [root] => pure ⟨some root, p.slots, p.anchored⟩
  | _ => none

end TableState.Yaml
