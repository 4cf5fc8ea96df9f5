import TableState.Unicode.Table
import TableState.Unicode.NormalizationData

/-!
# Canonical normalization

Normalization Form C of a sequence of code points: the canonical decomposition of every
character, then the canonical ordering of each run of non-starters by combining class, then
canonical composition from left to right.

A character composes with the last starter before it when no character in between blocks it: a
character blocks when its combining class is zero or not below the class of the later one.
Hangul syllables decompose and compose by arithmetic on their positions in the syllable block.

Main definitions:

* `combiningClass`, `canonicalDecomposition`, `composePair?`.
* `decompose`, `canonicalOrder`, `compose`, `nfc`, `isNfc`.
-/

set_option autoImplicit false

namespace TableState.Unicode

/-- The canonical combining classes. -/
def combiningClassTable : CodeTable Nat :=
  CodeTable.ofText hexValue combiningClassText

/-- The full canonical decompositions. -/
def decompositionTable : CodeTable (List Nat) :=
  CodeTable.ofText hexList decompositionText

/-- The number that stands for a pair of code points in the composition table. -/
def pairKey (a b : Nat) : Nat := a * 0x110000 + b

/-- The primary composites, keyed by the pair they compose from. -/
def compositionTable : CodeTable Nat :=
  let es := tableEntries compositionText
  let pairOf := fun (e : Nat × List Char) =>
    match hexList e.2 with
    | [a, b] => pairKey a b
    | _ => 0
  ⟨(es.map pairOf).toArray, (es.map (·.1)).toArray⟩

/-- The canonical combining class of a code point. -/
def combiningClass (cp : Nat) : Nat :=
  combiningClassTable.rangeValue 0 cp

/-! ## Hangul syllables -/

/-- The first Hangul syllable. -/
def syllableBase : Nat := 0xAC00

/-- The first leading consonant jamo. -/
def leadBase : Nat := 0x1100

/-- The first vowel jamo. -/
def vowelBase : Nat := 0x1161

/-- The code point before the first trailing consonant jamo. -/
def trailBase : Nat := 0x11A7

/-- Syllables per leading consonant: 21 vowels times 28 trailing choices. -/
def syllablesPerLead : Nat := 21 * 28

/-- The number of Hangul syllables: 19 leading consonants. -/
def syllableCount : Nat := 19 * syllablesPerLead

/-- Whether a code point is a Hangul syllable. -/
def isSyllable (cp : Nat) : Bool :=
  syllableBase ≤ cp && cp < syllableBase + syllableCount

/-- The jamo of a Hangul syllable. -/
def syllableJamo (cp : Nat) : List Nat :=
  let i := cp - syllableBase
  let lv := [leadBase + i / syllablesPerLead, vowelBase + (i % syllablesPerLead) / 28]
  if i % 28 == 0 then lv else lv ++ [trailBase + i % 28]

/-! ## Decomposition and ordering -/

/-- The full canonical decomposition of a code point. -/
def canonicalDecomposition (cp : Nat) : List Nat :=
  if isSyllable cp then syllableJamo cp
  else (decompositionTable.exactValue? cp).getD [cp]

/-- Inserts a non-starter into an ordered run after every character of a class not above its
own, which keeps equal classes in their order. -/
def insertByClass (cp : Nat) : List Nat → List Nat
  | [] => [cp]
  | c :: rest =>
    if combiningClass cp < combiningClass c then cp :: c :: rest
    else c :: insertByClass cp rest

/-- Orders a run of non-starters by combining class, stably. -/
def orderRun (run : List Nat) : List Nat :=
  run.foldl (fun acc c => insertByClass c acc) []

/-- The canonical ordering of the rest of a sequence; `run` holds the non-starters seen since
the last starter, in their order. -/
def canonicalOrderFrom : List Nat → List Nat → List Nat
  | [], run => orderRun run
  | c :: rest, run =>
    if combiningClass c == 0 then orderRun run ++ c :: canonicalOrderFrom rest []
    else canonicalOrderFrom rest (run ++ [c])

/-- The canonical ordering: each run of non-starters sorted stably by combining class. -/
def canonicalOrder (cps : List Nat) : List Nat :=
  canonicalOrderFrom cps []

/-- The canonical decomposition of a sequence, canonically ordered. -/
def decompose (cps : List Nat) : List Nat :=
  canonicalOrder (cps.flatMap canonicalDecomposition)

/-! ## Composition -/

/-- The primary composite of two code points, if they have one. -/
def composePair? (a b : Nat) : Option Nat :=
  if leadBase ≤ a && a < leadBase + 19 && vowelBase ≤ b && b < vowelBase + 21 then
    some (syllableBase + ((a - leadBase) * 21 + (b - vowelBase)) * 28)
  else if isSyllable a && (a - syllableBase) % 28 == 0 && trailBase < b && b < trailBase + 28 then
    some (a + (b - trailBase))
  else compositionTable.exactValue? (pairKey a b)

/-- The state of composition: the output so far, the position of its last starter, and the
combining class of its last character when that is not the starter. -/
structure Composer where
  out : Array Nat
  starter : Option Nat
  lastClass : Nat

/-- Takes one more character: it replaces the last starter by their composite when it is not
blocked from it and they compose, and is appended otherwise. -/
def Composer.push (s : Composer) (c : Nat) : Composer :=
  let cls := combiningClass c
  let adjacent := fun (i : Nat) => s.lastClass == 0 && s.out.size == i + 1
  let composed := match s.starter with
    | some i =>
      if s.lastClass < cls || adjacent i then
        (composePair? (s.out.getD i 0) c).map fun p => { s with out := s.out.setIfInBounds i p }
      else none
    | none => none
  match composed with
  | some s' => s'
  | none =>
    if cls == 0 then ⟨s.out.push c, some s.out.size, 0⟩
    else ⟨s.out.push c, s.starter, cls⟩

/-- Canonical composition of a canonically ordered decomposed sequence. -/
def compose (cps : List Nat) : List Nat :=
  (cps.foldl Composer.push ⟨#[], none, 0⟩).out.toList

/-- Normalization Form C. -/
def nfc (cps : List Nat) : List Nat :=
  compose (decompose cps)

/-- Whether a sequence is in Normalization Form C. -/
def isNfc (cps : List Nat) : Bool :=
  nfc cps == cps

end TableState.Unicode
