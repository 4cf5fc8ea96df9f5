import TableState.Unicode.Normalization
import TableState.Unicode.Properties
import TableState.Url.IdnaData
import TableState.Url.Punycode

/-!
# Internationalized domain names

A domain of a URL is turned into ASCII by the compatibility processing of internationalized
domain names (nontransitional, without the hyphen and length checks):

1. Every code point is mapped by the mapping table: a valid or deviation code point stays, an
   ignored one is dropped, a mapped one is replaced, and a disallowed one fails the domain.
2. The result is put in Normalization Form C and split into labels at full stops.
3. A label starting with `xn--` must decode from Punycode to a label that is not all ASCII, is in
   Normalization Form C and holds only valid or deviation code points; it is kept as written.
   Another label is written in Punycode after `xn--` when it holds a non-ASCII code point.
   Either way a label that is not all ASCII has at most 1000 code points.
4. No label may start with a mark, and a zero width joiner or non-joiner must stand where the
   joiner rules allow it.
5. When some label holds a right-to-left character or an Arabic digit, every non-empty label
   must satisfy the bidirectional rule of internationalized domain names.

Main definitions:

* `MappingStatus`, `mappingStatus`, `mapDomain`.
* `joinersValid`, `bidiRuleHolds`.
* `checkLabel`, `domainToAscii`.
-/

set_option autoImplicit false

namespace TableState.Url

open TableState.Unicode

/-- What the mapping table does with a code point. -/
inductive MappingStatus where
  | valid
  | deviation
  | ignored
  | disallowed
  | mapped (replacement : List Nat)
  deriving DecidableEq, Repr

/-- The status a table payload names: a letter, or the code points of a replacement. -/
def MappingStatus.ofPayload : List Char → MappingStatus
  | ['V'] => .valid
  | ['D'] => .deviation
  | ['I'] => .ignored
  | ['X'] => .disallowed
  | cs => .mapped (hexList cs)

/-- The mapping table. -/
def mappingTable : CodeTable MappingStatus :=
  CodeTable.ofText MappingStatus.ofPayload domainMappingText

/-- The mapping status of a code point. -/
def mappingStatus (cp : Nat) : MappingStatus :=
  mappingTable.rangeValue .disallowed cp

/-- The code points one code point maps to, or `none` when it is disallowed. -/
def mapCodePoint (cp : Nat) : Option (List Nat) :=
  match mappingStatus cp with
  | .valid | .deviation => some [cp]
  | .ignored => some []
  | .mapped r => some r
  | .disallowed => none

/-- A domain mapped code point by code point, or `none` when it holds a disallowed one. -/
def mapDomain (cps : List Nat) : Option (List Nat) :=
  (cps.mapM mapCodePoint).map List.flatten

/-- Whether a code point may stand in a decoded label: valid or deviation. -/
def allowedInLabel (cp : Nat) : Bool :=
  match mappingStatus cp with
  | .valid | .deviation => true
  | _ => false

/-- The prefix of Punycode-encoded labels. -/
def acePrefix : List Nat := [0x78, 0x6E, 0x2D, 0x2D]

/-! ## Joiners -/

/-- Whether a code point is a virama (combining class 9). -/
def isVirama (cp : Nat) : Bool :=
  combiningClass cp == 9

/-- Whether the nearest code point that is not transparent joins to the left or both ways; the
list runs from the nearest code point outwards. -/
def joinsOnLeft : List Nat → Bool
  | [] => false
  | c :: rest =>
    match joiningType c with
    | .transparent => joinsOnLeft rest
    | .left | .dual => true
    | _ => false

/-- Whether the nearest code point that is not transparent joins to the right or both ways; the
list runs from the nearest code point outwards. -/
def joinsOnRight : List Nat → Bool
  | [] => false
  | c :: rest =>
    match joiningType c with
    | .transparent => joinsOnRight rest
    | .right | .dual => true
    | _ => false

/-- Whether the joiners of the rest of a label stand where they may; `before` holds the code
points before it, nearest first. A zero width joiner must follow a virama; a zero width
non-joiner must follow a virama or stand between a left-joining and a right-joining code point,
with only transparent ones in between. -/
def joinersValidFrom (before : List Nat) : List Nat → Bool
  | [] => true
  | c :: rest =>
    let afterVirama := match before with
      | b :: _ => isVirama b
      | [] => false
    let ok :=
      if c == 0x200D then afterVirama
      else if c == 0x200C then afterVirama || (joinsOnLeft before && joinsOnRight rest)
      else true
    ok && joinersValidFrom (c :: before) rest

/-- Whether every joiner of a label stands where it may. -/
def joinersValid (label : List Nat) : Bool :=
  joinersValidFrom [] label

/-! ## The bidirectional rule -/

/-- The classes a right-to-left label may hold. -/
def rightToLeftAllowed : BidiClass → Bool
  | .rightToLeft | .arabicLetter | .arabicNumber | .europeanNumber | .europeanSeparator
  | .commonSeparator | .europeanTerminator | .otherNeutral | .boundaryNeutral
  | .nonspacingMark => true
  | _ => false

/-- The classes a left-to-right label may hold. -/
def leftToRightAllowed : BidiClass → Bool
  | .leftToRight | .europeanNumber | .europeanSeparator | .commonSeparator
  | .europeanTerminator | .otherNeutral | .boundaryNeutral | .nonspacingMark => true
  | _ => false

/-- Whether a label satisfies the bidirectional rule: it starts with a left-to-right,
right-to-left or Arabic letter character. A right-to-left label holds only right-to-left
classes, numbers and neutrals, ends (before trailing nonspacing marks) in a right-to-left
character, an Arabic letter or a number, and does not mix European and Arabic numbers. A
left-to-right label holds only left-to-right characters, European numbers and neutrals, and
ends (before trailing nonspacing marks) in a left-to-right character or a European number. -/
def bidiRuleHolds (label : List Nat) : Bool :=
  let classes := label.map bidiClass
  let last := classes.reverse.find? (· != .nonspacingMark)
  match classes with
  | [] => true
  | .leftToRight :: _ =>
    classes.all leftToRightAllowed && (last == some .leftToRight || last == some .europeanNumber)
  | .rightToLeft :: _ | .arabicLetter :: _ =>
    classes.all rightToLeftAllowed &&
      (match last with
        | some .rightToLeft | some .arabicLetter | some .europeanNumber | some .arabicNumber => true
        | _ => false) &&
      !(classes.contains .europeanNumber && classes.contains .arabicNumber)
  | _ => false

/-! ## Labels and domains -/

/-- The most code points a label that is not all ASCII may have: longer ones are refused
rather than encoded or decoded. -/
def maxEncodedLabel : Nat := 1000

/-- The code points of a label that starts with `xn--`, decoded from Punycode, or `none` when
they are not a proper encoded label: they must not be all ASCII, must be in Normalization Form
C, must all be valid or deviation code points, and must be at most `maxEncodedLabel`. -/
def decodeLabel? (label : List Nat) : Option (List Nat) :=
  let tail := label.drop 4
  if tail.isEmpty || tail.any (· ≥ 128) then none
  else
    match punycodeDecode (tail.map Char.ofNat) with
    | none => none
    | some decoded =>
      if decoded.all (· < 128) || !isNfc decoded || !decoded.all allowedInLabel ||
          decoded.length > maxEncodedLabel then none
      else some decoded

/-- A mapped and normalized label checked: its code points and its ASCII form, or `none`. A
label that is not all ASCII is written in Punycode, and may have at most `maxEncodedLabel` code
points. -/
def checkLabel (label : List Nat) : Option (List Nat × List Char) :=
  let forms :=
    if label.take 4 == acePrefix then (decodeLabel? label).map fun u => (u, label.map Char.ofNat)
    else if label.all (· < 128) then some (label, label.map Char.ofNat)
    else if label.length > maxEncodedLabel then none
    else some (label, "xn--".toList ++ punycode (label.map Char.ofNat))
  match forms with
  | none => none
  | some (u, ascii) =>
    if (u.head?.map isMark).getD false || !joinersValid u then none
    else some (u, ascii)

/-- A domain in ASCII, or `none` when it is not a valid internationalized domain name. -/
def domainToAscii (cs : List Char) : Option (List Char) :=
  match mapDomain (cs.map Char.toNat) with
  | none => none
  | some mapped =>
    match (splitOn 0x2E (nfc mapped)).mapM checkLabel with
    | none => none
    | some labels =>
      let forms := labels.map (·.1)
      if forms.any (·.any fun c => (bidiClass c).isRightToLeft) && !forms.all bidiRuleHolds then
        none
      else some (".".toList.intercalate (labels.map (·.2)))

end TableState.Url
