import TableState.Unicode.Table
import TableState.Unicode.PropertyData

/-!
# Character properties for domain names

The bidirectional class, the joining type and whether a character is a mark, read from the
tables of `PropertyData`.

Main definitions:

* `BidiClass`, `BidiClass.isRightToLeft`, `bidiClass`.
* `JoiningType`, `joiningType`.
* `isMark`.
-/

set_option autoImplicit false

namespace TableState.Unicode

/-- The bidirectional classes the rules for domain names tell apart; every other class is
`other`. -/
inductive BidiClass where
  | leftToRight
  | rightToLeft
  | arabicLetter
  | europeanNumber
  | europeanSeparator
  | europeanTerminator
  | arabicNumber
  | commonSeparator
  | nonspacingMark
  | boundaryNeutral
  | otherNeutral
  | other
  deriving DecidableEq, Repr

/-- Whether a class is a right-to-left one: right-to-left, Arabic letter or Arabic
number. -/
def BidiClass.isRightToLeft (b : BidiClass) : Bool :=
  b == .rightToLeft || b == .arabicLetter || b == .arabicNumber

/-- The class named by its short name. -/
def BidiClass.ofName : List Char → BidiClass
  | ['L'] => .leftToRight
  | ['R'] => .rightToLeft
  | ['A', 'L'] => .arabicLetter
  | ['E', 'N'] => .europeanNumber
  | ['E', 'S'] => .europeanSeparator
  | ['E', 'T'] => .europeanTerminator
  | ['A', 'N'] => .arabicNumber
  | ['C', 'S'] => .commonSeparator
  | ['N', 'S', 'M'] => .nonspacingMark
  | ['B', 'N'] => .boundaryNeutral
  | ['O', 'N'] => .otherNeutral
  | _ => .other

/-- The bidirectional classes. -/
def bidiClassTable : CodeTable BidiClass :=
  CodeTable.ofText BidiClass.ofName bidiClassText

/-- The bidirectional class of a code point. -/
def bidiClass (cp : Nat) : BidiClass :=
  bidiClassTable.rangeValue .leftToRight cp

/-- How a character joins its neighbours in cursive scripts. -/
inductive JoiningType where
  | causing
  | dual
  | left
  | right
  | transparent
  | nonJoining
  deriving DecidableEq, Repr

/-- The joining type named by its letter. -/
def JoiningType.ofName : List Char → JoiningType
  | ['C'] => .causing
  | ['D'] => .dual
  | ['L'] => .left
  | ['R'] => .right
  | ['T'] => .transparent
  | _ => .nonJoining

/-- The joining types. -/
def joiningTypeTable : CodeTable JoiningType :=
  CodeTable.ofText JoiningType.ofName joiningTypeText

/-- The joining type of a code point. -/
def joiningType (cp : Nat) : JoiningType :=
  joiningTypeTable.rangeValue .nonJoining cp

/-- The ranges of marks. -/
def markTable : CodeTable Bool :=
  CodeTable.ofText (· == ['1']) markText

/-- Whether a code point is a mark (general category M). -/
def isMark (cp : Nat) : Bool :=
  markTable.rangeValue false cp

end TableState.Unicode
