import TableState.Error

/-!
# Items, conditions and writes

An item is a set of named attributes, each holding a string, a 64-bit number, a boolean or a
list of strings. Attribute names are kept in increasing order, each at most once.

A condition is checked against the item currently stored under a key, or against its absence.
`always` holds in every case; `present` and `absent` test whether an item is stored; `attributeEquals` and
`attributeMissing` look into a present item and fail on an absent one; `all` holds when each of
its conditions holds, and so holds of the empty list.

A write puts a whole item, updates a stored item (sets attributes, then removes some), or
deletes the item, each under a condition.

Main definitions:

* `AttrValue`, `Item` with `Item.get?`, `Item.set`, `Item.erase`, `Item.merge`.
* `Condition`, `Condition.holds`.
* `WriteOp`, `WriteOp.key`, `WriteOp.condition`, `WriteOp.apply`.
-/

set_option autoImplicit false

namespace TableState

/-- The value of an item attribute. -/
inductive AttrValue where
  | string (s : String)
  | number (n : Int64)
  | bool (b : Bool)
  | stringList (xs : List String)
  deriving DecidableEq, Repr, Inhabited

/-- Named attributes, names in increasing order and each at most once. -/
structure Item where
  attrs : List (String × AttrValue)
  deriving DecidableEq, Repr, Inhabited

namespace Item

/-- The item without attributes. -/
def empty : Item := ⟨[]⟩

/-- Sets `name` to `v` in a list of attributes sorted by name. -/
def insertSorted (name : String) (v : AttrValue) :
    List (String × AttrValue) → List (String × AttrValue)
  | [] => [(name, v)]
  | (n, w) :: rest =>
    if name < n then (name, v) :: (n, w) :: rest
    else if name = n then (name, v) :: rest
    else (n, w) :: insertSorted name v rest

/-- The value of an attribute. -/
def get? (i : Item) (name : String) : Option AttrValue :=
  (i.attrs.find? (·.1 == name)).map (·.2)

/-- The item with `name` set to `v`. -/
def set (i : Item) (name : String) (v : AttrValue) : Item :=
  ⟨insertSorted name v i.attrs⟩

/-- The item without the attribute `name`. -/
def erase (i : Item) (name : String) : Item :=
  ⟨i.attrs.filter (·.1 != name)⟩

/-- The item with every attribute of `other` set over it. -/
def merge (i other : Item) : Item :=
  other.attrs.foldl (fun acc a => acc.set a.1 a.2) i

/-- An item of the given attributes, a later one of a name replacing an earlier. -/
def ofList (attrs : List (String × AttrValue)) : Item :=
  merge empty ⟨attrs⟩

/-- The string value of an attribute. -/
def getString? (i : Item) (name : String) : Option String :=
  match i.get? name with
  | some (.string s) => some s
  | _ => none

/-- The number value of an attribute. -/
def getNumber? (i : Item) (name : String) : Option Int64 :=
  match i.get? name with
  | some (.number n) => some n
  | _ => none

/-- The boolean value of an attribute. -/
def getBool? (i : Item) (name : String) : Option Bool :=
  match i.get? name with
  | some (.bool b) => some b
  | _ => none

/-- The string-list value of an attribute. -/
def getStringList? (i : Item) (name : String) : Option (List String) :=
  match i.get? name with
  | some (.stringList xs) => some xs
  | _ => none

end Item

/-- A condition on the item stored under a key. -/
inductive Condition where
  | always
  | present
  | absent
  | attributeEquals (name : String) (v : AttrValue)
  | attributeMissing (name : String)
  | all (cs : List Condition)
  deriving Repr, Inhabited

namespace Condition

mutual

/-- Whether a condition holds of the stored item, `none` when no item is stored. -/
def holds : Condition → Option Item → Bool
  | always, _ => true
  | present, cur => cur.isSome
  | absent, cur => cur.isNone
  | attributeEquals name v, some i => i.get? name == some v
  | attributeMissing name, some i => (i.get? name).isNone
  | all cs, cur => holdsAll cs cur
  | _, none => false

/-- Whether every condition of a list holds of the stored item. -/
def holdsAll : List Condition → Option Item → Bool
  | [], _ => true
  | c :: cs, cur => holds c cur && holdsAll cs cur

end

end Condition

/-- A write under a key, checked against a condition. -/
inductive WriteOp where
  | put (key : String) (item : Item) (condition : Condition)
  | update (key : String) (set : Item) (remove : List String) (condition : Condition)
  | delete (key : String) (condition : Condition)
  deriving Repr, Inhabited

namespace WriteOp

/-- The key a write goes to. -/
def key : WriteOp → String
  | put k _ _ => k
  | update k _ _ _ => k
  | delete k _ => k

/-- The condition of a write. -/
def condition : WriteOp → Condition
  | put _ _ c => c
  | update _ _ _ c => c
  | delete _ c => c

/-- The item a write leaves under its key, given the stored one: a put leaves its item, an
update of a stored item sets and then removes attributes, a delete leaves none. -/
def apply : WriteOp → Option Item → Option Item
  | put _ i _, _ => some i
  | update _ s rm _, cur => cur.map fun i => rm.foldl Item.erase (i.merge s)
  | delete _ _, _ => none

end WriteOp

end TableState
