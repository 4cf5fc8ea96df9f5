import TableState.Proofs.Snapshot.Series
import TableState.Proofs.Url.Library
import TableState.Proofs.Item.Table
import Mathlib.Data.List.TakeDrop

/-!
# Revision pointers and committed updates

A snapshot series keeps its current revision in a pointer item, as the revision's text
(`RevisionId.pointerItem`). That text reads back as the revision while its number is below 2^64
and its token is not empty (`RevisionId.parse_toText`), and a pointer that holds it lets the
series move to the next revision (`RevisionKind.moveFrom_pointerItem`).

So an update of a series whose pointer holds the text of the revision it reads goes one of four
ways, as its change does: it fails with the change's error, keeps the state when the change
changes nothing, fails with the encoding's error, or commits the next revision, whose snapshot
holds the changed records and reads back as them (`SnapshotSeries.update_commit`). Under a `mem`
location the next snapshot always has a location, since the current one has
(`snapshotLocation_uniform`).
-/

set_option autoImplicit false

namespace TableState

/-! ## Revision texts -/

/-- Reading decimal digits after a value folds them into it. -/
theorem decimalValue_fold {ds : List Char} (h : ∀ c ∈ ds, '0' ≤ c ∧ c ≤ '9') (init : Nat) :
    ds.foldl (fun acc c => acc.bind fun n =>
        if '0' ≤ c ∧ c ≤ '9' then some (n * 10 + (c.toNat - 48)) else none) (some init) =
      some (Nat.ofDigitChars 10 ds init) := by
  induction ds generalizing init with
  | nil => rfl
  | cons d ds ih =>
    simp only [List.mem_cons, forall_eq_or_imp] at h
    rw [List.foldl_cons, Option.bind_some, if_pos h.1, ih h.2, Nat.ofDigitChars_cons,
      Nat.mul_comm]
    rfl

namespace RevisionId

theorem padded_digits (width n : Nat) : ∀ c ∈ (padded width n).toList, '0' ≤ c ∧ c ≤ '9' := by
  intro c hc
  simp only [padded, String.toList_append, String.toList_ofList, List.mem_append] at hc
  rcases hc with hc | hc
  · rw [List.eq_of_mem_replicate hc]
    decide
  · exact Text.digit_of_mem_toDigits (by simpa [Nat.toList_repr] using hc)

/-- Padding a number with zeros keeps its value. -/
theorem decimalValue_padded (width n : Nat) : decimalValue (padded width n).toList = some n := by
  rw [decimalValue, decimalValue_fold (padded_digits width n)]
  simp only [padded, String.toList_append, String.toList_ofList, Nat.ofDigitChars_append,
    Nat.ofDigitChars_replicate_zero, Nat.mul_zero]
  rw [Nat.toString_eq_ofList_toDigits, String.toList_ofList, Nat.ofDigitChars_ten_toDigits]

/-- The text of a revision reads back as the revision while its number is below 2^64, when its
token is not empty. -/
theorem parse_toText {r : RevisionId} (htok : r.token ≠ "") :
    parse r.toText =
      if r.revision < Nat.pow 2 64 then .ok r else .error (.deserialize "revision id") := by
  have hdigits := padded_digits 12 r.revision
  have hnodash : ∀ c ∈ (padded 12 r.revision).toList, (c != '-') = true := fun c hc => by
    have := hdigits c hc
    have : c ≠ '-' := fun he => by rw [he] at this; exact absurd this (by decide)
    simpa using this
  have hspan : (toText r).toList.span (· != '-') =
      ((padded 12 r.revision).toList, '-' :: r.token.toList) := by
    rw [List.span_eq_takeWhile_dropWhile]
    simp only [toText, String.toList_append, List.append_assoc]
    rw [show "-".toList = ['-'] from rfl, List.singleton_append, Url.takeWhile_append_sep rfl,
      Url.dropWhile_append_sep rfl, List.takeWhile_eq_self_iff.2 hnodash,
      List.dropWhile_eq_nil_iff.2 hnodash]
    rfl
  -- the number is read whole: its first digit is no sign
  have hnum : parseUInt64 (String.ofList (padded 12 r.revision).toList) =
      if r.revision < Nat.pow 2 64 then some r.revision else none := by
    obtain ⟨d, ds, hds⟩ := List.exists_cons_of_ne_nil (show (padded 12 r.revision).toList ≠ [] by
      simp [padded, Nat.toDigits_ne_nil])
    have hd : d ≠ '+' := fun he => by
      have := hdigits d (hds ▸ List.mem_cons_self)
      rw [he] at this
      exact absurd this (by decide)
    have hvalue := decimalValue_padded 12 r.revision
    rw [hds] at hvalue
    simp only [parseUInt64, String.toList_ofList, hds]
    split
    · rename_i rest h
      exact absurd (List.cons.inj h).1 hd
    · simp [hvalue]
  have htoken : r.token.toList.isEmpty = false := by
    simpa [String.isEmpty_iff] using htok
  simp only [parse, hspan, hnum, htoken]
  by_cases hr : r.revision < Nat.pow 2 64 <;> simp [hr]

theorem parse_toText_of_lt {r : RevisionId} (htok : r.token ≠ "") (hr : r.revision < Nat.pow 2 64) :
    parse r.toText = .ok r := by
  rw [parse_toText htok, if_pos hr]

/-- The pointer item that names a revision: its text under the revision attribute. -/
def pointerItem (r : RevisionId) : Item :=
  Item.empty.set RevisionKind.revisionAttribute (.string r.toText)

end RevisionId

namespace RevisionKind

variable {k : RevisionKind} {p : ItemTable}

/-- A pointer that holds a revision's text reads as that revision, below 2^64. -/
theorem current_pointerItem {r : RevisionId} (h : p.get? k.pointerKey = some r.pointerItem)
    (htok : r.token ≠ "") :
    k.current p = if r.revision < Nat.pow 2 64 then .ok (some r)
      else .error (.deserialize "revision id") := by
  simp only [current, h, RevisionId.pointerItem, Item.getString?, Item.get?_set, if_pos,
    RevisionId.parse_toText htok]
  split <;> rfl

/-- A kind reads no current revision exactly where its pointer is absent. -/
@[simp] theorem current_eq_ok_none : k.current p = .ok none ↔ p.get? k.pointerKey = none := by
  unfold current
  split
  · simp_all
  · rename_i i hi
    simp only [hi, reduceCtorEq, iff_false]
    split
    · simp only [Except.map]
      split <;> simp
    · simp

/-- A pointer that holds the text of `cur` moves to any next revision. -/
theorem moveFrom_pointerItem {cur : RevisionId} (h : p.get? k.pointerKey = some cur.pointerItem)
    (next : RevisionId) : k.moveFrom p cur next = (.committed, p.put k.pointerKey next.pointerItem) := by
  simp [moveFrom, ItemTable.transact, ItemTable.applyAll, ItemTable.admits, h, WriteOp.key,
    WriteOp.condition, Condition.holds, RevisionId.pointerItem, Item.get?_set, ItemTable.store,
    WriteOp.apply]

/-- Where no pointer is, a pointer is created. -/
theorem create_of_none (h : p.get? k.pointerKey = none) (r : RevisionId) :
    k.create p r = (.committed, p.put k.pointerKey r.pointerItem) := by
  simp [create, ItemTable.transact, ItemTable.applyAll, ItemTable.admits, h, WriteOp.key,
    WriteOp.condition, Condition.holds, RevisionId.pointerItem, ItemTable.store, WriteOp.apply]

end RevisionKind

/-- The location of a URL does not depend on the operation named in its error. -/
theorem objectLocation_op {L : UrlLibrary} {u : Url} {op : String} {loc : ObjectLocation}
    (h : objectLocation L u op = .ok loc) (op' : String) : objectLocation L u op' = .ok loc := by
  unfold objectLocation at h ⊢
  split at h <;> simp_all

/-- The records of a format read back from the object they are written as. -/
def SnapshotFormat.RoundTrip {α : Type} (f : SnapshotFormat α) : Prop :=
  ∀ rs obj, f.encode rs = .ok obj → f.decode obj = .ok rs

theorem partitionFormat_roundTrip : partitionFormat.RoundTrip := by
  intro ps obj h
  obtain ⟨_, -, rfl⟩ := Except.map_eq_ok.1 h
  rfl

theorem fileFormat_roundTrip : fileFormat.RoundTrip := by
  intro fs obj h
  obtain ⟨_, -, rfl⟩ := Except.map_eq_ok.1 h
  rfl

namespace SnapshotSeries

variable {α : Type} {s : SnapshotSeries α} {st : SnapshotState}

/-- A read that succeeds read the current revision, and the records of the object at the
location of its snapshot. -/
theorem read_current {cur : RevisionId} {rs : List α} (h : s.read st = .ok (cur, rs)) :
    s.format.kind.current st.pointers = .ok (some cur) ∧
      ∃ u loc obj, snapshotUrl s.urls s.base s.format.kind cur = .ok u ∧
        objectLocation s.urls u "read snapshot" = .ok loc ∧ st.objects.get? loc = some obj ∧
        s.format.decode obj = .ok rs := by
  simp only [read, Except.bind_eq_ok] at h
  obtain ⟨r?, hcur, h⟩ := h
  split at h
  · rename_i r
    simp only [Except.bind_eq_ok] at h
    obtain ⟨u, hu, loc, hloc, h⟩ := h
    split at h
    · rename_i obj hobj
      simp only [Except.bind_eq_ok] at h
      obtain ⟨rs', hdec, hpure⟩ := h
      obtain ⟨rfl, rfl⟩ := Prod.mk.inj (Except.pure_eq_ok.1 hpure)
      exact ⟨hcur, u, loc, obj, hu, hloc, hobj, hdec⟩
    · cases h
  · cases h

/-- A series whose pointer holds the text of a revision below 2^64 reads the object at the
location of that revision's snapshot. -/
theorem read_of_pointer {r : RevisionId}
    (hptr : st.pointers.get? s.format.kind.pointerKey = some r.pointerItem)
    (htok : r.token ≠ "") (hr : r.revision < Nat.pow 2 64) {u : Url} {op : String}
    {loc : ObjectLocation} (hu : snapshotUrl s.urls s.base s.format.kind r = .ok u)
    (hloc : objectLocation s.urls u op = .ok loc) {obj : SnapshotObject}
    (hobj : st.objects.get? loc = some obj) :
    s.read st = (s.format.decode obj).map (r, ·) := by
  rw [read, RevisionKind.current_pointerItem hptr htok, if_pos hr]
  simp only [bind, Except.bind, hu, objectLocation_op hloc "read snapshot", hobj]
  cases s.format.decode obj <;> rfl

theorem update_change_error (hatt : s.maxAttempts ≠ 0) {cur : RevisionId} {rs : List α}
    (hread : s.read st = .ok (cur, rs)) {change : List α → Except Error (Option (List α))}
    {e : Error} (h : change rs = .error e) : s.update st change = (st, .error e) := by
  simp only [update, if_neg hatt, hread, h]

theorem update_change_none (hatt : s.maxAttempts ≠ 0) {cur : RevisionId} {rs : List α}
    (hread : s.read st = .ok (cur, rs)) {change : List α → Except Error (Option (List α))}
    (h : change rs = .ok none) : s.update st change = (st, .ok ()) := by
  simp only [update, if_neg hatt, hread, h]

section Commit

variable {cur : RevisionId} {rs rs' : List α} {change : List α → Except Error (Option (List α))}

/-- The revision an update commits: the next number, with the next token of the stores. -/
abbrev nextRevision (cur : RevisionId) (o : ObjectStores) : RevisionId :=
  cur.next o.freshToken.1

/-- Under a library that reads names alike, the next snapshot has a location when the current one
has. -/
theorem next_location (hnames : s.urls.ReadsNamesAlike (snapshotPrefix s.base s.format.kind))
    (hplain : PlainToken cur.token)
    (hread : s.read st = .ok (cur, rs)) :
    ∃ u loc, snapshotUrl s.urls s.base s.format.kind (nextRevision cur st.objects) = .ok u ∧
      objectLocation s.urls u "write snapshot" = .ok loc := by
  obtain ⟨-, u, loc, -, hu, hloc, -⟩ := read_current hread
  exact snapshotLocation_uniform hnames hplain (plainToken_rev _) hu hloc _

/-- An update whose changed records cannot be encoded fails with the encoding's error. -/
theorem update_encode_error (hatt : s.maxAttempts ≠ 0)
    (hnames : s.urls.ReadsNamesAlike (snapshotPrefix s.base s.format.kind))
    (hplain : PlainToken cur.token) (hroom : cur.revision + 1 < Nat.pow 2 64)
    (hread : s.read st = .ok (cur, rs)) (h : change rs = .ok (some rs')) {e : Error}
    (henc : s.format.encode rs' = .error e) : s.update st change = (st, .error e) := by
  obtain ⟨u, loc, hu, -⟩ := next_location hnames hplain hread
  simp only [update, if_neg hatt, hread, h, RevisionId.next?_of_lt hroom, snapshot, bind,
    Except.bind, hu, henc]

/-- An update whose pointer holds the text of the revision it read, and whose changed records can
be encoded, commits the next revision below the largest number: the pointer names it, its
snapshot holds the changed records, and it reads back as them. -/
theorem update_commit (hatt : s.maxAttempts ≠ 0)
    (hnames : s.urls.ReadsNamesAlike (snapshotPrefix s.base s.format.kind))
    (hfmt : s.format.RoundTrip)
    (hptr : st.pointers.get? s.format.kind.pointerKey = some cur.pointerItem)
    (hplain : PlainToken cur.token) (hroom : cur.revision + 1 < Nat.pow 2 64)
    (hread : s.read st = .ok (cur, rs))
    (h : change rs = .ok (some rs')) {obj : SnapshotObject} (henc : s.format.encode rs' = .ok obj) :
    ∃ u loc, snapshotUrl s.urls s.base s.format.kind (nextRevision cur st.objects) = .ok u ∧
      objectLocation s.urls u "write snapshot" = .ok loc ∧
      s.update st change = (⟨st.pointers.put s.format.kind.pointerKey
        (nextRevision cur st.objects).pointerItem, st.objects.freshToken.2.put loc obj⟩, .ok ()) ∧
      s.read ⟨st.pointers.put s.format.kind.pointerKey (nextRevision cur st.objects).pointerItem,
        st.objects.freshToken.2.put loc obj⟩ = .ok (nextRevision cur st.objects, rs') := by
  obtain ⟨u, loc, hu, hloc⟩ := next_location hnames hplain hread
  refine ⟨u, loc, hu, hloc, ?_, ?_⟩
  · simp only [update, if_neg hatt, hread, h, RevisionId.next?_of_lt hroom, snapshot, bind,
      Except.bind, hu, henc, hloc, pure, Except.pure, RevisionKind.moveFrom_pointerItem hptr]
  · have htok : (nextRevision cur st.objects).token ≠ "" := by
      simp [nextRevision, RevisionId.next, ObjectStores.freshToken, ← String.toList_inj]
    have hobj : (st.objects.freshToken.2.put loc obj).get? loc = some obj := by simp
    rw [read_of_pointer (r := nextRevision cur st.objects) (by simp) htok hroom hu hloc hobj,
      hfmt rs' obj henc]
    rfl

end Commit

end SnapshotSeries

end TableState
