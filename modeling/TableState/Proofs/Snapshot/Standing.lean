import TableState.Proofs.Snapshot.Revisions
import TableState.Proofs.Snapshot.Partitions

/-!
# Snapshot series in good standing

An update of a snapshot series commits whenever its change succeeds and its records can be
written, provided the series stands well: its base is a `mem` location, its pointer holds the text
of a revision with a plain token (`RevisionKind.PointerWF`), and every object of the stores holds
records that the columns can hold again (`ObjectStores.Encodable`). The revision in a pointer
took a token when it was written, so its number is at most the number of tokens issued; while
that number stays below 2^64, the committed revision reads back as the changed records
(`SnapshotSeries.update_commits`).

Initialisations and updates keep the pointers and the objects in good standing
(`SnapshotSeries.initialise_pointerWF`, `SnapshotSeries.update_pointerWF`,
`SnapshotSeries.update_encodable`), whatever the other series of the stores write.
-/

set_option autoImplicit false

namespace TableState

/-! ## Pointers -/

namespace RevisionKind

/-- The pointer of a kind is absent, or holds the text of a revision whose token is plain and not
empty and whose number is at most the number of tokens issued. -/
def PointerWF (k : RevisionKind) (p : ItemTable) (tokens : Nat) : Prop :=
  ∀ i, p.get? k.pointerKey = some i →
    ∃ r : RevisionId, i = r.pointerItem ∧ PlainToken r.token ∧ r.token ≠ "" ∧ r.revision ≤ tokens

variable {k : RevisionKind} {p : ItemTable} {n : Nat}

theorem pointerWF_empty : k.PointerWF .empty n := by
  intro i hi
  cases hi

theorem PointerWF.mono (h : k.PointerWF p n) {n' : Nat} (hle : n ≤ n') : k.PointerWF p n' := by
  intro i hi
  obtain ⟨r, rfl, hplain, htok, hr⟩ := h i hi
  exact ⟨r, rfl, hplain, htok, Nat.le_trans hr hle⟩

/-- A pointer put under another kind's key leaves this kind's pointer. -/
theorem PointerWF.put_other (h : k.PointerWF p n) {k' : RevisionKind} (hk : k' ≠ k) (i : Item) :
    k.PointerWF (p.put k'.pointerKey i) n := by
  have hkey : k'.pointerKey ≠ k.pointerKey := by
    cases k <;> cases k' <;> first | exact absurd rfl hk | decide
  intro i' hi'
  rw [ItemTable.get?_put, if_neg (Ne.symm hkey)] at hi'
  exact h i' hi'

/-- A pointer that names a fresh revision, numbered at most the tokens issued, stands well. -/
theorem pointerWF_put {r : RevisionId} (hplain : PlainToken r.token) (htok : r.token ≠ "")
    (hr : r.revision ≤ n) : k.PointerWF (p.put k.pointerKey r.pointerItem) n := by
  intro i hi
  rw [ItemTable.get?_put, if_pos rfl] at hi
  exact ⟨r, (Option.some.inj hi).symm, hplain, htok, hr⟩

/-- A committed pointer move puts the pointer of the new revision. -/
theorem moveFrom_committed {cur next : RevisionId} {p' : ItemTable}
    (h : k.moveFrom p cur next = (.committed, p')) : p' = p.put k.pointerKey next.pointerItem := by
  have ha := ItemTable.transact_eq_committed.1 h
  simp only [ItemTable.applyAll_cons, ItemTable.applyAll_nil] at ha
  split at ha
  · exact (Except.ok.inj ha).symm
  · cases ha

/-- A committed pointer creation puts the pointer of the revision. -/
theorem create_committed {r : RevisionId} {p' : ItemTable}
    (h : k.create p r = (.committed, p')) : p' = p.put k.pointerKey r.pointerItem := by
  have ha := ItemTable.transact_eq_committed.1 h
  simp only [ItemTable.applyAll_cons, ItemTable.applyAll_nil] at ha
  split at ha
  · exact (Except.ok.inj ha).symm
  · cases ha

/-- A pointer in good standing that reads reads as the revision whose text it holds. -/
theorem PointerWF.current_eq (h : k.PointerWF p n) {cur : RevisionId}
    (hcur : k.current p = .ok (some cur)) :
    p.get? k.pointerKey = some cur.pointerItem ∧ PlainToken cur.token ∧ cur.token ≠ "" ∧
      cur.revision ≤ n := by
  cases hget : p.get? k.pointerKey with
  | none => simp [current, hget] at hcur
  | some i =>
    obtain ⟨r, rfl, hplain, htok, hr⟩ := h _ hget
    rw [current_pointerItem hget htok] at hcur
    split at hcur
    · cases hcur
      exact ⟨rfl, hplain, htok, hr⟩
    · cases hcur

end RevisionKind

/-- The token of every revision a series writes is plain and not empty. -/
theorem freshToken_plain (o : ObjectStores) : PlainToken o.freshToken.1 ∧ o.freshToken.1 ≠ "" :=
  ⟨plainToken_rev _, by simp [ObjectStores.freshToken, ← String.toList_inj]⟩

/-! ## Objects -/

/-- The records of an object fit the columns: every split dimension and record count can be
written again. -/
def SnapshotObject.Encodable : SnapshotObject → Prop
  | .partitions ps => ∃ c, PartitionColumns.ofPartitions ps = .ok c
  | .files fs => ∃ c, FileColumns.ofFiles fs = .ok c

namespace ObjectStores

/-- Every object of the stores fits the columns. -/
def Encodable (o : ObjectStores) : Prop :=
  ∀ loc obj, o.get? loc = some obj → obj.Encodable

variable {o : ObjectStores}

theorem encodable_empty : ObjectStores.empty.Encodable := by
  intro loc obj h
  cases h

theorem Encodable.put (h : o.Encodable) {obj : SnapshotObject} (hobj : obj.Encodable)
    (loc : ObjectLocation) : (o.put loc obj).Encodable := by
  intro loc' obj' hget
  rw [get?_put] at hget
  split at hget
  · cases hget
    exact hobj
  · exact h loc' obj' hget

theorem Encodable.freshToken (h : o.Encodable) : o.freshToken.2.Encodable := by
  intro loc obj hget
  exact h loc obj (by simpa using hget)

end ObjectStores

/-- The object a format writes fits the columns. -/
theorem partitionFormat_encodable {ps : List Partition} {obj : SnapshotObject}
    (h : partitionFormat.encode ps = .ok obj) : obj.Encodable := by
  obtain ⟨c, hc, rfl⟩ := Except.map_eq_ok.1 h
  exact ⟨c, hc⟩

theorem fileFormat_encodable {fs : List FileRecord} {obj : SnapshotObject}
    (h : fileFormat.encode fs = .ok obj) : obj.Encodable := by
  obtain ⟨c, hc, rfl⟩ := Except.map_eq_ok.1 h
  exact ⟨c, hc⟩

/-- The partitions read from an object that fits the columns can be written again. -/
theorem partitionFormat_decode_encodable {obj : SnapshotObject} (hobj : obj.Encodable)
    {ps : List Partition} (h : partitionFormat.decode obj = .ok ps) :
    ∃ obj', partitionFormat.encode ps = .ok obj' := by
  cases obj with
  | partitions qs =>
    obtain ⟨c, hc⟩ := hobj
    cases h
    exact ⟨_, by simp [partitionFormat, hc]; rfl⟩
  | files fs =>
    cases fs with
    | nil =>
      cases h
      exact ⟨_, rfl⟩
    | cons f fs => cases h

theorem fileFormat_decode_encodable {obj : SnapshotObject} (hobj : obj.Encodable)
    {fs : List FileRecord} (h : fileFormat.decode obj = .ok fs) :
    ∃ obj', fileFormat.encode fs = .ok obj' := by
  cases obj with
  | files gs =>
    obtain ⟨c, hc⟩ := hobj
    cases h
    exact ⟨_, by simp [fileFormat, hc]; rfl⟩
  | partitions ps =>
    cases ps with
    | nil =>
      cases h
      exact ⟨_, rfl⟩
    | cons p ps => cases h

/-! ## Series -/

namespace SnapshotSeries

variable {α : Type} {s : SnapshotSeries α} {st st' : SnapshotState}

/-- A series stands well when its libraries read the names of its snapshots alike, its format's
objects read back, and it makes at least one attempt at an update. -/
structure Standing (s : SnapshotSeries α) : Prop where
  names : s.urls.ReadsNamesAlike (snapshotPrefix s.base s.format.kind)
  roundTrip : s.format.RoundTrip
  attempts : s.maxAttempts ≠ 0

/-- An initialisation that succeeds found no pointer, wrote the encoded records with a fresh token
and pointed at the first revision. -/
theorem initialise_committed {rs : List α} (h : s.initialise st rs = (st', .ok ())) :
    ∃ loc obj, s.format.encode rs = .ok obj ∧ st' = ⟨st.pointers.put s.format.kind.pointerKey
      (RevisionId.initial st.objects.freshToken.1).pointerItem, st.objects.freshToken.2.put loc obj⟩ := by
  obtain ⟨loc, obj, t, -, henc, hcreate, rfl⟩ := initialise_cases h
  exact ⟨loc, obj, henc, by rw [RevisionKind.create_committed hcreate]⟩

/-- An update that succeeds kept the state, or read the current records, changed them, wrote the
encoded change with a fresh token and moved the pointer to the next revision. -/
theorem update_committed {change : List α → Except Error (Option (List α))}
    (h : s.update st change = (st', .ok ())) :
    st' = st ∨ ∃ cur rs rs' loc obj, s.read st = .ok (cur, rs) ∧ change rs = .ok (some rs') ∧
      s.format.encode rs' = .ok obj ∧ st' = ⟨st.pointers.put s.format.kind.pointerKey
        (nextRevision cur st.objects).pointerItem, st.objects.freshToken.2.put loc obj⟩ := by
  rcases update_cases h with rfl | ⟨cur, rs, rs', loc, obj, t, hread, hchange, -, henc, hmove, rfl⟩
  · exact .inl rfl
  · exact .inr ⟨cur, rs, rs', loc, obj, hread, hchange, henc,
      by rw [RevisionKind.moveFrom_committed hmove]⟩

/-! ### Plain pointers -/

/-- The pointer of a series is absent, or names a revision with a plain token that is not
empty. -/
def PointsPlain (s : SnapshotSeries α) (st : SnapshotState) : Prop :=
  ∀ i, st.pointers.get? s.format.kind.pointerKey = some i →
    ∃ r : RevisionId, i = r.pointerItem ∧ PlainToken r.token ∧ r.token ≠ ""

theorem pointsPlain_of_pointerWF {n : Nat} (h : s.format.kind.PointerWF st.pointers n) :
    s.PointsPlain st := fun i hi => by
  obtain ⟨r, rfl, hplain, htok, -⟩ := h i hi
  exact ⟨r, rfl, hplain, htok⟩


/-- A read that succeeds read the revision whose text its pointer holds. -/
theorem pointer_of_read (hp : s.PointsPlain st) {cur : RevisionId} {rs : List α}
    (h : s.read st = .ok (cur, rs)) :
    st.pointers.get? s.format.kind.pointerKey = some cur.pointerItem ∧ PlainToken cur.token ∧
      cur.token ≠ "" := by
  have hcur := (read_current h).1
  cases hi : st.pointers.get? s.format.kind.pointerKey with
  | none => simp [RevisionKind.current, hi] at hcur
  | some i =>
    obtain ⟨r, rfl, hr, htok⟩ := hp i hi
    rw [RevisionKind.current_pointerItem hi htok] at hcur
    by_cases hlt : r.revision < Nat.pow 2 64
    · rw [if_pos hlt] at hcur
      obtain rfl : r = cur := Option.some.inj (Except.ok.inj hcur)
      exact ⟨rfl, hr, htok⟩
    · rw [if_neg hlt] at hcur
      cases hcur

/-! ### Failure atomicity

A pointer that is created only where none is, and moved only from the revision it holds, is
never refused: an initialisation reads no pointer before it creates one, and an update of a
pointer that holds the text of a revision with a plain token reads that revision. So these calls
fail only before they write, and leave the state as it was. -/

/-- An initialisation fails only before it writes. -/
theorem initialise_atomic (rs : List α) : Except.Atomic st (s.initialise st rs) := by
  rcases @initialise_outcome _ s st rs with
    ⟨e, heq⟩ | ⟨loc, obj, hcur, -, ⟨t, -, heq⟩ | ⟨i, k, t, hcreate, -⟩⟩
  · rw [heq]
    exact Except.atomic_error _ _
  · rw [heq]
    exact Except.atomic_ok _ _
  · -- no pointer was read, so the creation is not refused
    have hnone : st.pointers.get? s.format.kind.pointerKey = none := by
      cases hget : st.pointers.get? s.format.kind.pointerKey with
      | none => rfl
      | some i =>
        simp only [RevisionKind.current, hget] at hcur
        split at hcur
        · obtain ⟨r, -, hr⟩ := Except.map_eq_ok.1 hcur
          cases hr
        · cases hcur
    rw [RevisionKind.create_of_none hnone] at hcreate
    cases hcreate

/-- An update of a series whose pointer names a revision with a plain token fails only before it
writes. -/
theorem update_atomic (hp : s.PointsPlain st) (change : List α → Except Error (Option (List α))) :
    Except.Atomic st (s.update st change) := by
  rcases @update_outcome _ s st change with
    hsame | ⟨cur, rs, rs', loc, obj, -, hread, -, -, -, ⟨t, -, heq⟩ | ⟨i, k, t, hmove, -⟩⟩
  · exact fun _ _ => hsame
  · rw [heq]
    exact Except.atomic_ok _ _
  · -- the pointer holds the text of the revision read, so the move is not refused
    obtain ⟨hptr, -⟩ := pointer_of_read hp hread
    rw [RevisionKind.moveFrom_pointerItem hptr] at hmove
    cases hmove

section Preservation

variable {k : RevisionKind} {n : Nat}

theorem initialise_pointerWF {rs : List α} (h : s.initialise st rs = (st', .ok ())) :
    s.format.kind.PointerWF st'.pointers st'.objects.tokens := by
  obtain ⟨loc, obj, -, rfl⟩ := initialise_committed h
  exact RevisionKind.pointerWF_put (freshToken_plain st.objects).1 (freshToken_plain st.objects).2
    (by simp [RevisionId.initial, ObjectStores.freshToken, ObjectStores.put])

/-- An update in good standing that succeeds keeps its pointer in good standing: the next
revision took the next token. -/
theorem update_pointerWF {change : List α → Except Error (Option (List α))}
    (hwf : s.format.kind.PointerWF st.pointers st.objects.tokens)
    (h : s.update st change = (st', .ok ())) :
    s.format.kind.PointerWF st'.pointers st'.objects.tokens := by
  rcases update_committed h with rfl | ⟨cur, rs, rs', loc, obj, hread, -, -, rfl⟩
  · exact hwf
  · obtain ⟨-, -, -, hr⟩ := hwf.current_eq (read_current hread).1
    exact RevisionKind.pointerWF_put (freshToken_plain st.objects).1
      (freshToken_plain st.objects).2
      (by simp [RevisionId.next, ObjectStores.freshToken, ObjectStores.put]; omega)

theorem initialise_pointerWF_other {rs : List α} (h : s.initialise st rs = (st', .ok ()))
    (hk : k ≠ s.format.kind) (hwf : k.PointerWF st.pointers n) : k.PointerWF st'.pointers n := by
  obtain ⟨loc, obj, -, rfl⟩ := initialise_committed h
  exact hwf.put_other (Ne.symm hk) _

theorem update_pointerWF_other {change : List α → Except Error (Option (List α))}
    (h : s.update st change = (st', .ok ())) (hk : k ≠ s.format.kind) (hwf : k.PointerWF st.pointers n) :
    k.PointerWF st'.pointers n := by
  rcases update_committed h with rfl | ⟨cur, rs, rs', loc, obj, -, -, -, rfl⟩
  · exact hwf
  · exact hwf.put_other (Ne.symm hk) _

theorem initialise_tokens {rs : List α} (h : s.initialise st rs = (st', .ok ())) :
    st'.objects.tokens = st.objects.tokens + 1 := by
  obtain ⟨loc, obj, -, rfl⟩ := initialise_committed h
  rfl

theorem update_tokens_le {change : List α → Except Error (Option (List α))}
    (h : s.update st change = (st', .ok ())) : st.objects.tokens ≤ st'.objects.tokens := by
  rcases update_committed h with rfl | ⟨cur, rs, rs', loc, obj, -, -, -, rfl⟩
  · exact Nat.le_refl _
  · exact Nat.le_succ _

/-- The objects of a format whose objects fit the columns stay so after an initialisation. -/
theorem initialise_encodable (hfmt : ∀ rs obj, s.format.encode rs = .ok obj → obj.Encodable)
    (ho : st.objects.Encodable) {rs : List α} (h : s.initialise st rs = (st', .ok ())) :
    st'.objects.Encodable := by
  obtain ⟨loc, obj, henc, rfl⟩ := initialise_committed h
  exact ho.freshToken.put (hfmt _ _ henc) loc

theorem update_encodable (hfmt : ∀ rs obj, s.format.encode rs = .ok obj → obj.Encodable)
    (ho : st.objects.Encodable) {change : List α → Except Error (Option (List α))}
    (h : s.update st change = (st', .ok ())) : st'.objects.Encodable := by
  rcases update_committed h with rfl | ⟨cur, rs, rs', loc, obj, -, -, henc, rfl⟩
  · exact ho
  · exact ho.freshToken.put (hfmt _ _ henc) loc

end Preservation

/-- An update of a series in good standing whose change succeeds on the records read, and whose
changed records can be written, commits while fewer than 2^64 - 1 tokens have been issued: the
series then reads the changed records. -/
theorem update_commits (hs : s.Standing) (hwf : s.format.kind.PointerWF st.pointers st.objects.tokens)
    (change : List α → Except Error (Option (List α))) {cur : RevisionId} {rs rs' : List α}
    (hread : s.read st = .ok (cur, rs)) (h : change rs = .ok (some rs')) {obj : SnapshotObject}
    (henc : s.format.encode rs' = .ok obj) (hroom : st.objects.tokens + 1 < Nat.pow 2 64) :
    ∃ st', s.update st change = (st', .ok ()) ∧ ∃ r, s.read st' = .ok (r, rs') := by
  obtain ⟨hptr, hplain, -, hr⟩ := hwf.current_eq (read_current hread).1
  obtain ⟨u, loc, -, -, hupdate, hread'⟩ :=
    update_commit hs.attempts hs.names hs.roundTrip hptr hplain (by omega) hread h henc
  exact ⟨_, hupdate, _, hread'⟩

end SnapshotSeries

end TableState
