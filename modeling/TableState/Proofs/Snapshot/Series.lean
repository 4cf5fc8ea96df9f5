import TableState.Store.Snapshot
import TableState.Proofs.Item.Table
import TableState.Proofs.Except

/-!
# Snapshot series

What a snapshot series does to the object stores. Objects are kept per location; writing an
object replaces what was at its location and leaves every other location as it was
(`ObjectStores.get?_put`). A series

* reads the records of the object at one location (`SnapshotSeries.read_eq_ok`);
* initialises by writing the encoded records at one location (`SnapshotSeries.initialise_eq_ok`);
* updates by writing nothing, or the encoded changed records of the records it read at one
  location (`SnapshotSeries.update_eq_ok`);
* fails leaving the pointers as they were and the stores at most pruned: a snapshot written for a
  pointer that refused to move is deleted again (`SnapshotState.LeftAfterFailure`).

Every invariant of the objects then needs only three facts: a put of an object of the right kind
keeps it, a fresh token does not touch the objects, and pruning keeps it.
-/

set_option autoImplicit false

namespace TableState

namespace ObjectStores

@[simp] theorem get?_put (o : ObjectStores) (loc loc' : ObjectLocation) (obj : SnapshotObject) :
    (o.put loc obj).get? loc' = if loc' = loc then some obj else o.get? loc' := by
  simp only [put, get?, List.find?_cons]
  by_cases h : loc' = loc
  · subst h
    simp
  · have hne : (loc == loc') = false := by simpa using Ne.symm h
    simp only [hne, if_neg h, List.find?_filter]
    apply congrArg (fun p => (List.find? p o.objects).map (·.2))
    funext x
    by_cases hx : x.1 = loc'
    · simp [hx, h]
    · simp [hx]

@[simp] theorem get?_delete (o : ObjectStores) (loc loc' : ObjectLocation) :
    (o.delete loc).get? loc' = if loc' = loc then none else o.get? loc' := by
  simp only [delete, get?, List.find?_filter]
  by_cases h : loc' = loc
  · subst h
    simp
  · rw [if_neg h]
    apply congrArg (fun p => (List.find? p o.objects).map (·.2))
    funext x
    by_cases hx : x.1 = loc'
    · simp [hx, h]
    · simp [hx]

@[simp] theorem tokens_put (o : ObjectStores) (loc : ObjectLocation) (obj : SnapshotObject) :
    (o.put loc obj).tokens = o.tokens := rfl

@[simp] theorem tokens_delete (o : ObjectStores) (loc : ObjectLocation) :
    (o.delete loc).tokens = o.tokens := rfl

@[simp] theorem objects_freshToken (o : ObjectStores) : o.freshToken.2.objects = o.objects := rfl

@[simp] theorem get?_freshToken (o : ObjectStores) (loc : ObjectLocation) :
    o.freshToken.2.get? loc = o.get? loc := rfl

@[simp] theorem tokens_freshToken (o : ObjectStores) : o.freshToken.2.tokens = o.tokens + 1 := rfl

/-- The stores `o'` hold only objects that `o` holds, where `o` holds them, and have issued at
least the tokens `o` has: `o` with objects deleted and tokens taken. -/
def Pruned (o o' : ObjectStores) : Prop :=
  (∀ loc obj, o'.get? loc = some obj → o.get? loc = some obj) ∧ o.tokens ≤ o'.tokens

theorem Pruned.refl (o : ObjectStores) : o.Pruned o :=
  ⟨fun _ _ h => h, Nat.le_refl _⟩

theorem Pruned.trans {o o' o'' : ObjectStores} (h : o.Pruned o') (h' : o'.Pruned o'') :
    o.Pruned o'' :=
  ⟨fun loc obj hget => h.1 loc obj (h'.1 loc obj hget), Nat.le_trans h.2 h'.2⟩

/-- An object written and deleted again under a fresh token leaves the stores pruned. -/
theorem pruned_put_delete (o : ObjectStores) (loc : ObjectLocation) (obj : SnapshotObject) :
    o.Pruned ((o.freshToken.2.put loc obj).delete loc) := by
  refine ⟨fun loc' obj' hget => ?_, by simp⟩
  simp only [get?_delete, get?_put, get?_freshToken] at hget
  by_cases h : loc' = loc
  · simp [h] at hget
  · simpa [h] using hget

end ObjectStores

namespace RevisionId

theorem next?_of_lt {r : RevisionId} (h : r.revision + 1 < Nat.pow 2 64) (token : String) :
    r.next? token = some (r.next token) :=
  if_pos h

theorem next?_of_not_lt {r : RevisionId} (h : ¬r.revision + 1 < Nat.pow 2 64) (token : String) :
    r.next? token = none :=
  if_neg h

end RevisionId

namespace SnapshotState

/-- What a failed call leaves: the pointers as they were, and the stores at most pruned. -/
def LeftAfterFailure (st : SnapshotState) (r : SnapshotState × Except Error Unit) : Prop :=
  ∀ e, r.2 = .error e → r.1.pointers = st.pointers ∧ st.objects.Pruned r.1.objects

variable {st : SnapshotState}

theorem leftAfterFailure_of_atomic {r : SnapshotState × Except Error Unit}
    (h : Except.Atomic st r) : st.LeftAfterFailure r := by
  intro e he
  rw [h e he]
  exact ⟨rfl, .refl _⟩

/-- A pointer that refuses to change leaves the pointers, and the snapshot written for it is
deleted again. -/
theorem leftAfterFailure_refused {i : Nat} {k : String} {t : ItemTable} {ops : List WriteOp}
    (hrefused : st.pointers.transact ops = (.conditionFailed i k, t)) (loc : ObjectLocation)
    (obj : SnapshotObject) (e : Error) :
    st.LeftAfterFailure (⟨t, (st.objects.freshToken.2.put loc obj).delete loc⟩, .error e) :=
  fun _ _ => ⟨ItemTable.transact_refused hrefused, ObjectStores.pruned_put_delete _ _ _⟩

/-- What holds of every pruning of the stores, and of the stores every success leaves, holds of
the stores a call leaves. -/
theorem LeftAfterFailure.keeps {P : ObjectStores → Prop} {r : SnapshotState × Except Error Unit}
    (h : st.LeftAfterFailure r) (hpruned : ∀ o, st.objects.Pruned o → P o)
    (hok : ∀ st', r = (st', .ok ()) → P st'.objects) : P r.1.objects := by
  obtain ⟨st', _ | ⟨⟩⟩ := r
  · exact hpruned _ (h _ rfl).2
  · exact hok st' rfl

end SnapshotState

namespace SnapshotSeries

variable {α : Type} {s : SnapshotSeries α} {st st' : SnapshotState}

/-- The snapshot of records at a revision goes where the revision's URL names, and holds the
encoded records. -/
theorem snapshot_eq_ok {r : RevisionId} {rs : List α} {loc : ObjectLocation} {obj : SnapshotObject}
    (h : s.snapshot r rs = .ok (loc, obj)) :
    s.format.encode rs = .ok obj ∧ ∃ u, snapshotUrl s.urls s.base s.format.kind r = .ok u ∧
      objectLocation s.urls u "write snapshot" = .ok loc := by
  simp only [snapshot, Except.bind_eq_ok, Except.pure_eq_ok] at h
  obtain ⟨u, hu, obj', hobj, loc', hloc, hpair⟩ := h
  obtain ⟨rfl, rfl⟩ := Prod.mk.inj hpair
  exact ⟨hobj, u, hu, hloc⟩

/-- A read decodes the object at one location. -/
theorem read_eq_ok {r : RevisionId} {rs : List α} (h : s.read st = .ok (r, rs)) :
    ∃ loc obj, st.objects.get? loc = some obj ∧ s.format.decode obj = .ok rs := by
  simp only [read, Except.bind_eq_ok] at h
  obtain ⟨cur, _, h⟩ := h
  split at h
  · simp only [Except.bind_eq_ok] at h
    obtain ⟨_, _, loc, _, h⟩ := h
    split at h
    · rename_i obj hobj
      simp only [Except.bind_eq_ok] at h
      obtain ⟨rs', hdec, hpure⟩ := h
      have hrs : rs' = rs := (Prod.mk.inj (Except.pure_eq_ok.1 hpure)).2
      exact ⟨loc, obj, hobj, hrs ▸ hdec⟩
    · cases h
  · cases h

/-- What an initialisation does. It fails before it writes, leaving the state as it was; or it
finds no pointer, writes the encoded records under a fresh token and creates the pointer of the
first revision, which commits, or is refused and the snapshot is deleted again. -/
theorem initialise_outcome (rs : List α) :
    (∃ e, s.initialise st rs = (st, .error e)) ∨
    ∃ loc obj, s.format.kind.current st.pointers = .ok none ∧ s.format.encode rs = .ok obj ∧
      ((∃ t, s.format.kind.create st.pointers (RevisionId.initial st.objects.freshToken.1) =
          (.committed, t) ∧ s.initialise st rs = (⟨t, st.objects.freshToken.2.put loc obj⟩, .ok ())) ∨
        ∃ i k t, s.format.kind.create st.pointers (RevisionId.initial st.objects.freshToken.1) =
          (.conditionFailed i k, t) ∧ s.initialise st rs =
            (⟨t, (st.objects.freshToken.2.put loc obj).delete loc⟩, .error .alreadyInitialised)) := by
  unfold initialise
  rcases hcur : s.format.kind.current st.pointers with e | (_ | cur) <;> dsimp only
  · exact .inl ⟨e, rfl⟩
  · rcases hsnap : s.snapshot (RevisionId.initial st.objects.freshToken.1) rs with
      e | ⟨loc, obj⟩ <;> dsimp only
    · exact .inl ⟨e, rfl⟩
    · obtain ⟨henc, -⟩ := snapshot_eq_ok hsnap
      rcases hcreate : s.format.kind.create st.pointers (RevisionId.initial st.objects.freshToken.1)
        with ⟨_ | ⟨i, k⟩, t⟩ <;> dsimp only
      · exact .inr ⟨loc, obj, rfl, henc, .inl ⟨t, rfl, rfl⟩⟩
      · exact .inr ⟨loc, obj, rfl, henc, .inr ⟨i, k, t, rfl, rfl⟩⟩
  · exact .inl ⟨_, rfl⟩

/-- What an update does. It fails before it writes, or its change changes nothing, leaving the
state as it was; or it read the current records, changed them, and wrote the encoded change
under a fresh token as the next revision, numbered below 2^64, and moved the pointer from the
revision read, which commits, or is refused and the snapshot is deleted again. -/
theorem update_outcome (change : List α → Except Error (Option (List α))) :
    (s.update st change).1 = st ∨
    ∃ cur rs rs' loc obj, s.maxAttempts ≠ 0 ∧ s.read st = .ok (cur, rs) ∧
      change rs = .ok (some rs') ∧ cur.revision + 1 < Nat.pow 2 64 ∧
      s.format.encode rs' = .ok obj ∧
      ((∃ t, s.format.kind.moveFrom st.pointers cur (cur.next st.objects.freshToken.1) =
          (.committed, t) ∧ s.update st change = (⟨t, st.objects.freshToken.2.put loc obj⟩, .ok ())) ∨
        ∃ i k t, s.format.kind.moveFrom st.pointers cur (cur.next st.objects.freshToken.1) =
          (.conditionFailed i k, t) ∧ s.update st change =
            (⟨t, (st.objects.freshToken.2.put loc obj).delete loc⟩,
              .error (.retriesExhausted s.maxAttempts))) := by
  unfold update
  by_cases hatt : s.maxAttempts = 0
  · rw [if_pos hatt]
    exact .inl rfl
  rw [if_neg hatt]
  rcases hread : s.read st with e | ⟨cur, rs⟩ <;> dsimp only
  · exact .inl rfl
  rcases hchange : change rs with e | (_ | rs') <;> dsimp only
  · exact .inl rfl
  · exact .inl rfl
  -- past the largest revision number there is no next revision
  by_cases hroom : cur.revision + 1 < Nat.pow 2 64
  · rw [RevisionId.next?_of_lt hroom]
    dsimp only
    rcases hsnap : s.snapshot (cur.next st.objects.freshToken.1) rs' with e | ⟨loc, obj⟩ <;>
      dsimp only
    · exact .inl rfl
    obtain ⟨henc, -⟩ := snapshot_eq_ok hsnap
    rcases hmove : s.format.kind.moveFrom st.pointers cur (cur.next st.objects.freshToken.1) with
      ⟨_ | ⟨i, k⟩, t⟩ <;> dsimp only
    · exact .inr ⟨cur, rs, rs', loc, obj, hatt, rfl, hchange, hroom, henc, .inl ⟨t, hmove, rfl⟩⟩
    · exact .inr ⟨cur, rs, rs', loc, obj, hatt, rfl, hchange, hroom, henc,
        .inr ⟨i, k, t, hmove, rfl⟩⟩
  · rw [RevisionId.next?_of_not_lt hroom]
    exact .inl rfl

/-- An initialisation that succeeds found no pointer, wrote the encoded records with a fresh
token and created the pointer of the first revision. -/
theorem initialise_cases {rs : List α} (h : s.initialise st rs = (st', .ok ())) :
    ∃ loc obj t, s.format.kind.current st.pointers = .ok none ∧ s.format.encode rs = .ok obj ∧
      s.format.kind.create st.pointers (RevisionId.initial st.objects.freshToken.1) =
        (.committed, t) ∧ st' = ⟨t, st.objects.freshToken.2.put loc obj⟩ := by
  rcases @initialise_outcome _ s st rs with
    ⟨e, heq⟩ | ⟨loc, obj, hcur, henc, ⟨t, hcreate, heq⟩ | ⟨i, k, t, -, heq⟩⟩ <;> rw [h] at heq
  · cases heq
  · cases heq
    exact ⟨loc, obj, t, hcur, henc, hcreate, rfl⟩
  · cases heq

/-- An initialisation writes the encoded records at one location of the stores with a fresh
token taken. -/
theorem initialise_eq_ok {rs : List α} (h : s.initialise st rs = (st', .ok ())) :
    ∃ loc obj, s.format.encode rs = .ok obj ∧
      st'.objects = st.objects.freshToken.2.put loc obj := by
  obtain ⟨loc, obj, t, -, henc, -, rfl⟩ := initialise_cases h
  exact ⟨loc, obj, henc, rfl⟩

/-- An update that succeeds kept the state, or read the current records, changed them, wrote the
encoded change with a fresh token and moved the pointer to the next revision, whose number is
below 2^64. -/
theorem update_cases {change : List α → Except Error (Option (List α))}
    (h : s.update st change = (st', .ok ())) :
    st' = st ∨ ∃ cur rs rs' loc obj t, s.read st = .ok (cur, rs) ∧ change rs = .ok (some rs') ∧
      cur.revision + 1 < Nat.pow 2 64 ∧ s.format.encode rs' = .ok obj ∧
      s.format.kind.moveFrom st.pointers cur (cur.next st.objects.freshToken.1) =
        (.committed, t) ∧ st' = ⟨t, st.objects.freshToken.2.put loc obj⟩ := by
  rcases @update_outcome _ s st change with
    hsame | ⟨cur, rs, rs', loc, obj, -, hread, hchange, hroom, henc, ⟨t, hmove, heq⟩ |
      ⟨i, k, t, -, heq⟩⟩
  · rw [h] at hsame
    exact .inl hsame
  · rw [h] at heq
    cases heq
    exact .inr ⟨cur, rs, rs', loc, obj, t, hread, hchange, hroom, henc, hmove, rfl⟩
  · rw [h] at heq
    cases heq

/-- An update writes nothing, or the encoded changed records of the records it read, at one
location of the stores with a fresh token taken. -/
theorem update_eq_ok {change : List α → Except Error (Option (List α))}
    (h : s.update st change = (st', .ok ())) :
    st' = st ∨ ∃ cur rs rs' loc obj, s.read st = .ok (cur, rs) ∧ change rs = .ok (some rs') ∧
      s.format.encode rs' = .ok obj ∧ st'.objects = st.objects.freshToken.2.put loc obj := by
  rcases update_cases h with rfl | ⟨cur, rs, rs', loc, obj, t, hread, hchange, -, henc, -, rfl⟩
  · exact .inl rfl
  · exact .inr ⟨cur, rs, rs', loc, obj, hread, hchange, henc, rfl⟩

/-! ### Failed calls

A call that fails before it writes leaves the state as it was. A pointer that refuses to move
after the snapshot was written leaves the pointers as they were, and the snapshot is deleted
again: the stores are pruned (`ObjectStores.Pruned`). -/

theorem initialise_error {rs : List α} : st.LeftAfterFailure (s.initialise st rs) := by
  rcases @initialise_outcome _ s st rs with
    ⟨e, heq⟩ | ⟨loc, obj, -, -, ⟨t, -, heq⟩ | ⟨i, k, t, hcreate, heq⟩⟩ <;> rw [heq]
  · exact SnapshotState.leftAfterFailure_of_atomic (Except.atomic_error _ _)
  · exact SnapshotState.leftAfterFailure_of_atomic (Except.atomic_ok _ _)
  · exact SnapshotState.leftAfterFailure_refused hcreate loc obj _

theorem update_error {change : List α → Except Error (Option (List α))} :
    st.LeftAfterFailure (s.update st change) := by
  rcases @update_outcome _ s st change with
    hsame | ⟨cur, rs, rs', loc, obj, -, -, -, -, -, ⟨t, -, heq⟩ | ⟨i, k, t, hmove, heq⟩⟩
  · intro e _
    rw [hsame]
    exact ⟨rfl, .refl _⟩
  · rw [heq]
    exact SnapshotState.leftAfterFailure_of_atomic (Except.atomic_ok _ _)
  · rw [heq]
    exact SnapshotState.leftAfterFailure_refused hmove loc obj _

end SnapshotSeries

end TableState
