import TableState.Store.Table
import TableState.Proofs.Item.Store
import TableState.Proofs.Snapshot.Calls

/-!
# The calls of a table's store

A change of a table is one call of its store, or two for an initialisation, which calls the
partition store and then, when that succeeds, the file store (`TableStore.change_of_initialises`).

A call that fails leaves the table as it was and at most prunes the objects
(`TableStore.changePart_error`): the item backend checks before it writes and has its
transactions refused whole, and the snapshot backend fails before it moves a pointer. So a
property that pruning keeps and that every call that succeeds keeps is kept by every call
(`TableStore.changePart_keeps`), and then by every change (`TableStore.change_keeps`).
-/

set_option autoImplicit false

namespace TableState

/-- Whether a change initialises both the partitions and the files of a table. -/
def TableChange.initialisesTable : TableChange → Bool
  | .initialise | .initialiseWith _ => true
  | _ => false

namespace TableStore

variable {t : TableStore} {o : ObjectStores} {now : Int}

/-- A change that does not initialise a table is one call of its store. -/
theorem change_of_not_initialises {c : TableChange} (hc : c.initialisesTable = false) :
    t.change o now c = t.changePart o now c := by
  cases c <;> first | rfl | cases hc

/-- A change that initialises a table calls the partition store, and then, when that succeeds,
the file store. -/
theorem change_of_initialises {c : TableChange} (hc : c.initialisesTable = true) :
    t.change o now c =
      match t.changePart o now c with
      | (r, .error e) => (r, .error e)
      | ((t', o'), .ok ()) => t'.changePart o' now .initialiseFiles := by
  cases c <;> first | rfl | cases hc

theorem with_backend {b : TableBackend} (hb : t.backend = b) : { t with backend := b } = t := by
  cases t
  cases hb
  rfl

/-- What a call of the item backend commits: the table with the item store the call commits. -/
theorem committed_items (r : ItemStore × Except Error Unit) :
    Except.committed (({ t with backend := .items r.1 }, o), r.2) =
      (Except.committed r).map fun s => ({ t with backend := .items s }, o) :=
  Except.committed_map (fun s => ({ t with backend := .items s }, o)) r

/-- What a call of the snapshot backend commits: the table with the pointers the call commits,
and its objects. -/
theorem committed_snapshot (sn : SnapshotTable) (r : SnapshotState × Except Error Unit) :
    Except.committed (({ t with backend := .snapshot sn r.1.pointers }, r.1.objects), r.2) =
      (Except.committed r).map fun st => ({ t with backend := .snapshot sn st.pointers }, st.objects) :=
  Except.committed_map (fun st => ({ t with backend := .snapshot sn st.pointers }, st.objects)) r

/-- A call of a table's store that fails leaves the table as it was and at most prunes the
objects: the item backend checks before it writes and has its transactions refused whole, and
the snapshot backend fails before it moves a pointer. -/
theorem changePart_error {c : TableChange} {e : Error} (h : (t.changePart o now c).2 = .error e) :
    (t.changePart o now c).1.1 = t ∧ o.Pruned (t.changePart o now c).1.2 := by
  unfold changePart at h ⊢
  cases hb : t.backend with
  | items s =>
    simp only [hb] at h ⊢
    -- every call of the item store that fails leaves it as it was
    have hdone : ∀ {r : ItemStore × Except Error Unit}, Except.Atomic s r → r.2 = .error e →
        { t with backend := .items r.1 } = t ∧ o.Pruned o := fun hr he =>
      ⟨by rw [hr e he]; exact with_backend hb, ObjectStores.Pruned.refl o⟩
    cases c with
    | initialise => exact hdone ItemStore.initialisePartitions_atomic h
    | initialiseWith ps => exact hdone ItemStore.initialisePartitions_atomic h
    | initialiseFiles => cases h
    | split parent c1 c2 => exact hdone ItemStore.split_atomic h
    | addFiles fs => exact hdone ItemStore.addFiles_atomic h
    | replaceFiles old new => exact hdone ItemStore.replaceFiles_atomic h
    | assignJob job fs => exact hdone ItemStore.assignJob_atomic h
    | markGcPending => exact hdone ItemStore.markGcPending_atomic h
    | deleteLifecycle names => exact hdone ItemStore.deleteLifecycle_atomic h
  | snapshot sn p =>
    simp only [hb] at h ⊢
    -- every call of the snapshot backend that fails leaves the pointers
    have hdone : ∀ {r : SnapshotState × Except Error Unit},
        SnapshotState.LeftAfterFailure ⟨p, o⟩ r → r.2 = .error e →
          { t with backend := .snapshot sn r.1.pointers } = t ∧ o.Pruned r.1.objects :=
      fun hr he => ⟨by rw [(hr e he).1]; exact with_backend hb, (hr e he).2⟩
    cases c with
    | initialise => exact hdone SnapshotTable.initialisePartitions_error h
    | initialiseWith ps => exact hdone SnapshotTable.initialisePartitions_error h
    | initialiseFiles => exact hdone SnapshotTable.initialiseFiles_error h
    | split parent c1 c2 => exact hdone SnapshotTable.split_error h
    | addFiles fs => exact hdone SnapshotTable.addFiles_error h
    | replaceFiles old new => exact hdone SnapshotTable.replaceFiles_error h
    | assignJob job fs => exact hdone SnapshotTable.assignJob_error h
    | markGcPending => exact hdone SnapshotTable.markGcPending_error h
    | deleteLifecycle names => exact hdone SnapshotTable.deleteLifecycle_error h

/-- A property of a table with the objects that pruning the objects keeps, and that every call
that succeeds keeps, is kept by every call. -/
theorem changePart_keeps {R : TableStore → ObjectStores → Prop}
    (hpruned : ∀ {t : TableStore} {o o' : ObjectStores}, R t o → o.Pruned o' → R t o')
    (hok : ∀ {t : TableStore} {o : ObjectStores} {t' : TableStore} {o' : ObjectStores}
      {c : TableChange}, R t o → t.changePart o now c = ((t', o'), .ok ()) → R t' o')
    (c : TableChange) (h : R t o) : R (t.changePart o now c).1.1 (t.changePart o now c).1.2 := by
  rcases hc : t.changePart o now c with ⟨⟨t', o'⟩, e | ⟨⟩⟩
  · obtain ⟨ht, hp⟩ := changePart_error (show (t.changePart o now c).2 = .error e by rw [hc])
    rw [hc] at ht hp
    dsimp only at ht hp ⊢
    subst ht
    exact hpruned h hp
  · exact hok h hc

/-- A property of a table with the objects that every call of its store keeps, whether it
succeeds or fails, holds after a change, in one call or in two: an initialisation calls the
partition store and, when that succeeds, the file store. -/
theorem change_keeps {R : TableStore → ObjectStores → Prop}
    (hR : ∀ {t : TableStore} {o : ObjectStores} (c : TableChange), R t o →
      R (t.changePart o now c).1.1 (t.changePart o now c).1.2)
    (h : R t o) (c : TableChange) : R (t.change o now c).1.1 (t.change o now c).1.2 := by
  cases hc : c.initialisesTable
  · rw [change_of_not_initialises hc]
    exact hR c h
  · have h₁ := hR c h
    rw [change_of_initialises hc]
    rcases hc₁ : t.changePart o now c with ⟨⟨t₁, o₁⟩, e | ⟨⟩⟩ <;> rw [hc₁] at h₁
    · exact h₁
    · exact hR _ h₁

end TableStore

end TableState
