import TableState.Proofs.Session.Reachable
import TableState.Proofs.Partition.SplitOutcome

/-!
# Stored partitions in every reachable session

Every reachable session stores the partitions of its tables in a form that reads back
(`Session.PartitionsStored`): the partition table of an item backend holds the item of each
partition written, under its id (`ItemTable.Mirrors`), and a snapshot backend keeps its partition
series in good standing on a `mem` location; every object of the shared stores fits the columns.
Changes of any table keep this, since a change of the item backend touches one of its two tables
and a change of the snapshot backend initialises or updates one of its two series
(`SnapshotTable.CallsSeries`).

Since the pointers of a stored snapshot table name plain revisions, a snapshot backend is never
refused a pointer write, so a call of either backend that fails leaves the table and the objects
exactly as they were (`TableStore.changePart_atomic`): in a reachable session, every failed call
of a table's store changes nothing (`Session.Reachable.failed_call_leaves_store`), and every
failed step, other than one that initialises both the partitions and the files of a table,
leaves the session as it was (`Session.Reachable.step_error_leaves_session`).

With it, a split in a reachable session follows its reference outcome in both backends
(`Session.Reachable.split_follows_outcome`): it fails with the error of the first check that
fails among the partitions the table reads and leaves the table as it was, or it succeeds and the
table then reads the outcome, up to order.
-/

set_option autoImplicit false

namespace TableState

namespace ItemStore

variable {s s' : ItemStore}

/-- Initialising a partition table that mirrors partitions adds the new ones. -/
theorem initialisePartitions_mirrors {xs ps : List Partition}
    (h : s.partitionTable.Mirrors Partition.id Partition.toItem xs)
    (hi : s.initialisePartitions ps = (s', .ok ())) :
    s'.partitionTable.Mirrors Partition.id Partition.toItem (ps.reverse ++ xs) := by
  obtain ⟨-, t, htr, rfl⟩ := initialisePartitions_eq_ok.1 hi
  exact h.applyAll_inserts (ItemTable.transact_eq_committed.1 htr)

end ItemStore

namespace SnapshotTable

variable {t : SnapshotTable} {st st' : SnapshotState}

/-- A call of a snapshot table that succeeded: it initialised or updated one of its series. -/
def Steps (t : SnapshotTable) (st st' : SnapshotState) : Prop :=
  (∃ rs, t.partitions.initialise st rs = (st', .ok ())) ∨
    (∃ change, t.partitions.update st change = (st', .ok ())) ∨
    (∃ rs, t.files.initialise st rs = (st', .ok ())) ∨
    (∃ change, t.files.update st change = (st', .ok ()))

/-- A call that succeeds made a step of one of the series: its check passed. -/
theorem CallsSeries.steps (h : t.CallsSeries st (st', .ok ())) : t.Steps st st' := by
  rcases h with ⟨e, he⟩ | ⟨rs, h⟩ | ⟨change, h⟩ | ⟨rs, h⟩ | ⟨change, h⟩
  · cases he
  · exact .inl ⟨rs, h.symm⟩
  · exact .inr (.inl ⟨change, h.symm⟩)
  · exact .inr (.inr (.inl ⟨rs, h.symm⟩))
  · exact .inr (.inr (.inr ⟨change, h.symm⟩))

/-- A call of a table whose pointers name plain revisions leaves the state as it was whenever it
fails: it fails a check before writing, or its series' pointer writes are never refused. -/
theorem CallsSeries.atomic {r : SnapshotState × Except Error Unit}
    (hp : t.partitions.PointsPlain st) (hf : t.files.PointsPlain st) (h : t.CallsSeries st r) :
    Except.Atomic st r := by
  rcases h with ⟨e, rfl⟩ | ⟨rs, rfl⟩ | ⟨change, rfl⟩ | ⟨rs, rfl⟩ | ⟨change, rfl⟩
  · exact Except.atomic_error _ _
  · exact SnapshotSeries.initialise_atomic rs
  · exact SnapshotSeries.update_atomic hp change
  · exact SnapshotSeries.initialise_atomic rs
  · exact SnapshotSeries.update_atomic hf change

/-- A snapshot table in the formats of its kinds, on a base `mem` location. -/
structure Standing (t : SnapshotTable) : Prop where
  partitions : t.partitions.Standing
  files : t.files.Standing
  partitionFormat : t.partitions.format = partitionFormat
  fileFormat : t.files.format = fileFormat

/-- The tables a provider builds under a `mem` location stand well: the standard libraries read
the names of their snapshots alike. -/
theorem standing_ofBase {base : Url} (hmem : base.scheme = "mem") {n : Nat} (hn : n ≠ 0) :
    (ofBase .standard base n).Standing :=
  ⟨⟨UrlLibrary.standard_readsNamesAlike hmem _, partitionFormat_roundTrip, hn⟩,
    ⟨UrlLibrary.standard_readsNamesAlike hmem _, fileFormat_roundTrip, hn⟩, rfl, rfl⟩

variable {k : RevisionKind} {n : Nat}

/-- A step keeps the pointers of both kinds in good standing, takes tokens and never gives them
back, and keeps the objects fitting the columns. -/
theorem Steps.preserves (ht : t.Standing) (h : t.Steps st st') :
    (∀ k : RevisionKind, k.PointerWF st.pointers st.objects.tokens →
      k.PointerWF st'.pointers st'.objects.tokens) ∧
    st.objects.tokens ≤ st'.objects.tokens ∧
    (st.objects.Encodable → st'.objects.Encodable) := by
  have hpf : ∀ rs obj, t.partitions.format.encode rs = .ok obj → obj.Encodable := by
    rw [ht.partitionFormat]
    exact fun _ _ => partitionFormat_encodable
  have hff : ∀ rs obj, t.files.format.encode rs = .ok obj → obj.Encodable := by
    rw [ht.fileFormat]
    exact fun _ _ => fileFormat_encodable
  have hkp : t.partitions.format.kind = .partitions := by rw [ht.partitionFormat]; rfl
  have hkf : t.files.format.kind = .files := by rw [ht.fileFormat]; rfl
  rcases h with ⟨rs, h⟩ | ⟨ch, h⟩ | ⟨rs, h⟩ | ⟨ch, h⟩
  · have hle := SnapshotSeries.initialise_tokens h
    refine ⟨fun k hk => ?_, by omega, fun ho => SnapshotSeries.initialise_encodable hpf ho h⟩
    by_cases hkk : k = t.partitions.format.kind
    · exact hkk ▸ SnapshotSeries.initialise_pointerWF h
    · exact (SnapshotSeries.initialise_pointerWF_other h hkk hk).mono (by omega)
  · have hle := SnapshotSeries.update_tokens_le h
    refine ⟨fun k hk => ?_, hle, fun ho => SnapshotSeries.update_encodable hpf ho h⟩
    by_cases hkk : k = t.partitions.format.kind
    · exact SnapshotSeries.update_pointerWF (hkk ▸ hk) h |> (hkk ▸ ·)
    · exact (SnapshotSeries.update_pointerWF_other h hkk hk).mono hle
  · have hle := SnapshotSeries.initialise_tokens h
    refine ⟨fun k hk => ?_, by omega, fun ho => SnapshotSeries.initialise_encodable hff ho h⟩
    by_cases hkk : k = t.files.format.kind
    · exact hkk ▸ SnapshotSeries.initialise_pointerWF h
    · exact (SnapshotSeries.initialise_pointerWF_other h hkk hk).mono (by omega)
  · have hle := SnapshotSeries.update_tokens_le h
    refine ⟨fun k hk => ?_, hle, fun ho => SnapshotSeries.update_encodable hff ho h⟩
    by_cases hkk : k = t.files.format.kind
    · exact SnapshotSeries.update_pointerWF (hkk ▸ hk) h |> (hkk ▸ ·)
    · exact (SnapshotSeries.update_pointerWF_other h hkk hk).mono hle

end SnapshotTable

namespace TableStore

/-- The partitions of a table are stored so that they read back: the partition table of the item
backend mirrors the partitions written, or the snapshot backend stands well with its pointers. -/
def PartitionsStored (t : TableStore) (o : ObjectStores) : Prop :=
  match t.backend with
  | .items s => ∃ xs, s.partitionTable.Mirrors Partition.id Partition.toItem xs
  | .snapshot sn p => sn.Standing ∧ RevisionKind.partitions.PointerWF p o.tokens ∧
      RevisionKind.files.PointerWF p o.tokens

variable {t t' : TableStore} {o o' : ObjectStores} {now : Int}

/-- Issuing tokens keeps the partitions of a table stored. -/
theorem PartitionsStored.mono (ht : t.PartitionsStored o) (hle : o.tokens ≤ o'.tokens) :
    t.PartitionsStored o' := by
  unfold PartitionsStored at ht ⊢
  split at ht
  · exact ht
  · exact ⟨ht.1, ht.2.1.mono hle, ht.2.2.mono hle⟩

/-- The pointers of a snapshot table whose partitions are stored name plain revisions. -/
theorem pointsPlain_of_stored {sn : SnapshotTable} {p : ItemTable} (hsn : sn.Standing)
    (hwp : RevisionKind.partitions.PointerWF p o.tokens)
    (hwf : RevisionKind.files.PointerWF p o.tokens) :
    sn.partitions.PointsPlain ⟨p, o⟩ ∧ sn.files.PointsPlain ⟨p, o⟩ := by
  refine ⟨SnapshotSeries.pointsPlain_of_pointerWF (n := o.tokens) ?_,
    SnapshotSeries.pointsPlain_of_pointerWF (n := o.tokens) ?_⟩
  · rw [hsn.partitionFormat]
    exact hwp
  · rw [hsn.fileFormat]
    exact hwf

/-- **A call that fails changes nothing.** A call of the store of a table whose partitions are
stored leaves the table and the objects exactly as they were whenever it fails: the item backend
checks before it writes and has its transactions refused whole, and the snapshot backend fails
before it writes or, having written, never has a pointer write refused. -/
theorem changePart_atomic (ht : t.PartitionsStored o) (c : TableChange) :
    Except.Atomic (t, o) (t.changePart o now c) := by
  unfold PartitionsStored at ht
  unfold changePart
  cases hb : t.backend with
  | items s =>
    simp only
    have hdone : ∀ {r : ItemStore × Except Error Unit}, Except.Atomic s r →
        Except.Atomic (t, o) (({ t with backend := .items r.1 }, o), r.2) := fun hr e he => by
      rw [hr e he, with_backend hb]
    cases c with
    | initialise => exact hdone ItemStore.initialisePartitions_atomic
    | initialiseWith ps => exact hdone ItemStore.initialisePartitions_atomic
    | initialiseFiles => exact Except.atomic_ok _ _
    | split parent c1 c2 => exact hdone ItemStore.split_atomic
    | addFiles fs => exact hdone ItemStore.addFiles_atomic
    | replaceFiles old new => exact hdone ItemStore.replaceFiles_atomic
    | assignJob job fs => exact hdone ItemStore.assignJob_atomic
    | markGcPending => exact hdone ItemStore.markGcPending_atomic
    | deleteLifecycle names => exact hdone ItemStore.deleteLifecycle_atomic
  | snapshot sn p =>
    rw [hb] at ht
    obtain ⟨hsn, hwp, hwf⟩ := ht
    obtain ⟨hpp, hpf⟩ := pointsPlain_of_stored hsn hwp hwf
    simp only
    have hdone : ∀ {r : SnapshotState × Except Error Unit}, sn.CallsSeries ⟨p, o⟩ r →
        Except.Atomic (t, o) (({ t with backend := .snapshot sn r.1.pointers }, r.1.objects), r.2) :=
      fun hr e he => by
        rw [(hr.atomic hpp hpf) e he]
        exact congrArg (·, o) (with_backend hb)
    cases c with
    | initialise => exact hdone SnapshotTable.initialisePartitions_calls
    | initialiseWith ps => exact hdone SnapshotTable.initialisePartitions_calls
    | initialiseFiles => exact hdone SnapshotTable.initialiseFiles_calls
    | split parent c1 c2 => exact hdone SnapshotTable.split_calls
    | addFiles fs => exact hdone SnapshotTable.addFiles_calls
    | replaceFiles old new => exact hdone SnapshotTable.replaceFiles_calls
    | assignJob job fs => exact hdone SnapshotTable.assignJob_calls
    | markGcPending => exact hdone SnapshotTable.markGcPending_calls
    | deleteLifecycle names => exact hdone SnapshotTable.deleteLifecycle_calls

/-- A failed call of a table whose partitions are stored leaves the table and the objects as
they were. -/
theorem changePart_eq_error (ht : t.PartitionsStored o) {c : TableChange}
    {r : TableStore × ObjectStores} {e : Error} (h : t.changePart o now c = (r, .error e)) :
    r = (t, o) := by
  have hleft := changePart_atomic ht c e (by rw [h])
  rwa [h] at hleft

/-- One call of a table's store that succeeds keeps its partitions stored and the objects fitting
the columns, and never gives tokens back. -/
theorem changePart_partitionsStored_of_ok (ht : t.PartitionsStored o) (ho : o.Encodable)
    {c : TableChange} (h : t.changePart o now c = ((t', o'), .ok ())) :
    t'.PartitionsStored o' ∧ o'.Encodable ∧ o.tokens ≤ o'.tokens := by
  unfold changePart at h
  unfold PartitionsStored at ht
  split at h
  · rename_i s hb
    rw [hb] at ht
    obtain ⟨xs, hxs⟩ := ht
    -- the item backend leaves the object stores alone
    have hdone : ∀ {r : ItemStore × Except Error Unit}
        (hpres : ∀ s', r = (s', .ok ()) → ∃ ys, s'.partitionTable.Mirrors Partition.id Partition.toItem ys),
        (({ t with backend := .items r.1 }, o), r.2) = ((t', o'), .ok ()) →
          t'.PartitionsStored o' ∧ o'.Encodable ∧ o.tokens ≤ o'.tokens := by
      rintro ⟨s', r⟩ hpres hr
      simp only [Prod.mk.injEq] at hr
      obtain ⟨⟨rfl, rfl⟩, rfl⟩ := hr
      exact ⟨hpres s' rfl, ho, Nat.le_refl _⟩
    -- a file change leaves the partition table
    have hsame : ∀ {r : ItemStore × Except Error Unit}, r.1.partitionTable = s.partitionTable →
        ∀ s', r = (s', .ok ()) → ∃ ys, s'.partitionTable.Mirrors Partition.id Partition.toItem ys := by
      rintro r hr s' rfl
      exact ⟨xs, hr ▸ hxs⟩
    cases c with
    | initialise =>
      exact hdone (fun _ hs' => ⟨_, ItemStore.initialisePartitions_mirrors hxs hs'⟩) h
    | initialiseWith ps =>
      exact hdone (fun _ hs' => ⟨_, ItemStore.initialisePartitions_mirrors hxs hs'⟩) h
    | initialiseFiles =>
      simp only [Prod.mk.injEq] at h
      obtain ⟨⟨rfl, rfl⟩, -⟩ := h
      exact ⟨by simp only [PartitionsStored, hb]; exact ⟨xs, hxs⟩, ho, Nat.le_refl _⟩
    | split parent c1 c2 =>
      refine hdone (fun s' hs' => ?_) h
      have hagree := ItemStore.split_agrees hxs parent c1 c2
      rw [hs', Except.committed_ok] at hagree
      generalize Partition.splitOutcome xs parent c1 c2 = B at hagree
      cases hagree with
      | ok hrel => exact ⟨_, hrel.1⟩
    | addFiles fs => exact hdone (hsame ItemStore.addFiles_partitionTable) h
    | replaceFiles old new => exact hdone (hsame ItemStore.replaceFiles_partitionTable) h
    | assignJob job fs => exact hdone (hsame ItemStore.assignJob_partitionTable) h
    | markGcPending => exact hdone (hsame ItemStore.markGcPending_partitionTable) h
    | deleteLifecycle names => exact hdone (hsame ItemStore.deleteLifecycle_partitionTable) h
  · rename_i sn p hb
    rw [hb] at ht
    obtain ⟨hsn, hwp, hwf⟩ := ht
    -- the snapshot backend initialises or updates one series
    have hdone : ∀ {r : SnapshotState × Except Error Unit}, sn.CallsSeries ⟨p, o⟩ r →
        (({ t with backend := .snapshot sn r.1.pointers }, r.1.objects), r.2) = ((t', o'), .ok ()) →
          t'.PartitionsStored o' ∧ o'.Encodable ∧ o.tokens ≤ o'.tokens := by
      rintro ⟨st', r⟩ hc hr
      simp only [Prod.mk.injEq] at hr
      obtain ⟨⟨rfl, rfl⟩, rfl⟩ := hr
      obtain ⟨hptr, hle, henc⟩ := hc.steps.preserves hsn
      exact ⟨⟨hsn, hptr _ hwp, hptr _ hwf⟩, henc ho, hle⟩
    cases c with
    | initialise => exact hdone SnapshotTable.initialisePartitions_calls h
    | initialiseWith ps => exact hdone SnapshotTable.initialisePartitions_calls h
    | initialiseFiles => exact hdone SnapshotTable.initialiseFiles_calls h
    | split parent c1 c2 => exact hdone SnapshotTable.split_calls h
    | addFiles fs => exact hdone SnapshotTable.addFiles_calls h
    | replaceFiles old new => exact hdone SnapshotTable.replaceFiles_calls h
    | assignJob job fs => exact hdone SnapshotTable.assignJob_calls h
    | markGcPending => exact hdone SnapshotTable.markGcPending_calls h
    | deleteLifecycle names => exact hdone SnapshotTable.deleteLifecycle_calls h

/-- Every call of a table's store, whether it succeeds or fails, keeps its partitions stored and
the objects fitting the columns, and never gives tokens back. -/
theorem changePart_partitionsStored (ht : t.PartitionsStored o) (ho : o.Encodable)
    (c : TableChange) :
    (t.changePart o now c).1.1.PartitionsStored (t.changePart o now c).1.2 ∧
      (t.changePart o now c).1.2.Encodable ∧ o.tokens ≤ (t.changePart o now c).1.2.tokens :=
  (changePart_atomic ht c).keeps (P := fun r => r.1.PartitionsStored r.2 ∧ r.2.Encodable ∧
    o.tokens ≤ r.2.tokens) ⟨ht, ho, Nat.le_refl _⟩
    fun _ h => changePart_partitionsStored_of_ok ht ho h

/-- A change of a table, in one call or in two, keeps its partitions stored and the objects
fitting the columns, and never gives tokens back. -/
theorem change_partitionsStored (ht : t.PartitionsStored o) (ho : o.Encodable) (now : Int)
    (c : TableChange) :
    (t.change o now c).1.1.PartitionsStored (t.change o now c).1.2 ∧
      (t.change o now c).1.2.Encodable ∧ o.tokens ≤ (t.change o now c).1.2.tokens := by
  refine change_keeps (R := fun t' o' => t'.PartitionsStored o' ∧ o'.Encodable ∧
    o.tokens ≤ o'.tokens) ?_ ⟨ht, ho, Nat.le_refl _⟩ c
  -- a call keeps the partitions stored and only issues tokens
  rintro t₁ o₁ c' ⟨ht₁, ho₁, hle₁⟩
  have h₂ : (t₁.changePart o₁ now c').1.1.PartitionsStored (t₁.changePart o₁ now c').1.2 ∧
      (t₁.changePart o₁ now c').1.2.Encodable ∧ o₁.tokens ≤ (t₁.changePart o₁ now c').1.2.tokens :=
    changePart_partitionsStored ht₁ ho₁ c'
  obtain ⟨ht₂, ho₂, hle₂⟩ := h₂
  exact ⟨ht₂, ho₂, Nat.le_trans hle₁ hle₂⟩

/-- A split of a table whose partitions are stored follows the outcome among the partitions the
table reads: it fails with the outcome's error, or the table then reads the outcome, up to
order, when the columns hold the split's dimensions and fewer than 2^64 - 1 tokens have been
issued. -/
theorem split_agrees (ht : t.PartitionsStored o) (ho : o.Encodable) (now : Int) {S : List Partition}
    (hS : t.allPartitions o = .ok S) {parent c1 c2 : Partition}
    (hfit : ∀ p ∈ [parent, c1, c2], p.DimensionFits) (hroom : o.tokens + 1 < Nat.pow 2 64) :
    Except.Rel (fun (r : TableStore × ObjectStores) S' =>
        ∃ S'', r.1.allPartitions r.2 = .ok S'' ∧ S''.Perm S')
      (Except.committed (t.changePart o now (.split parent c1 c2)))
      (Partition.splitOutcome S parent c1 c2) := by
  unfold PartitionsStored at ht
  unfold changePart
  unfold allPartitions at hS
  cases hb : t.backend with
  | items s =>
    rw [hb] at ht hS
    obtain ⟨xs, hxs⟩ := ht
    simp only
    rw [committed_items]
    -- the item backend agrees with the outcome among the partitions written, read back
    have hagree := (ItemStore.split_agrees hxs parent c1 c2).trans
      (Partition.splitOutcome_asStored hxs.keys_nodup (ItemStore.allPartitions_perm_asStored hxs hS)
        hfit)
    refine hagree.map fun s' S' => ?_
    rintro ⟨xs', ⟨hxs', -⟩, hS'⟩
    obtain ⟨S'', hS''⟩ := ItemStore.allPartitions_isOk hxs' t.pageSize
    exact ⟨S'', hS'', (ItemStore.allPartitions_perm_asStored hxs' hS'').trans hS'.symm⟩
  | snapshot sn p =>
    rw [hb] at ht hS
    obtain ⟨hsn, hwp, -⟩ := ht
    obtain ⟨⟨cur, S₀⟩, hread, rfl⟩ := Except.map_eq_ok.1 hS
    simp only
    rw [committed_snapshot]
    refine (SnapshotTable.split_agrees hsn.partitions hsn.partitionFormat hwp ho hread hfit
      hroom).map fun st' S' => ?_
    rintro ⟨r, S'', hr, hperm⟩
    exact ⟨S'', by simp [allPartitions, SnapshotSeries.records, hr], hperm⟩

end TableStore

namespace Provider

variable {p : Provider} {props : TableProperties} {t : TableStore}

/-- A snapshot store is built on the location its properties name, without pointers. -/
theorem build_snapshot (h : p.build props = .ok t) {sn : SnapshotTable} {q : ItemTable}
    (hb : t.backend = .snapshot sn q) :
    ∃ text base, props.backend = .snapshot ∧ props.snapshotUrl = some text ∧
      UrlLibrary.standard.parse text = some base ∧
        sn = SnapshotTable.ofBase .standard base p.maxAttempts ∧ q = .empty := by
  simp only [build, Except.bind_eq_ok] at h
  obtain ⟨_, _, h⟩ := h
  split at h
  · obtain ⟨b, hb', ht⟩ := Except.bind_eq_ok.1 h
    cases Except.pure_eq_ok.1 hb'
    cases Except.pure_eq_ok.1 ht
    cases hb
  · obtain ⟨b, hb', -⟩ := Except.bind_eq_ok.1 h
    simp at hb'
  · rename_i text hkind hurl
    split at h
    · rename_i base hbase
      obtain ⟨b, hb', ht⟩ := Except.bind_eq_ok.1 h
      cases Except.pure_eq_ok.1 hb'
      cases Except.pure_eq_ok.1 ht
      cases hb
      refine ⟨text, base, hkind, hurl, ?_, rfl, rfl⟩
      unfold UrlLibrary.ofText at hbase
      split at hbase
      · rename_i u hu
        cases hbase
        exact hu
      · cases hbase
    · obtain ⟨b, hb', -⟩ := Except.bind_eq_ok.1 h
      simp at hb'

/-- A store that a session opens stores its partitions: its item tables are empty, or its
snapshot location is in memory and it has no pointers yet. -/
theorem build_partitionsStored (hatt : p.maxAttempts ≠ 0) (hmem : Session.outsideMemory props = false)
    (h : p.build props = .ok t) (o : ObjectStores) : t.PartitionsStored o := by
  unfold TableStore.PartitionsStored
  split
  · rename_i s hb
    obtain ⟨b, rfl, hb'⟩ := build_eq_ok h
    rcases hb' with rfl | ⟨base, rfl⟩
    · cases hb
      exact ⟨[], ItemTable.mirrors_empty⟩
    · cases hb
  · rename_i sn q hb
    obtain ⟨text, base, hkind, hurl, hparse, rfl, rfl⟩ := build_snapshot h hb
    have hscheme : base.scheme = "mem" := by
      simp only [Session.outsideMemory, hkind, hurl, Option.bind_some, hparse] at hmem
      simpa using hmem
    exact ⟨SnapshotTable.standing_ofBase hscheme hatt, RevisionKind.pointerWF_empty,
      RevisionKind.pointerWF_empty⟩

end Provider

namespace Session

/-- Every store of the session stores its partitions, and every object of the shared stores fits
the columns. -/
structure PartitionsStored (s : Session) : Prop where
  objects : s.objects.Encodable
  stores : ∀ t ∈ s.provider.tables, t.PartitionsStored s.objects

variable {s : Session}

/-- Stored partitions are an invariant of the stores: a change keeps the changed table's
partitions stored and the objects fitting the columns, and only issues tokens, which keeps the
other tables' partitions stored. -/
theorem partitionsStored_invariant :
    StoresInvariant ObjectStores.Encodable TableStore.PartitionsStored where
  empty := ObjectStores.encodable_empty
  build hatt hmem hb _ := Provider.build_partitionsStored hatt hmem hb _
  change now c ht ho := by
    obtain ⟨ht', ho', -⟩ := TableStore.change_partitionsStored ht ho now c
    exact ⟨ht', ho'⟩
  frame now c ht ho hu := hu.mono (TableStore.change_partitionsStored ht ho now c).2.2

theorem Reachable.partitionsStored (h : s.Reachable) : s.PartitionsStored := by
  obtain ⟨ho, hstores⟩ := partitionsStored_invariant.reachable h
  exact ⟨ho, hstores⟩

/-! ## Calls that fail -/

/-- **Failure atomicity.** In every reachable session, a call of the partition store or of the
file store of a kept table that fails, made at any time, leaves the table and every object
exactly as they were: an initialisation of the partitions with any list, a split, adding files,
replacing records, assigning a job, marking files for garbage collection and deleting lifecycle
records alike. So every read of the table gives what it gave before the call, its partitions and
its file-in-partition and lifecycle records among them, and a snapshot table keeps both of its
revision pointers. -/
theorem Reachable.failed_call_leaves_store (hs : s.Reachable) {t : TableStore}
    (ht : t ∈ s.provider.tables) (now : Int) (c : TableChange) {e : Error}
    (h : (t.changePart s.objects now c).2 = .error e) :
    (t.changePart s.objects now c).1 = (t, s.objects) :=
  TableStore.changePart_atomic (hs.partitionsStored.stores t ht) c e h

/-- A snapshot table under `mem:///t`, once initialised, refuses to initialise its partitions
again, and the refused call leaves the table and the objects as they were. -/
theorem reinitialise_refused_leaves_store :
    let s := (((Session.start 0).step (.openTable { TableProperties.new "t" (.single "key" .long)
      with backend := .snapshot, snapshotUrl := some "mem:///t" })).2.step
      (.onTable none (.change .initialise))).2
    let c := TableChange.initialiseWith [Partition.root TableStore.rootId (.single "key" .long)]
    s.Reachable ∧ ∃ t ∈ s.provider.tables,
      (t.changePart s.objects s.now c).2 = .error .alreadyInitialised ∧
      (t.changePart s.objects s.now c).1 = (t, s.objects) := by
  intro s c
  have hs : s.Reachable := ((Reachable.start 0).step _).step _
  have hcalls : s.provider.tables.map (fun t => (t.changePart s.objects s.now c).2) =
      [.error .alreadyInitialised] := by
    decide +kernel
  obtain ⟨t, hts, hcall⟩ := List.map_eq_singleton_iff.1 hcalls
  have ht : t ∈ s.provider.tables := hts ▸ List.mem_singleton_self t
  exact ⟨hs, t, ht, hcall, hs.failed_call_leaves_store ht s.now c hcall⟩

section Steps

variable {n : String} {t : TableStore} {f : StepFailure}

/-- A change that is not an initialisation and fails leaves a reachable session as it was. -/
theorem Reachable.applyChange_error (hs : s.Reachable) (hfind : s.provider.find? n = some t)
    {c : TableChange} (hc : c.initialisesTable = false) (h : (s.applyChange t c).1 = .error f) :
    (s.applyChange t c).2 = s := by
  have hatomic : Except.Atomic (t, s.objects) (t.changePart s.objects s.now c) :=
    TableStore.changePart_atomic (hs.partitionsStored.stores t (Provider.find?_mem hfind)) c
  unfold applyChange at h ⊢
  rw [TableStore.change_of_not_initialises hc] at h ⊢
  rcases hcall : t.changePart s.objects s.now c with ⟨⟨t', o'⟩, e | ⟨⟩⟩
  · -- the call failed, and left the table and the objects
    have hleft := hatomic e (by rw [hcall])
    rw [hcall] at hleft
    obtain ⟨rfl, rfl⟩ := Prod.mk.inj hleft
    simp only
    rw [Provider.replace_of_find? hs.namesDistinct hfind]
  · rw [hcall] at h
    cases h

/-- A step on a table that is not an initialisation and fails leaves a reachable session as it
was. -/
theorem Reachable.tableStep_error (hs : s.Reachable) (hfind : s.provider.find? n = some t)
    {ts : TableStep} (hts : ts.initialisesTable = false) (h : (s.tableStep t ts).1 = .error f) :
    (s.tableStep t ts).2 = s := by
  cases ts with
  | change c => exact hs.applyChange_error hfind hts h
  | initialiseSplitPoints points idPrefix => cases hts
  | splitLeaf parent dimension point left right =>
    simp only [tableStep] at h ⊢
    split
    · rename_i hmade
      simp only [hmade] at h
      exact hs.applyChange_error hfind rfl h
    · rfl
  | read r => rfl

/-- **Failed steps change nothing.** In a reachable session, a step that fails, other than one
that initialises both the partitions and the files of a table, leaves the session as it was:
every kept store, every object of every object store, and so every revision pointer and every
read, is what it was before the step. -/
theorem Reachable.step_error_leaves_session (hs : s.Reachable) {st : SessionStep}
    (hst : st.initialisesTable = false) (h : (s.step st).1 = .error f) : (s.step st).2 = s := by
  cases st with
  | openTable props => exact openWith_error h
  | openYaml text => exact openWith_error h
  | advance millis => exact moveClock_error h
  | setTime millis => exact moveClock_error h
  | onTable table ts =>
    simp only [Session.step] at h ⊢
    split
    · rename_i t hfind
      rw [hfind] at h
      obtain ⟨n, -, hn⟩ := Option.bind_eq_some_iff.1 hfind
      exact hs.tableStep_error hn hst h
    · rfl

end Steps

/-- **Splits follow one outcome.** In every reachable session, a split of a kept table into two
children, whose split dimensions the columns hold, fails with the error of the first check of
`Partition.splitOutcome` that fails among the partitions the table reads, and then leaves the
table and the objects as they were; or it succeeds, and the table then reads the outcome: the
stored partition with the parent's id in its split form and the two children added, up to
order. That holds while fewer than 2^64 - 1 revision tokens have been issued. -/
theorem Reachable.split_follows_outcome (hs : s.Reachable) {t : TableStore}
    (ht : t ∈ s.provider.tables) {S : List Partition} (hS : t.allPartitions s.objects = .ok S)
    {parent c1 c2 : Partition} (hfit : ∀ p ∈ [parent, c1, c2], p.DimensionFits)
    (hroom : s.objects.tokens + 1 < Nat.pow 2 64) :
    (∀ e, Partition.splitOutcome S parent c1 c2 = .error e →
      t.change s.objects s.now (.split parent c1 c2) = ((t, s.objects), .error e)) ∧
    (∀ S', Partition.splitOutcome S parent c1 c2 = .ok S' →
      ∃ t' o', t.change s.objects s.now (.split parent c1 c2) = ((t', o'), .ok ()) ∧
        ∃ S'', t'.allPartitions o' = .ok S'' ∧ S''.Perm S') := by
  have hw := hs.partitionsStored
  have hagree := TableStore.split_agrees (hw.stores t ht) hw.objects s.now hS hfit hroom
  have hatomic : Except.Atomic (t, s.objects) (t.changePart s.objects s.now (.split parent c1 c2)) :=
    TableStore.changePart_atomic (hw.stores t ht) (.split parent c1 c2)
  rw [TableStore.change_of_not_initialises rfl]
  generalize Partition.splitOutcome S parent c1 c2 = B at hagree ⊢
  generalize hA : Except.committed (t.changePart s.objects s.now (.split parent c1 c2)) = A at hagree
  cases hagree with
  | error e =>
    -- the split failed, and a failed call leaves the table and the objects
    have hcall := hatomic.eq_of_error (Except.committed_eq_error.1 hA)
    refine ⟨fun e' he => ?_, fun S' hS' => ?_⟩
    · cases he
      exact hcall
    · cases hS'
  | ok hrel =>
    rename_i r S'
    refine ⟨fun e he => ?_, fun S'' hS'' => ?_⟩
    · cases he
    · cases hS''
      exact ⟨r.1, r.2, Except.committed_eq_ok.1 hA, hrel⟩

/-- A fresh item table splits its root into halves at zero, the result being the outcome that
`Partition.splitOutcome` computes. -/
theorem root_split_follows_outcome :
    let s := (((Session.start 0).step (.openTable (.new "t" (.single "key" .long)))).2.step
      (.onTable none (.change .initialise))).2
    let root := Partition.root TableStore.rootId (.single "key" .long)
    let parent := root.intoSplit ["L", "R"] 0
    let c1 := Partition.leaf "L"
      (root.region.withRange 0 ⟨"key", KeyType.long.minValue, some (.long 0)⟩) (some "root")
    let c2 := Partition.leaf "R" (root.region.withRange 0 ⟨"key", .long 0, none⟩) (some "root")
    s.Reachable ∧ ∃ t ∈ s.provider.tables, t.allPartitions s.objects = .ok [root] ∧
      (∀ p ∈ [parent, c1, c2], p.DimensionFits) ∧ s.objects.tokens + 1 < Nat.pow 2 64 ∧
      (∀ e, Partition.splitOutcome [root] parent c1 c2 = .error e →
        t.change s.objects s.now (.split parent c1 c2) = ((t, s.objects), .error e)) ∧
      (∀ S', Partition.splitOutcome [root] parent c1 c2 = .ok S' →
        ∃ t' o', t.change s.objects s.now (.split parent c1 c2) = ((t', o'), .ok ()) ∧
          ∃ S'', t'.allPartitions o' = .ok S'' ∧ S''.Perm S') := by
  intro s root parent c1 c2
  have hs : s.Reachable := ((Reachable.start 0).step _).step _
  have hreads : s.provider.tables.map (fun t => t.allPartitions s.objects) = [.ok [root]] := by
    decide +kernel
  obtain ⟨t, hts, hread⟩ := List.map_eq_singleton_iff.1 hreads
  have ht : t ∈ s.provider.tables := hts ▸ List.mem_singleton_self t
  have hfit : ∀ p ∈ [parent, c1, c2], p.DimensionFits := by
    intro p hp d hd
    simp only [List.mem_cons, List.not_mem_nil, or_false] at hp
    rcases hp with rfl | rfl | rfl
    · cases hd
      decide
    · cases hd
    · cases hd
  have hroom : s.objects.tokens + 1 < Nat.pow 2 64 := by decide +kernel
  exact ⟨hs, t, ht, hread, hfit, hroom, hs.split_follows_outcome ht hread hfit hroom⟩

end Session

end TableState
