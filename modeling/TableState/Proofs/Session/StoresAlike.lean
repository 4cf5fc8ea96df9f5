import TableState.Proofs.Snapshot.Alike
import TableState.Proofs.Session.Stored

/-!
# Table stores that read alike

Two states of one table *read alike* (`TableStore.Alike`) when they answer every read the same:
an item table with the same item tables, whatever the object stores hold, or a snapshot table
whose two series read alike (`SnapshotTable.Alike`), revision tokens left out. A table keeps its
snapshots at the locations of its two series (`TableStore.Location`); an item table keeps none.

* Reads agree on states that read alike (`TableStore.Alike.allPartitions`,
  `TableStore.Alike.fileInPartitionRecords`, `TableStore.Alike.lifecycleRecords`).
* A change runs alike on them (`TableStore.Alike.change`): the same outcome, and states that read
  alike again, when the table keeps its partition and file snapshots apart.
* A change of a table leaves every object away from its locations alone, and keeps its name and
  its locations (`TableStore.change_follows`).
* Objects changed away from a table's locations keep its states reading alike
  (`TableStore.Alike.objects_left`).
-/

set_option autoImplicit false

namespace TableState

namespace SnapshotTable

variable {t : SnapshotTable} {st st' st₁ st₂ : SnapshotState}

/-- Where a table keeps snapshots: the locations of its two series. -/
def Location (t : SnapshotTable) (loc : ObjectLocation) : Prop :=
  t.partitions.Location loc ∨ t.files.Location loc

/-- The table keeps its partition snapshots and its file snapshots at distinct locations. -/
def SeriesApart (t : SnapshotTable) : Prop :=
  ∀ loc, t.partitions.Location loc → ¬t.files.Location loc

/-- A state differs from another only in objects at the table's locations; its pointers are the
table's own. -/
def Touches (t : SnapshotTable) (st st' : SnapshotState) : Prop :=
  ∀ loc, ¬t.Location loc → st'.objects.get? loc = st.objects.get? loc

theorem touches_partitions (h : t.partitions.Touches st st') : t.Touches st st' :=
  fun loc hloc => h.2 loc fun hl => hloc (.inl hl)

theorem touches_files (h : t.files.Touches st st') : t.Touches st st' :=
  fun loc hloc => h.2 loc fun hl => hloc (.inr hl)

/-- A step of a table in good standing, from plain pointers, touches only the table. -/
theorem Steps.touches (ht : t.Standing) (hp : t.partitions.PointsPlain st)
    (hf : t.files.PointsPlain st) (h : t.Steps st st') : t.Touches st st' := by
  rcases h with ⟨rs, h⟩ | ⟨change, h⟩ | ⟨rs, h⟩ | ⟨change, h⟩
  · exact touches_partitions (SnapshotSeries.initialise_touches ht.partitions hp h)
  · exact touches_partitions (SnapshotSeries.update_touches ht.partitions hp h)
  · exact touches_files (SnapshotSeries.initialise_touches ht.files hf h)
  · exact touches_files (SnapshotSeries.update_touches ht.files hf h)

/-- Two states of a table read alike: both its series do. -/
structure Alike (t : SnapshotTable) (st₁ st₂ : SnapshotState) : Prop where
  partitions : t.partitions.Alike st₁ st₂
  files : t.files.Alike st₁ st₂

theorem pointerKey_ne (ht : t.Standing) :
    t.partitions.format.kind.pointerKey ≠ t.files.format.kind.pointerKey := by
  rw [ht.partitionFormat, ht.fileFormat]
  decide

/-- Well-formed pointers of both kinds are plain for both series of a table in good standing. -/
theorem Standing.pointsPlain (ht : t.Standing) {n : Nat}
    (hp : RevisionKind.partitions.PointerWF st.pointers n)
    (hf : RevisionKind.files.PointerWF st.pointers n) :
    t.partitions.PointsPlain st ∧ t.files.PointsPlain st := by
  have hkp : t.partitions.format.kind = .partitions := by rw [ht.partitionFormat]; rfl
  have hkf : t.files.format.kind = .files := by rw [ht.fileFormat]; rfl
  exact ⟨SnapshotSeries.pointsPlain_of_pointerWF (hkp ▸ hp),
    SnapshotSeries.pointsPlain_of_pointerWF (hkf ▸ hf)⟩

section Steps

variable (ht : t.Standing) (hapart : t.SeriesApart) (h : t.Alike st₁ st₂)
include ht hapart h

/-- A change of the partition series alone keeps the file series reading alike. -/
theorem Alike.of_partitions {st₁' st₂' : SnapshotState}
    (h' : t.partitions.Alike st₁' st₂' ∧ t.partitions.Touches st₁ st₁' ∧
      t.partitions.Touches st₂ st₂') : t.Alike st₁' st₂' :=
  ⟨h'.1, h.files.touched h'.2.1 h'.2.2 (pointerKey_ne ht).symm fun loc hf hp => hapart loc hp hf⟩

/-- A change of the file series alone keeps the partition series reading alike. -/
theorem Alike.of_files {st₁' st₂' : SnapshotState}
    (h' : t.files.Alike st₁' st₂' ∧ t.files.Touches st₁ st₁' ∧ t.files.Touches st₂ st₂') :
    t.Alike st₁' st₂' :=
  ⟨h.partitions.touched h'.2.1 h'.2.2 (pointerKey_ne ht) hapart, h'.1⟩

/-- The calls of one series run alike on two states that read alike: they fail only before
they write, with one error, or commit states that read alike. -/
theorem Alike.partitions_initialise (rs : List Partition) :
    Except.RunAlike t.Alike (t.partitions.initialise st₁ rs) (t.partitions.initialise st₂ rs) :=
  Except.Atomic.runAlike h (SnapshotSeries.initialise_atomic rs) (SnapshotSeries.initialise_atomic rs)
    ((h.partitions.initialise ht.partitions rs).mono fun _ _ => h.of_partitions ht hapart)

theorem Alike.partitions_update (change : List Partition → Except Error (Option (List Partition))) :
    Except.RunAlike t.Alike (t.partitions.update st₁ change) (t.partitions.update st₂ change) :=
  Except.Atomic.runAlike h (SnapshotSeries.update_atomic h.partitions.plain₁ change)
    (SnapshotSeries.update_atomic h.partitions.plain₂ change)
    ((h.partitions.update ht.partitions change).mono fun _ _ => h.of_partitions ht hapart)

theorem Alike.files_initialise (rs : List FileRecord) :
    Except.RunAlike t.Alike (t.files.initialise st₁ rs) (t.files.initialise st₂ rs) :=
  Except.Atomic.runAlike h (SnapshotSeries.initialise_atomic rs) (SnapshotSeries.initialise_atomic rs)
    ((h.files.initialise ht.files rs).mono fun _ _ => h.of_files ht hapart)

theorem Alike.files_update (change : List FileRecord → Except Error (Option (List FileRecord))) :
    Except.RunAlike t.Alike (t.files.update st₁ change) (t.files.update st₂ change) :=
  Except.Atomic.runAlike h (SnapshotSeries.update_atomic h.files.plain₁ change)
    (SnapshotSeries.update_atomic h.files.plain₂ change)
    ((h.files.update ht.files change).mono fun _ _ => h.of_files ht hapart)

/-- Every change of a table runs alike on two states that read alike: its check fails on both
before any call of a series, or both make the same call. -/
theorem Alike.initialisePartitions (ps : List Partition) :
    Except.RunAlike t.Alike (t.initialisePartitions st₁ ps) (t.initialisePartitions st₂ ps) := by
  unfold SnapshotTable.initialisePartitions
  rcases Partition.validateList ps with e | ⟨⟩
  · exact ⟨rfl, h⟩
  · exact h.partitions_initialise ht hapart ps

theorem Alike.initialiseFiles :
    Except.RunAlike t.Alike (t.initialiseFiles st₁) (t.initialiseFiles st₂) :=
  h.files_initialise ht hapart []

theorem Alike.split (parent c1 c2 : Partition) :
    Except.RunAlike t.Alike (t.split st₁ parent c1 c2) (t.split st₂ parent c1 c2) := by
  unfold SnapshotTable.split
  rcases Partition.validateSplit parent c1 c2 with e | ⟨⟩
  · exact ⟨rfl, h⟩
  · exact h.partitions_update ht hapart _

theorem Alike.addFiles (now : Int) (fs : List FileRecord) :
    Except.RunAlike t.Alike (t.addFiles st₁ now fs) (t.addFiles st₂ now fs) := by
  unfold SnapshotTable.addFiles
  rcases FileRecord.validateNew fs with e | ⟨⟩
  · exact ⟨rfl, h⟩
  · exact h.files_update ht hapart _

theorem Alike.replaceFiles (now : Int) (old new : List FileRecord) :
    Except.RunAlike t.Alike (t.replaceFiles st₁ now old new) (t.replaceFiles st₂ now old new) := by
  unfold SnapshotTable.replaceFiles
  rcases FileRecord.validateExisting old with e | ⟨⟩
  · exact ⟨rfl, h⟩
  · rcases FileRecord.validateNew new with e | ⟨⟩
    · exact ⟨rfl, h⟩
    · exact h.files_update ht hapart _

theorem Alike.assignJob (job : String) (fs : List FileRecord) :
    Except.RunAlike t.Alike (t.assignJob st₁ job fs) (t.assignJob st₂ job fs) := by
  unfold SnapshotTable.assignJob
  by_cases hjob : job.isEmpty = true
  · simp only [hjob, if_true]
    exact ⟨rfl, h⟩
  · simp only [hjob]
    rcases FileRecord.validateExisting fs with e | ⟨⟩
    · exact ⟨rfl, h⟩
    · exact h.files_update ht hapart _

theorem Alike.markGcPending (now : Int) :
    Except.RunAlike t.Alike (t.markGcPending st₁ now) (t.markGcPending st₂ now) :=
  h.files_update ht hapart _

theorem Alike.deleteLifecycle (names : List String) :
    Except.RunAlike t.Alike (t.deleteLifecycle st₁ names) (t.deleteLifecycle st₂ names) :=
  h.files_update ht hapart _

end Steps

end SnapshotTable

namespace TableStore

variable {t t₁ t₂ : TableStore} {o o' o₁ o₂ : ObjectStores} {now : Int}

/-! ## Where a table keeps snapshots -/

/-- Where a table keeps snapshots: the locations of its two series; an item table keeps none. -/
def Location (t : TableStore) (loc : ObjectLocation) : Prop :=
  match t.backend with
  | .items _ => False
  | .snapshot sn _ => sn.Location loc

/-- A table keeps its partition snapshots and its file snapshots at distinct locations. -/
def SeriesApart (t : TableStore) : Prop :=
  match t.backend with
  | .items _ => True
  | .snapshot sn _ => sn.SeriesApart

/-- Whether a table keeps snapshots: whether its backend is the snapshot one. -/
def keepsSnapshots (t : TableStore) : Bool :=
  match t.backend with
  | .items _ => false
  | .snapshot _ _ => true

/-- A table that keeps no snapshots has no locations, and keeps its series apart. -/
theorem noLocation_of_keepsSnapshots (h : t.keepsSnapshots = false) :
    (∀ loc, ¬t.Location loc) ∧ t.SeriesApart := by
  unfold keepsSnapshots at h
  unfold Location SeriesApart
  split at h
  · simp
  · cases h

/-- A call keeps the table's name: it changes only its item tables, or its revision pointers. -/
theorem changePart_name (o : ObjectStores) (now : Int) (c : TableChange) :
    (t.changePart o now c).1.1.name = t.name := by
  unfold changePart
  cases t.backend <;> cases c <;> rfl

/-- A call keeps a table's series, and so keeps them apart when they were. -/
theorem changePart_seriesApart (h : t.SeriesApart) (o : ObjectStores) (now : Int)
    (c : TableChange) : (t.changePart o now c).1.1.SeriesApart := by
  unfold SeriesApart at h
  unfold changePart
  cases hb : t.backend with
  | items s =>
    -- an item table keeps no snapshots
    cases c
    case initialiseFiles => simp only [SeriesApart, hb]
    all_goals trivial
  | snapshot sn p =>
    rw [hb] at h
    cases c <;> exact h

theorem change_name (o : ObjectStores) (now : Int) (c : TableChange) :
    (t.change o now c).1.1.name = t.name :=
  change_keeps (R := fun u _ => u.name = t.name) (fun c h => (changePart_name _ _ c).trans h) rfl c

theorem change_seriesApart (h : t.SeriesApart) (o : ObjectStores) (now : Int) (c : TableChange) :
    (t.change o now c).1.1.SeriesApart :=
  change_keeps (R := fun u _ => u.SeriesApart) (fun c h => changePart_seriesApart h _ _ c) h c

/-- A table after a change: its name and locations as before, and every object away from its
locations as before. -/
structure Follows (t : TableStore) (o : ObjectStores) (r : TableStore × ObjectStores) : Prop where
  name : r.1.name = t.name
  location : ∀ loc, r.1.Location loc ↔ t.Location loc
  objects : ∀ loc, ¬t.Location loc → r.2.get? loc = o.get? loc

theorem follows_refl (t : TableStore) (o : ObjectStores) : t.Follows o (t, o) :=
  ⟨rfl, fun _ => Iff.rfl, fun _ _ => rfl⟩

theorem Follows.trans {r₁ r₂ : TableStore × ObjectStores} (h₁ : t.Follows o r₁)
    (h₂ : r₁.1.Follows r₁.2 r₂) : t.Follows o r₂ :=
  ⟨h₂.name.trans h₁.name, fun loc => (h₂.location loc).trans (h₁.location loc),
    fun loc hloc => (h₂.objects loc fun h => hloc ((h₁.location loc).1 h)).trans
      (h₁.objects loc hloc)⟩

/-- A call of a table whose partitions are stored that succeeds follows it: the item backend
leaves the objects alone, and the snapshot backend made one step of one of its series. -/
theorem changePart_follows_of_ok (ht : t.PartitionsStored o) {c : TableChange}
    {r : TableStore × ObjectStores} (h : t.changePart o now c = (r, .ok ())) : t.Follows o r := by
  unfold changePart at h
  unfold PartitionsStored at ht
  cases hb : t.backend with
  | items s =>
    simp only [hb] at h
    have hdone : ∀ {x : ItemStore × Except Error Unit},
        (({ t with backend := .items x.1 }, o), x.2) = (r, .ok ()) → t.Follows o r := by
      intro x hx
      obtain ⟨rfl, -⟩ := Prod.mk.inj hx
      refine ⟨rfl, fun loc => ?_, fun _ _ => rfl⟩
      simp only [Location, hb]
    cases c with
    | initialiseFiles =>
      obtain ⟨rfl, -⟩ := Prod.mk.inj h
      exact follows_refl t o
    | _ => exact hdone h
  | snapshot sn p =>
    rw [hb] at ht
    obtain ⟨hsn, hwp, hwf⟩ := ht
    have hplain : sn.partitions.PointsPlain ⟨p, o⟩ ∧ sn.files.PointsPlain ⟨p, o⟩ :=
      hsn.pointsPlain hwp hwf
    obtain ⟨hpp, hpf⟩ := hplain
    simp only [hb] at h
    have hdone : ∀ {x : SnapshotState × Except Error Unit}, sn.CallsSeries ⟨p, o⟩ x →
        (({ t with backend := .snapshot sn x.1.pointers }, x.1.objects), x.2) = (r, .ok ()) →
          t.Follows o r := by
      rintro ⟨st', x⟩ hcall hx
      obtain ⟨rfl, rfl⟩ := Prod.mk.inj hx
      have htouch := hcall.steps.touches hsn hpp hpf
      refine ⟨rfl, fun loc => ?_, fun loc hloc => htouch loc ?_⟩
      · simp only [Location, hb]
      · simpa only [Location, hb] using hloc
    cases c with
    | initialise => exact hdone SnapshotTable.initialisePartitions_calls h
    | initialiseWith ps => exact hdone SnapshotTable.initialisePartitions_calls h
    | initialiseFiles => exact hdone SnapshotTable.initialiseFiles_calls h
    | split parent c1 c2 => exact hdone SnapshotTable.split_calls h
    | addFiles fs => exact hdone SnapshotTable.addFiles_calls h
    | replaceFiles old new => exact hdone SnapshotTable.replaceFiles_calls h
    | assignJob job fs => exact hdone SnapshotTable.assignJob_calls h
    | markGcPending => exact hdone SnapshotTable.markGcPending_calls h
    | deleteLifecycle names => exact hdone SnapshotTable.deleteLifecycle_calls h

/-- One call of a table whose partitions are stored follows it, whether it succeeds or fails:
a call that fails leaves the table and the objects as they were. -/
theorem changePart_follows (ht : t.PartitionsStored o) (c : TableChange) :
    t.Follows o (t.changePart o now c).1 :=
  (changePart_atomic ht c).keeps (P := fun r => t.Follows o r) (follows_refl t o)
    fun _ h => changePart_follows_of_ok ht h

/-- A change of a table whose partitions are stored, in one phase or in two, follows it. -/
theorem change_follows (ht : t.PartitionsStored o) (ho : o.Encodable) (now : Int)
    (c : TableChange) : t.Follows o (t.change o now c).1 := by
  refine (change_keeps (R := fun t' o' => t'.PartitionsStored o' ∧ o'.Encodable ∧
    t.Follows o (t', o')) ?_ ⟨ht, ho, follows_refl t o⟩ c).2.2
  -- a call follows the table it starts from, whose partitions it keeps stored
  rintro t₁ o₁ c' ⟨ht₁, ho₁, hf₁⟩
  obtain ⟨ht₂, ho₂, -⟩ := changePart_partitionsStored ht₁ ho₁ c'
  exact ⟨ht₂, ho₂, hf₁.trans (changePart_follows ht₁ c')⟩

/-! ## Reading alike -/

/-- Two states of a table, each with its object stores, read alike: they differ at most in the
state of the backend, which is the same item tables, or the same snapshot series, in good
standing and apart, reading alike through their pointers. -/
inductive Alike : TableStore × ObjectStores → TableStore × ObjectStores → Prop
  | items (t : TableStore) (s : ItemStore) (o₁ o₂ : ObjectStores) :
      Alike ({ t with backend := .items s }, o₁) ({ t with backend := .items s }, o₂)
  | snapshot (t : TableStore) {sn : SnapshotTable} (hsn : sn.Standing) (hapart : sn.SeriesApart)
      {p₁ p₂ : ItemTable} {o₁ o₂ : ObjectStores} (h : sn.Alike ⟨p₁, o₁⟩ ⟨p₂, o₂⟩) :
      Alike ({ t with backend := .snapshot sn p₁ }, o₁) ({ t with backend := .snapshot sn p₂ }, o₂)

variable {r₁ r₂ : TableStore × ObjectStores}

/-- A table whose partitions are stored, and which keeps its series apart, reads alike itself. -/
theorem alike_refl (ht : t.PartitionsStored o) (hapart : t.SeriesApart) : Alike (t, o) (t, o) := by
  unfold PartitionsStored at ht
  unfold SeriesApart at hapart
  cases t with
  | mk name schema pageSize gcDelayMillis backend =>
    cases backend with
    | items s => exact .items ⟨name, schema, pageSize, gcDelayMillis, .items s⟩ s o o
    | snapshot sn p =>
      obtain ⟨hsn, hwp, hwf⟩ := ht
      have hplain : sn.partitions.PointsPlain ⟨p, o⟩ ∧ sn.files.PointsPlain ⟨p, o⟩ :=
        hsn.pointsPlain hwp hwf
      exact .snapshot ⟨name, schema, pageSize, gcDelayMillis, .snapshot sn p⟩ hsn hapart
        ⟨SnapshotSeries.alike_refl hplain.1, SnapshotSeries.alike_refl hplain.2⟩

theorem Alike.name (h : Alike r₁ r₂) : r₁.1.name = r₂.1.name := by
  cases h <;> rfl

theorem Alike.schema (h : Alike r₁ r₂) : r₁.1.schema = r₂.1.schema := by
  cases h <;> rfl

theorem Alike.gcDelayMillis (h : Alike r₁ r₂) : r₁.1.gcDelayMillis = r₂.1.gcDelayMillis := by
  cases h <;> rfl

theorem Alike.allPartitions (h : Alike r₁ r₂) :
    r₁.1.allPartitions r₁.2 = r₂.1.allPartitions r₂.2 := by
  cases h with
  | items t s o₁ o₂ => rfl
  | snapshot t hsn hapart h => exact h.partitions.records

theorem Alike.fileInPartitionRecords (h : Alike r₁ r₂) :
    r₁.1.fileInPartitionRecords r₁.2 = r₂.1.fileInPartitionRecords r₂.2 := by
  cases h with
  | items t s o₁ o₂ => rfl
  | snapshot t hsn hapart h =>
    simp only [fileInPartitionRecords]
    rw [h.files.records]

theorem Alike.lifecycleRecords (h : Alike r₁ r₂) :
    r₁.1.lifecycleRecords r₁.2 = r₂.1.lifecycleRecords r₂.2 := by
  cases h with
  | items t s o₁ o₂ => rfl
  | snapshot t hsn hapart h =>
    simp only [lifecycleRecords]
    rw [h.files.records]

/-- Objects changed away from the first table's locations keep the two reading alike. -/
theorem Alike.objects_left (h : Alike (t₁, o₁) r₂)
    (ho : ∀ loc, t₁.Location loc → o.get? loc = o₁.get? loc) : Alike (t₁, o) r₂ := by
  cases h with
  | items t s o₁ o₂ => exact .items t s o o₂
  | snapshot t hsn hapart h =>
    exact .snapshot t hsn hapart ⟨h.partitions.objects_left fun loc hl => ho loc (.inl hl),
      h.files.objects_left fun loc hl => ho loc (.inr hl)⟩

/-! ## Changing alike -/

/-- One call runs alike on two states that read alike. -/
theorem Alike.changePart (h : Alike r₁ r₂) (now : Int) (c : TableChange) :
    Except.RunAlike Alike (r₁.1.changePart r₁.2 now c) (r₂.1.changePart r₂.2 now c) := by
  cases h with
  | items t s o₁ o₂ =>
    -- one item store on both sides: the same call, and the objects are left alone
    have hdone : ∀ x : ItemStore × Except Error Unit,
        Except.RunAlike Alike (({ t with backend := .items x.1 }, o₁), x.2)
          (({ t with backend := .items x.1 }, o₂), x.2) :=
      fun x => ⟨rfl, .items t x.1 o₁ o₂⟩
    cases c with
    | initialiseFiles => exact ⟨rfl, .items t s o₁ o₂⟩
    | _ => exact hdone _
  | @snapshot t sn hsn hapart p₁ p₂ o₁ o₂ h =>
    have hdone : ∀ {x y : SnapshotState × Except Error Unit}, Except.RunAlike sn.Alike x y →
        Except.RunAlike Alike (({ t with backend := .snapshot sn x.1.pointers }, x.1.objects), x.2)
          (({ t with backend := .snapshot sn y.1.pointers }, y.1.objects), y.2) :=
      fun hxy => ⟨hxy.1, .snapshot t hsn hapart hxy.2⟩
    cases c with
    | initialise => exact hdone (h.initialisePartitions hsn hapart _)
    | initialiseWith ps => exact hdone (h.initialisePartitions hsn hapart ps)
    | initialiseFiles => exact hdone (h.initialiseFiles hsn hapart)
    | split parent c1 c2 => exact hdone (h.split hsn hapart parent c1 c2)
    | addFiles fs => exact hdone (h.addFiles hsn hapart now fs)
    | replaceFiles old new => exact hdone (h.replaceFiles hsn hapart now old new)
    | assignJob job fs => exact hdone (h.assignJob hsn hapart job fs)
    | markGcPending => exact hdone (h.markGcPending hsn hapart now)
    | deleteLifecycle names => exact hdone (h.deleteLifecycle hsn hapart names)

/-- A change, in one phase or in two, runs alike on two states that read alike: the same
outcome, and states that read alike again. -/
theorem Alike.change (h : Alike (t₁, o₁) (t₂, o₂)) (now : Int) (c : TableChange) :
    Except.RunAlike Alike (t₁.change o₁ now c) (t₂.change o₂ now c) := by
  have hrun : Except.RunAlike Alike (t₁.changePart o₁ now c) (t₂.changePart o₂ now c) :=
    h.changePart now c
  cases hc : c.initialisesTable
  · rw [change_of_not_initialises hc, change_of_not_initialises hc]
    exact hrun
  · rw [change_of_initialises hc, change_of_initialises hc]
    obtain ⟨hout, hal⟩ := hrun
    -- the first calls have one result: both stop, or both go on to initialise the files
    rcases hc₁ : t₁.changePart o₁ now c with ⟨⟨t₁', o₁'⟩, e₁ | ⟨⟩⟩ <;>
      rcases hc₂ : t₂.changePart o₂ now c with ⟨⟨t₂', o₂'⟩, e₂ | ⟨⟩⟩ <;>
      rw [hc₁, hc₂] at hout hal <;> dsimp only at hout hal ⊢
    · exact ⟨hout, hal⟩
    · cases hout
    · cases hout
    · exact hal.changePart now .initialiseFiles

end TableStore

end TableState
