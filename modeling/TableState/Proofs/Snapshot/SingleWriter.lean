import TableState.Proofs.Snapshot.Paths
import TableState.Proofs.Snapshot.Alike

/-!
# A single writer's calls on a snapshot series

One writer initialises a snapshot series, reads it and updates it, one call after another. A
call that fails leaves the state as it was; reads change nothing. Given a base location whose
snapshots of different revisions lie apart (`SnapshotSeries.DistinctPaths`) and a format whose
records read back and which refuses records only as unwritable (`SnapshotFormat.Faithful`), and a
series that makes at least one attempt at an update, the calls behave as follows
(`SnapshotSeries.Sequential`):

* an initialisation where there is no pointer commits revision 1 with its records, and one where
  there is a pointer fails with `alreadyInitialised`; reading or updating before it fails with
  `notInitialised`;
* an update fails with its change's error, keeps the state when its change reports none, fails
  with a serialisation error when the changed records cannot be written, and otherwise writes
  one new snapshot and moves the pointer to the revision numbered one more.

What carries this over any sequence of calls is the history of committed revisions
(`SnapshotSeries.Tracks`): numbered down from their count to 1, the pointer naming the newest,
each snapshot at a location of its own and reading back as its records, and no other location
or pointer touched. A call keeps the history or adds one revision to it
(`SnapshotSeries.Tracks.after`), so after any calls the current revision is numbered one more than
the updates that committed (`single_writer_calls`).
-/

set_option autoImplicit false

namespace TableState

/-! ## Formats -/

theorem mapM_error {β γ : Type} {f : β → Except Error γ} {P : Error → Prop}
    (hf : ∀ b e, f b = .error e → P e) : ∀ {l : List β} {e : Error}, l.mapM f = .error e → P e
  | [], _, h => by cases h
  | b :: l, e, h => by
    rw [List.mapM_cons] at h
    cases hb : f b with
    | error e' =>
      rw [hb] at h
      cases h
      exact hf b _ hb
    | ok c =>
      rw [hb] at h
      cases hl : l.mapM f with
      | error e' =>
        rw [hl] at h
        cases h
        exact mapM_error hf hl
      | ok cs =>
        rw [hl] at h
        cases h

theorem map_eq_error {β γ : Type} {x : Except Error β} {f : β → γ} {e : Error}
    (h : x.map f = .error e) : x = .error e := by
  cases x with
  | error e' =>
    cases h
    rfl
  | ok b => cases h

theorem bind_pure_eq_error {β γ : Type} {x : Except Error β} {g : β → γ} {e : Error}
    (h : (x >>= fun b => pure (g b)) = .error e) : x = .error e := by
  cases x with
  | error e' =>
    cases h
    rfl
  | ok b => cases h

/-- A split dimension cell is refused only as a dimension above 2^31 - 1. -/
theorem PartitionColumns.dimensionCell_error {sd : Option Nat} {e : Error}
    (h : PartitionColumns.dimensionCell sd = .error e) : e = .serialize "split dimension" := by
  cases sd with
  | none => cases h
  | some d =>
    simp only [PartitionColumns.dimensionCell] at h
    split at h
    · cases h
    · cases h
      rfl

/-- A record count cell is refused only as a count above 2^63 - 1. -/
theorem FileColumns.countCell_error {n : UInt64} {e : Error} (h : FileColumns.countCell n = .error e) :
    e = .serialize "number of records" := by
  unfold FileColumns.countCell at h
  split at h
  · cases h
  · cases h
    rfl

/-- Partitions are refused only for a split dimension the columns cannot hold. -/
theorem partitionFormat_encode_error {ps : List Partition} {e : Error}
    (h : partitionFormat.encode ps = .error e) : e = .serialize "split dimension" :=
  mapM_error (P := fun e => e = .serialize "split dimension")
    (fun _ _ hp => PartitionColumns.dimensionCell_error hp) (bind_pure_eq_error (map_eq_error h))

/-- File records are refused only for a record count the columns cannot hold. -/
theorem fileFormat_encode_error {fs : List FileRecord} {e : Error}
    (h : fileFormat.encode fs = .error e) : e = .serialize "number of records" :=
  mapM_error (P := fun e => e = .serialize "number of records")
    (fun _ _ hf => FileColumns.countCell_error hf) (bind_pure_eq_error (map_eq_error h))

/-- A format as the stores need it: records read back from the object they are written as, and
records are refused only as unwritable. -/
structure SnapshotFormat.Faithful {α : Type} (f : SnapshotFormat α) : Prop where
  roundTrip : f.RoundTrip
  serialize : ∀ rs e, f.encode rs = .error e → ∃ m, e = .serialize m

theorem partitionFormat_faithful : partitionFormat.Faithful :=
  ⟨partitionFormat_roundTrip, fun _ _ h => ⟨_, partitionFormat_encode_error h⟩⟩

theorem fileFormat_faithful : fileFormat.Faithful :=
  ⟨fileFormat_roundTrip, fun _ _ h => ⟨_, fileFormat_encode_error h⟩⟩

/-! ## Calls -/

/-- A call a single writer makes on a snapshot series. -/
inductive SeriesCall (α : Type) where
  | initialise (rs : List α)
  | update (change : List α → Except Error (Option (List α)))

namespace SnapshotSeries

variable {α : Type} {s : SnapshotSeries α}

/-- What a call returns: the state it leaves, with its result. -/
def call (s : SnapshotSeries α) (st : SnapshotState) :
    SeriesCall α → SnapshotState × Except Error Unit
  | .initialise rs => s.initialise st rs
  | .update change => s.update st change

/-- The state a call leaves, whether it succeeds or fails. -/
def after (s : SnapshotSeries α) (st : SnapshotState) (c : SeriesCall α) : SnapshotState :=
  (s.call st c).1

/-- The state after calls made one after another. -/
def run (s : SnapshotSeries α) (st : SnapshotState) (cs : List (SeriesCall α)) : SnapshotState :=
  cs.foldl s.after st

/-- Whether what a change gives commits: a change to the records, which can be written. -/
def changeCommits (s : SnapshotSeries α) : Except Error (Option (List α)) → Bool
  | .ok (some rs') => (s.format.encode rs').toBool
  | _ => false

/-- Whether a call is an update that commits at a state, as updates are specified: its change
reports a change to the records read, and the changed records can be written. -/
def committingUpdate (s : SnapshotSeries α) (st : SnapshotState) : SeriesCall α → Bool
  | .initialise _ => false
  | .update change =>
    match s.read st with
    | .ok (_, rs) => s.changeCommits (change rs)
    | .error _ => false

/-- The number of calls that are updates committing at the state the calls before them leave. -/
def committedUpdates (s : SnapshotSeries α) : SnapshotState → List (SeriesCall α) → Nat
  | _, [] => 0
  | st, c :: cs => (if s.committingUpdate st c then 1 else 0) + s.committedUpdates (s.after st c) cs

variable {st st' st₀ : SnapshotState}

@[simp] theorem after_initialise (rs : List α) : s.after st (.initialise rs) = (s.initialise st rs).1 :=
  rfl

@[simp] theorem after_update (change : List α → Except Error (Option (List α))) :
    s.after st (.update change) = (s.update st change).1 :=
  rfl

theorem committingUpdate_of_read {cur : RevisionId} {rs : List α} (hread : s.read st = .ok (cur, rs))
    (change : List α → Except Error (Option (List α))) :
    s.committingUpdate st (.update change) = s.changeCommits (change rs) := by
  simp only [committingUpdate, hread]

/-! ## Snapshot locations -/

/-- The snapshots of a series lie apart: every revision with a plain token, as every revision a
store issues has, has a snapshot location, and no two such revisions share one. -/
structure DistinctPaths (s : SnapshotSeries α) : Prop where
  located : ∀ r : RevisionId, PlainToken r.token → ∃ loc, s.SnapshotAt r loc
  apart : ∀ r r' : RevisionId, PlainToken r.token → PlainToken r'.token →
    ∀ loc, s.SnapshotAt r loc → s.SnapshotAt r' loc → r = r'

theorem objectLocation_path {L : UrlLibrary} {u : Url} {op : String} {loc : ObjectLocation}
    (h : objectLocation L u op = .ok loc) : ∃ p, L.objectPath u = .ok p ∧ loc.2 = p.toText := by
  unfold objectLocation at h
  split at h
  · rename_i p k hp hk
    cases h
    exact ⟨p, hp, rfl⟩
  · cases h

/-- Under libraries that read the names of a series' snapshots alike, append names to its base
and keep paths, the snapshots of the series lie apart as soon as one of them has a location: every
other then has one too, and their paths differ. -/
theorem distinctPaths_of_laws (hnames : s.urls.ReadsNamesAlike (snapshotPrefix s.base s.format.kind))
    (happ : s.urls.Appends s.base) (hkeep : s.urls.KeepsPaths) {r₀ : RevisionId}
    (hr₀ : PlainToken r₀.token) {loc₀ : ObjectLocation} (h₀ : s.SnapshotAt r₀ loc₀) :
    s.DistinctPaths := by
  refine ⟨fun r hr => ?_, fun r r' hr hr' loc hat hat' => ?_⟩
  · obtain ⟨u, hu, hl⟩ := h₀
    obtain ⟨u', loc', hu', hl'⟩ := snapshotLocation_uniform hnames hr₀ hr hu hl "read snapshot"
    exact ⟨loc', u', hu', hl'⟩
  · obtain ⟨u, hu, hl⟩ := hat
    obtain ⟨u', hu', hl'⟩ := hat'
    obtain ⟨p, hp, hpath⟩ := objectLocation_path hl
    obtain ⟨p', hp', hpath'⟩ := objectLocation_path hl'
    exact (snapshotPath_inj happ hkeep hr hr' hu hu' hp hp' (hpath.symm.trans hpath')).2

/-- Under libraries that append names to the base and keep paths, every location of a series
holds, without its leading slash, the base's path without its trailing slashes followed by a
slash and the name of a snapshot of the series' kind. -/
theorem location_toText (happ : s.urls.Appends s.base) (hkeep : s.urls.KeepsPaths)
    {loc : ObjectLocation} (h : s.Location loc) :
    ∃ r : RevisionId, PlainToken r.token ∧ loc.2.toList =
      dropSlash (s.base.pathText.toList.rdropWhile (· == '/') ++ '/' ::
        snapshotName s.format.kind r) := by
  obtain ⟨r, hr, u, hu, hloc⟩ := h
  obtain ⟨p, hp, hpath⟩ := objectLocation_path hloc
  obtain ⟨v, hv, hvpath⟩ := snapshotUrl_pathText happ s.format.kind hr
  cases hu.symm.trans hv
  refine ⟨r, hr, ?_⟩
  rw [hpath]
  exact objectPath_toText hkeep hvpath (pathName_snapshotName _ hr) hp

/-- The snapshot of records at a revision lies at the revision's location and holds their
encoding. -/
theorem snapshot_at {r : RevisionId} {loc : ObjectLocation} (hat : s.SnapshotAt r loc)
    (rs : List α) : s.snapshot r rs = (s.format.encode rs).map (loc, ·) := by
  obtain ⟨u, hu, hl⟩ := hat
  simp only [snapshot, hu, objectLocation_op hl "write snapshot", bind, Except.bind]
  cases s.format.encode rs <;> rfl

theorem read_of_none (hnone : st.pointers.get? s.format.kind.pointerKey = none) :
    s.read st = .error .notInitialised := by
  simp only [read, RevisionKind.current_eq_ok_none.2 hnone, bind, Except.bind]
  rfl

section Initialise

variable (hnone : st.pointers.get? s.format.kind.pointerKey = none) {loc : ObjectLocation}
  (hat : s.SnapshotAt (RevisionId.initial st.objects.freshToken.1) loc) {rs : List α}
include hnone hat

/-- Without a pointer, an initialisation commits the first revision, with the next token, where
its records can be written. -/
theorem initialise_at {obj : SnapshotObject} (henc : s.format.encode rs = .ok obj) :
    s.initialise st rs = (⟨st.pointers.put s.format.kind.pointerKey
      (RevisionId.initial st.objects.freshToken.1).pointerItem,
        st.objects.freshToken.2.put loc obj⟩, .ok ()) := by
  have h := initialise_of_none (s := s) hnone rs
  rw [snapshot_at hat, henc] at h
  exact Except.committed_eq_ok.1 h

/-- Without a pointer, an initialisation whose records cannot be written fails with the encoding's
error and leaves the state. -/
theorem initialise_unwritable {e : Error} (henc : s.format.encode rs = .error e) :
    s.initialise st rs = (st, .error e) := by
  simp only [initialise, RevisionKind.current_eq_ok_none.2 hnone, snapshot_at hat, henc,
    Except.map]

end Initialise

section Update

variable (hatt : s.maxAttempts ≠ 0) {cur : RevisionId} {rs rs' : List α}
  (hroom : cur.revision + 1 < Nat.pow 2 64) (hread : s.read st = .ok (cur, rs))
  {change : List α → Except Error (Option (List α))} (h : change rs = .ok (some rs'))
  {loc : ObjectLocation} (hat : s.SnapshotAt (nextRevision cur st.objects) loc)
include hatt hroom hread h hat

/-- An update whose change gives new records commits the next revision where they can be
written. -/
theorem update_at (hptr : st.pointers.get? s.format.kind.pointerKey = some cur.pointerItem)
    {obj : SnapshotObject} (henc : s.format.encode rs' = .ok obj) :
    s.update st change = (⟨st.pointers.put s.format.kind.pointerKey
      (nextRevision cur st.objects).pointerItem, st.objects.freshToken.2.put loc obj⟩, .ok ()) := by
  have hc := update_of_some hatt hptr hroom hread h
  rw [snapshot_at hat, henc] at hc
  exact Except.committed_eq_ok.1 hc

/-- An update whose changed records cannot be written fails with the encoding's error and leaves
the state. -/
theorem update_unwritable {e : Error} (henc : s.format.encode rs' = .error e) :
    s.update st change = (st, .error e) := by
  simp only [update, if_neg hatt, hread, h, RevisionId.next?_of_lt hroom, snapshot_at hat, henc,
    Except.map]

end Update

/-! ## The history of committed revisions -/

/-- The state that a single writer's calls leave, against the state `st₀` they started from, with
`h` the revisions committed so far, newest first, each with the records of its snapshot. The
revisions are numbered down from their count to 1, with plain tokens that are not empty; the
pointer names the newest, and is absent before the first; each snapshot lies at its location and
reads back as its records; and no other location, and no other pointer, has changed. -/
structure Tracks (s : SnapshotSeries α) (st₀ st : SnapshotState) (h : List (RevisionId × List α)) :
    Prop where
  numbered : h.map (·.1.revision) = (List.range' 1 h.length).reverse
  tokens : ∀ p ∈ h, PlainToken p.1.token ∧ p.1.token ≠ ""
  pointer : st.pointers.get? s.format.kind.pointerKey = h.head?.map (·.1.pointerItem)
  otherPointers : ∀ key, key ≠ s.format.kind.pointerKey → st.pointers.get? key = st₀.pointers.get? key
  stored : ∀ p ∈ h, ∃ loc obj, s.SnapshotAt p.1 loc ∧ st.objects.get? loc = some obj ∧
    s.format.decode obj = .ok p.2
  unwritten : ∀ loc, (∀ p ∈ h, ¬ s.SnapshotAt p.1 loc) → st.objects.get? loc = st₀.objects.get? loc

/-- The objects of `st'` are those of `st` and one more, `obj`, at the location of the snapshot of
`r`, where no revision of `h` has its snapshot. -/
def AddsSnapshot (s : SnapshotSeries α) (h : List (RevisionId × List α)) (st st' : SnapshotState)
    (r : RevisionId) (obj : SnapshotObject) : Prop :=
  ∃ loc, s.SnapshotAt r loc ∧ (∀ p ∈ h, ¬ s.SnapshotAt p.1 loc) ∧
    ∀ l, st'.objects.get? l = if l = loc then some obj else st.objects.get? l

variable {h : List (RevisionId × List α)}

theorem tracks_start (hnone : st₀.pointers.get? s.format.kind.pointerKey = none) :
    s.Tracks st₀ st₀ [] where
  numbered := rfl
  tokens := by simp
  pointer := hnone
  otherPointers _ _ := rfl
  stored := by simp
  unwritten _ _ := rfl

theorem Tracks.revision_le (ht : s.Tracks st₀ st h) {p : RevisionId × List α} (hp : p ∈ h) :
    p.1.revision ≤ h.length := by
  have hmem : p.1.revision ∈ (List.range' 1 h.length).reverse :=
    ht.numbered ▸ List.mem_map_of_mem hp
  rw [List.mem_reverse, List.mem_range'_1] at hmem
  omega

theorem Tracks.head_revision (ht : s.Tracks st₀ st h) {p : RevisionId × List α}
    (hp : h.head? = some p) : p.1.revision = h.length := by
  obtain ⟨t, rfl⟩ : ∃ t, h = p :: t := by
    cases h with
    | nil => cases hp
    | cons q t => exact ⟨t, by rw [Option.some.inj hp]⟩
  have hnum := ht.numbered
  rw [List.map_cons, List.length_cons, List.range'_concat, List.reverse_append] at hnum
  have := (List.cons.inj hnum).1
  rw [List.length_cons]
  omega

/-- A revision numbered past the history has its snapshot where no revision of the history has. -/
theorem Tracks.fresh (ht : s.Tracks st₀ st h) (hpaths : s.DistinctPaths) {r : RevisionId}
    (hr : PlainToken r.token) (hnum : r.revision = h.length + 1) {loc : ObjectLocation}
    (hat : s.SnapshotAt r loc) : ∀ p ∈ h, ¬ s.SnapshotAt p.1 loc := by
  intro p hp hpat
  have hsame := hpaths.apart _ _ (ht.tokens p hp).1 hr loc hpat hat
  have hle := ht.revision_le hp
  rw [hsame] at hle
  omega

/-- Committing a revision numbered past the history, with a plain token, adds it to the history. -/
theorem Tracks.commit (ht : s.Tracks st₀ st h) (hpaths : s.DistinctPaths) {r : RevisionId}
    (hr : PlainToken r.token) (htok : r.token ≠ "") (hnum : r.revision = h.length + 1)
    {loc : ObjectLocation} (hat : s.SnapshotAt r loc) {obj : SnapshotObject} {rs : List α}
    (hdec : s.format.decode obj = .ok rs) :
    s.Tracks st₀ ⟨st.pointers.put s.format.kind.pointerKey r.pointerItem,
      st.objects.freshToken.2.put loc obj⟩ ((r, rs) :: h) := by
  have hfresh := ht.fresh hpaths hr hnum hat
  refine ⟨?_, ?_, by simp, ?_, ?_, ?_⟩
  · -- the new number heads the count down
    rw [List.map_cons, ht.numbered, List.length_cons, List.range'_concat, List.reverse_append,
      List.reverse_singleton, List.singleton_append, hnum]
    congr 1
    omega
  · intro p hp
    rcases List.mem_cons.1 hp with rfl | hp
    · exact ⟨hr, htok⟩
    · exact ht.tokens p hp
  · intro key hkey
    simp only [ItemTable.get?_put, if_neg hkey]
    exact ht.otherPointers key hkey
  · intro p hp
    rcases List.mem_cons.1 hp with rfl | hp
    · exact ⟨loc, obj, hat, by simp, hdec⟩
    · obtain ⟨loc', obj', hat', hobj', hdec'⟩ := ht.stored p hp
      have hne : loc' ≠ loc := fun he => hfresh p hp (he ▸ hat')
      exact ⟨loc', obj', hat', by simp [hne, hobj'], hdec'⟩
  · intro loc' hloc'
    have hne : loc' ≠ loc := fun he => hloc' (r, rs) List.mem_cons_self (he ▸ hat)
    simp only [ObjectStores.get?_put, if_neg hne, ObjectStores.get?_freshToken]
    exact ht.unwritten loc' fun p hp => hloc' p (List.mem_cons_of_mem _ hp)

/-- Reading gives the newest revision and its records, or fails before the first. -/
theorem Tracks.read (ht : s.Tracks st₀ st h) (hlen : h.length < Nat.pow 2 64) :
    s.read st = h.head?.elim (.error .notInitialised) .ok := by
  cases h with
  | nil => exact read_of_none ht.pointer
  | cons p t =>
    obtain ⟨loc, obj, hat, hobj, hdec⟩ := ht.stored p List.mem_cons_self
    have hnum := ht.head_revision (p := p) rfl
    obtain ⟨u, hu, hl⟩ := hat
    rw [read_of_pointer ht.pointer (ht.tokens p List.mem_cons_self).2 (by omega) hu hl hobj, hdec]
    rfl

theorem Tracks.pointer_head (ht : s.Tracks st₀ st h) {cur : RevisionId} {rs : List α}
    (hh : h.head? = some (cur, rs)) :
    st.pointers.get? s.format.kind.pointerKey = some cur.pointerItem := by
  rw [ht.pointer, hh]
  rfl

theorem Tracks.read_head (ht : s.Tracks st₀ st h) (hlen : h.length < Nat.pow 2 64)
    {cur : RevisionId} {rs : List α} (hh : h.head? = some (cur, rs)) :
    s.read st = .ok (cur, rs) := by
  rw [ht.read hlen, hh]
  rfl

/-! ## One call -/

/-- The calls from a state whose committed history is `h`, newest first, behave as a single
writer's should. -/
structure Sequential (s : SnapshotSeries α) (st₀ st : SnapshotState)
    (h : List (RevisionId × List α)) : Prop where
  read : s.read st = h.head?.elim (.error .notInitialised) .ok
  initialise : h = [] → ∀ rs obj, s.format.encode rs = .ok obj → ∃ token st',
    s.initialise st rs = (st', .ok ()) ∧ s.Tracks st₀ st' [(RevisionId.initial token, rs)] ∧
      s.read st' = .ok (RevisionId.initial token, rs) ∧
      s.AddsSnapshot [] st st' (RevisionId.initial token) obj
  initialiseUnwritable : h = [] → ∀ rs e, s.format.encode rs = .error e →
    s.initialise st rs = (st, .error e) ∧ ∃ m, e = .serialize m
  initialiseAgain : h ≠ [] → ∀ rs, s.initialise st rs = (st, .error .alreadyInitialised)
  updateUninitialised : h = [] → ∀ change, s.update st change = (st, .error .notInitialised)
  changeFails : ∀ cur rs, h.head? = some (cur, rs) → ∀ change e, change rs = .error e →
    s.update st change = (st, .error e)
  unchanged : ∀ cur rs, h.head? = some (cur, rs) → ∀ change, change rs = .ok none →
    s.update st change = (st, .ok ())
  unwritable : ∀ cur rs, h.head? = some (cur, rs) → ∀ change rs' e, change rs = .ok (some rs') →
    s.format.encode rs' = .error e → s.update st change = (st, .error e) ∧ ∃ m, e = .serialize m
  commit : ∀ cur rs, h.head? = some (cur, rs) → ∀ change rs' obj, change rs = .ok (some rs') →
    s.format.encode rs' = .ok obj → ∃ token st', s.update st change = (st', .ok ()) ∧
      s.Tracks st₀ st' ((⟨cur.revision + 1, token⟩, rs') :: h) ∧
      s.read st' = .ok (⟨cur.revision + 1, token⟩, rs') ∧
      s.AddsSnapshot h st st' ⟨cur.revision + 1, token⟩ obj

section Step

variable (hpaths : s.DistinctPaths) (hfmt : s.format.Faithful)
include hpaths hfmt

/-- The revision numbered past the history, with the next token of the stores, has a snapshot
location. Committing it there, with records that can be written, adds it to the history; it reads
back as the records, and its snapshot is the one new object. -/
theorem Tracks.commit_next (ht : s.Tracks st₀ st h) (hlen : h.length + 1 < Nat.pow 2 64)
    {r : RevisionId} (htoken : r.token = st.objects.freshToken.1) (hnum : r.revision = h.length + 1)
    {rs : List α} {obj : SnapshotObject} (henc : s.format.encode rs = .ok obj) :
    ∃ loc, s.SnapshotAt r loc ∧
      s.Tracks st₀ ⟨st.pointers.put s.format.kind.pointerKey r.pointerItem,
        st.objects.freshToken.2.put loc obj⟩ ((r, rs) :: h) ∧
      s.read ⟨st.pointers.put s.format.kind.pointerKey r.pointerItem,
        st.objects.freshToken.2.put loc obj⟩ = .ok (r, rs) ∧
      s.AddsSnapshot h st ⟨st.pointers.put s.format.kind.pointerKey r.pointerItem,
        st.objects.freshToken.2.put loc obj⟩ r obj := by
  obtain ⟨hplain, htok⟩ := freshToken_plain st.objects
  rw [← htoken] at hplain htok
  obtain ⟨loc, hat⟩ := hpaths.located r hplain
  have ht' := ht.commit hpaths hplain htok hnum hat (hfmt.roundTrip rs obj henc)
  exact ⟨loc, hat, ht', ht'.read_head (by rw [List.length_cons]; exact hlen) rfl,
    loc, hat, ht.fresh hpaths hplain hnum hat, fun l => by simp⟩

/-- From an empty history, an initialisation with records that can be written commits
revision 1. -/
theorem Tracks.initialise (ht : s.Tracks st₀ st []) {rs : List α} {obj : SnapshotObject}
    (henc : s.format.encode rs = .ok obj) : ∃ token st',
      s.initialise st rs = (st', .ok ()) ∧ s.Tracks st₀ st' [(RevisionId.initial token, rs)] ∧
        s.read st' = .ok (RevisionId.initial token, rs) ∧
        s.AddsSnapshot [] st st' (RevisionId.initial token) obj := by
  obtain ⟨loc, hat, ht', hread', hadds⟩ := ht.commit_next hpaths hfmt
    (by rw [List.length_nil]; decide) (r := RevisionId.initial st.objects.freshToken.1) rfl rfl henc
  exact ⟨_, _, initialise_at ht.pointer hat henc, ht', hread', hadds⟩

/-- From a history headed by `cur` with records `rs`, an update whose change gives records that
can be written commits the revision numbered one more. -/
theorem Tracks.update (hatt : s.maxAttempts ≠ 0) (ht : s.Tracks st₀ st h)
    (hlen : h.length + 1 < Nat.pow 2 64)
    {cur : RevisionId} {rs : List α} (hhead : h.head? = some (cur, rs))
    {change : List α → Except Error (Option (List α))} {rs' : List α} (hc : change rs = .ok (some rs'))
    {obj : SnapshotObject} (henc : s.format.encode rs' = .ok obj) : ∃ token st',
      s.update st change = (st', .ok ()) ∧ s.Tracks st₀ st' ((⟨cur.revision + 1, token⟩, rs') :: h) ∧
        s.read st' = .ok (⟨cur.revision + 1, token⟩, rs') ∧
        s.AddsSnapshot h st st' ⟨cur.revision + 1, token⟩ obj := by
  have hnum : cur.revision = h.length := ht.head_revision hhead
  obtain ⟨loc, hat, ht', hread', hadds⟩ := ht.commit_next hpaths hfmt hlen
    (r := nextRevision cur st.objects) rfl (by simp [nextRevision, RevisionId.next, hnum]) henc
  exact ⟨_, _, update_at hatt (by omega) (ht.read_head (by omega) hhead) hc hat
    (ht.pointer_head hhead) henc, ht', hread', hadds⟩

/-- Every call from a tracked state behaves as a single writer's should, while the next revision
number fits in 64 bits. -/
theorem Tracks.sequential (hatt : s.maxAttempts ≠ 0) (ht : s.Tracks st₀ st h)
    (hlen : h.length + 1 < Nat.pow 2 64) : s.Sequential st₀ st h := by
  have hread := ht.read (by omega)
  refine ⟨hread, ?_, ?_, ?_, ?_, ?_, ?_, ?_, ?_⟩
  · rintro rfl rs obj henc
    exact ht.initialise hpaths hfmt henc
  · rintro rfl rs e henc
    obtain ⟨loc, hat⟩ :=
      hpaths.located (RevisionId.initial st.objects.freshToken.1) (freshToken_plain st.objects).1
    exact ⟨initialise_unwritable ht.pointer hat henc, hfmt.serialize rs e henc⟩
  · intro hne rs
    obtain ⟨p, t, rfl⟩ := List.exists_cons_of_ne_nil hne
    have hnum := ht.head_revision (p := p) rfl
    rw [initialise_of_pointer ht.pointer (ht.tokens p List.mem_cons_self).2, if_pos (by omega)]
  · rintro rfl change
    exact update_read_error hatt hread change
  · intro cur rs hh change e hc
    exact update_change_error hatt (ht.read_head (by omega) hh) hc
  · intro cur rs hh change hc
    exact update_change_none hatt (ht.read_head (by omega) hh) hc
  · intro cur rs hh change rs' e hc henc
    have hnum : cur.revision = h.length := ht.head_revision hh
    obtain ⟨loc, hat⟩ := hpaths.located (nextRevision cur st.objects) (freshToken_plain st.objects).1
    exact ⟨update_unwritable hatt (by omega) (ht.read_head (by omega) hh) hc hat henc,
      hfmt.serialize rs' e henc⟩
  · intro cur rs hh change rs' obj hc henc
    exact ht.update hpaths hfmt hatt hlen hh hc henc

/-- A call keeps the history, or adds one revision to it: the first initialisation, or an update
that commits. -/
theorem Tracks.after (hatt : s.maxAttempts ≠ 0) (ht : s.Tracks st₀ st h)
    (hlen : h.length + 1 < Nat.pow 2 64) (c : SeriesCall α) : ∃ h', s.Tracks st₀ (s.after st c) h' ∧
      h'.length - 1 = h.length - 1 + (if s.committingUpdate st c then 1 else 0) ∧
      h'.length ≤ h.length + 1 := by
  have hseq := ht.sequential hpaths hfmt hatt hlen
  -- a call that fails, or keeps the state, keeps the history
  have hkeep : s.after st c = st → s.committingUpdate st c = false →
      ∃ h', s.Tracks st₀ (s.after st c) h' ∧
        h'.length - 1 = h.length - 1 + (if s.committingUpdate st c then 1 else 0) ∧
        h'.length ≤ h.length + 1 := by
    intro hst hno
    refine ⟨h, by rw [hst]; exact ht, by simp [hno], by omega⟩
  cases c with
  | initialise rs =>
    by_cases hnil : h = []
    · subst hnil
      cases henc : s.format.encode rs with
      | error e =>
        exact hkeep (by rw [after_initialise, (hseq.initialiseUnwritable rfl rs e henc).1]) rfl
      | ok obj =>
        obtain ⟨token, st', hinit, ht', -⟩ := hseq.initialise rfl rs obj henc
        exact ⟨_, by rw [after_initialise, hinit]; exact ht',
          by simp [committingUpdate], by simp⟩
    · exact hkeep (by rw [after_initialise, hseq.initialiseAgain hnil rs]) rfl
  | update change =>
    cases h with
    | nil =>
      exact hkeep (by rw [after_update, hseq.updateUninitialised rfl change])
        (by simp [committingUpdate, hseq.read])
    | cons p t =>
      obtain ⟨cur, rs⟩ := p
      have hcommit := committingUpdate_of_read (ht.read_head (by omega) rfl) change
      cases hc : change rs with
      | error e =>
        exact hkeep (by rw [after_update, hseq.changeFails cur rs rfl change e hc])
          (by rw [hcommit, hc]; rfl)
      | ok rs? =>
        cases rs? with
        | none =>
          exact hkeep (by rw [after_update, hseq.unchanged cur rs rfl change hc])
            (by rw [hcommit, hc]; rfl)
        | some rs' =>
          cases henc : s.format.encode rs' with
          | error e =>
            exact hkeep (by rw [after_update, (hseq.unwritable cur rs rfl change rs' e hc henc).1])
              (by rw [hcommit, hc]; exact congrArg Except.toBool henc)
          | ok obj =>
            obtain ⟨token, st', hupd, ht', -⟩ := hseq.commit cur rs rfl change rs' obj hc henc
            have hyes : s.committingUpdate st (.update change) = true := by
              rw [hcommit, hc]
              exact congrArg Except.toBool henc
            refine ⟨_, by rw [after_update, hupd]; exact ht', ?_, by simp⟩
            simp only [hyes, if_true, List.length_cons]
            omega

/-- Calls made one after another keep a history, which grows by one revision for the first
initialisation and for each update that commits. -/
theorem Tracks.run (hatt : s.maxAttempts ≠ 0) (ht : s.Tracks st₀ st h) (cs : List (SeriesCall α))
    (hlen : h.length + cs.length + 1 < Nat.pow 2 64) : ∃ h', s.Tracks st₀ (s.run st cs) h' ∧
      h'.length - 1 = h.length - 1 + s.committedUpdates st cs ∧ h'.length ≤ h.length + cs.length := by
  induction cs generalizing st h with
  | nil => exact ⟨h, ht, rfl, by simp⟩
  | cons c cs ih =>
    rw [List.length_cons] at hlen
    obtain ⟨h₁, ht₁, hcount₁, hle₁⟩ := ht.after hpaths hfmt hatt (by omega) c
    obtain ⟨h₂, ht₂, hcount₂, hle₂⟩ := ih ht₁ (by omega)
    refine ⟨h₂, ht₂, ?_, by rw [List.length_cons]; omega⟩
    simp only [committedUpdates]
    omega

end Step

end SnapshotSeries

/-- **A single writer's calls on a snapshot series follow its sequential semantics.** For a series
whose snapshots of different revisions lie apart, with a format whose records read back and
which refuses records only as unwritable, that makes at least one attempt at an update, started
where its pointer is absent: after any calls,
fewer than 2^64 - 1 of them, the state holds a history of committed revisions, from which every
next call behaves as follows. Reading gives the newest revision and its records, or fails with
`notInitialised` before the first. An initialisation commits revision 1, writing one new snapshot
that reads back as its records, or fails with a serialisation error where they cannot be written;
once initialised it fails with `alreadyInitialised`. An update before initialisation fails with
`notInitialised`; otherwise it fails with its change's error, keeps the state when the change
reports none, fails with a serialisation error when the changed records cannot be written, and
else writes one new snapshot and moves the pointer to the revision numbered one more, which
reads back as the changed records. Failing calls change nothing, and the current revision is
numbered one more than the updates that committed. -/
theorem single_writer_calls {α : Type} (s : SnapshotSeries α) (hpaths : s.DistinctPaths)
    (hfmt : s.format.Faithful) (hatt : s.maxAttempts ≠ 0) (st₀ : SnapshotState)
    (hnone : st₀.pointers.get? s.format.kind.pointerKey = none) (cs : List (SeriesCall α))
    (hcs : cs.length + 1 < Nat.pow 2 64) :
    ∃ h, s.Tracks st₀ (s.run st₀ cs) h ∧ s.Sequential st₀ (s.run st₀ cs) h ∧
      ∀ r rs, s.read (s.run st₀ cs) = .ok (r, rs) → r.revision = 1 + s.committedUpdates st₀ cs := by
  have hstart : ([] : List (RevisionId × List α)).length + cs.length + 1 < Nat.pow 2 64 := by
    rw [List.length_nil, Nat.zero_add]
    exact hcs
  obtain ⟨h, ht, hcount, hle⟩ := (SnapshotSeries.tracks_start hnone).run hpaths hfmt hatt cs hstart
  rw [List.length_nil, Nat.zero_add] at hle
  rw [List.length_nil] at hcount
  have hseq := ht.sequential hpaths hfmt hatt (by omega)
  refine ⟨h, ht, hseq, fun r rs hread => ?_⟩
  -- a read that succeeds read the newest revision, numbered as the history is long
  have hh : h.head? = some (r, rs) := by
    rw [hseq.read] at hread
    cases hh : h.head? with
    | none =>
      rw [hh] at hread
      cases hread
    | some p =>
      rw [hh] at hread
      exact congrArg some (Except.ok.inj hread)
  have hnum : r.revision = h.length := ht.head_revision hh
  have hpos : 0 < h.length := by
    cases h with
    | nil => cases hh
    | cons p t => simp
  omega

/-- A partition series under `mem:///t`, read with the standard libraries, initialised with the
root partition and updated by a change that gives the partitions back: its snapshots lie apart,
its format is faithful, and the calls follow the sequential semantics. -/
theorem memory_series_calls :
    let s : SnapshotSeries Partition :=
      ⟨partitionFormat, ⟨"mem", "", "", some "", none, .segments ["t"], none, none⟩, .standard, 5⟩
    let cs : List (SeriesCall Partition) :=
      [.initialise [Partition.root "root" (.single "key" .long)], .update fun ps => .ok (some ps)]
    s.DistinctPaths ∧ s.format.Faithful ∧
      ∃ h, s.Tracks ⟨.empty, .empty⟩ (s.run ⟨.empty, .empty⟩ cs) h ∧
        s.Sequential ⟨.empty, .empty⟩ (s.run ⟨.empty, .empty⟩ cs) h ∧
        ∀ r rs, s.read (s.run ⟨.empty, .empty⟩ cs) = .ok (r, rs) →
          r.revision = 1 + s.committedUpdates ⟨.empty, .empty⟩ cs := by
  have hb : UrlLibrary.standard.ofText "mem:///t" =
      .ok ⟨"mem", "", "", some "", none, .segments ["t"], none, none⟩ := by rfl
  -- the first revision's snapshot has a location, so every other has one
  have h₀ : ∃ loc, (⟨partitionFormat,
      ⟨"mem", "", "", some "", none, .segments ["t"], none, none⟩, .standard, 5⟩ :
        SnapshotSeries Partition).SnapshotAt ⟨1, "rev" ++ toString 0⟩ loc := by
    exact ⟨_, _, rfl, rfl⟩
  obtain ⟨loc₀, hat₀⟩ := h₀
  have hpaths := SnapshotSeries.distinctPaths_of_laws (s := ⟨partitionFormat,
      ⟨"mem", "", "", some "", none, .segments ["t"], none, none⟩, .standard, 5⟩)
    (UrlLibrary.standard_readsNamesAlike rfl _) (UrlLibrary.standard_appends_mem hb rfl rfl rfl rfl)
    UrlLibrary.standard_keepsPaths (plainToken_rev 0) hat₀
  exact ⟨hpaths, partitionFormat_faithful,
    single_writer_calls _ hpaths partitionFormat_faithful (by decide) ⟨.empty, .empty⟩ rfl
      [.initialise [Partition.root "root" (.single "key" .long)], .update fun ps => .ok (some ps)]
      (by decide)⟩


end TableState
