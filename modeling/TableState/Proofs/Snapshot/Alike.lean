import TableState.Proofs.Snapshot.Standing

/-!
# Snapshot states that read alike

A snapshot series finds its records through its pointer: the revision the pointer names, the
location of that revision's snapshot, and the object there. The revision's token shapes the
location, but nothing the series reads shows it. `SnapshotSeries.view` is what a series finds
with the token left out: the revision's number and the object under its snapshot. Two states
read alike through a series (`SnapshotSeries.Alike`) when their views agree and both pointers
name revisions with plain tokens; they then read the same records
(`SnapshotSeries.Alike.records`).

A token decides only the last name of a snapshot's location, and a series' libraries read such
names alike (`UrlLibrary.ReadsNamesAlike`), so the snapshots of two revisions with plain tokens
both have a location or both lack one (`snapshotLocation_alike`). An initialisation or an update therefore runs alike on two states
that read alike: both fail with one error, or both succeed and read alike again
(`SnapshotSeries.Alike.initialise`, `SnapshotSeries.Alike.update`); a failed call leaves its state
as it was (`SnapshotSeries.initialise_atomic`, `SnapshotSeries.update_atomic`). Either touches only the
series' own pointer and objects at the series' own locations (`SnapshotSeries.Touches`), and a
series whose pointer and locations lie elsewhere reads as it did (`SnapshotSeries.view_touched`).
-/

set_option autoImplicit false

namespace TableState

/-! ## Locations of snapshots -/

theorem snapshotUrl_cases (L : UrlLibrary) (base : Url) (k : RevisionKind) (r : RevisionId) :
    (∃ u, snapshotUrl L base k r = .ok u) ∨
      snapshotUrl L base k r = .error (.backend "snapshot path") := by
  unfold snapshotUrl
  split
  · exact .inl ⟨_, rfl⟩
  · exact .inr rfl

theorem objectLocation_cases (L : UrlLibrary) (u : Url) (op : String) :
    (∃ loc, objectLocation L u op = .ok loc) ∨ objectLocation L u op = .error (.backend op) := by
  unfold objectLocation
  split
  · exact .inl ⟨_, rfl⟩
  · exact .inr rfl

namespace SnapshotSeries

variable {α : Type} {s : SnapshotSeries α} {st st' st₁ st₂ : SnapshotState}

/-! ## What a series finds -/

/-- The object under the snapshot of a revision, or why there is none. -/
def fetch (s : SnapshotSeries α) (o : ObjectStores) (r : RevisionId) : Except Error SnapshotObject := do
  let u ← snapshotUrl s.urls s.base s.format.kind r
  let loc ← objectLocation s.urls u "read snapshot"
  match o.get? loc with
  | some obj => pure obj
  | none => throw (.backend "read snapshot")

/-- What a series finds through its pointer, with the revision's token left out: no revision, or
the revision's number and the object under its snapshot. -/
def view (s : SnapshotSeries α) (st : SnapshotState) :
    Except Error (Option (Nat × Except Error SnapshotObject)) :=
  (s.format.kind.current st.pointers).map (Option.map fun r => (r.revision, s.fetch st.objects r))

/-- A series reads its records off its view. -/
theorem records_eq_view (s : SnapshotSeries α) (st : SnapshotState) :
    s.records st = match s.view st with
      | .error e => .error e
      | .ok none => .error .notInitialised
      | .ok (some (_, obj)) => obj >>= s.format.decode := by
  unfold records read view fetch
  cases s.format.kind.current st.pointers with
  | error e => rfl
  | ok r? =>
    cases r? with
    | none => rfl
    | some r =>
      simp only [Except.map, Option.map_some, bind, Except.bind]
      rcases snapshotUrl s.urls s.base s.format.kind r with e | u
      · rfl
      · dsimp only
        rcases objectLocation s.urls u "read snapshot" with e | loc
        · rfl
        · dsimp only
          rcases st.objects.get? loc with _ | obj
          · rfl
          · simp only [pure, Except.pure]
            cases s.format.decode obj <;> rfl

/-- Two states read alike through a series: their views agree, and both pointers name revisions
with plain tokens. -/
structure Alike (s : SnapshotSeries α) (st₁ st₂ : SnapshotState) : Prop where
  view : s.view st₁ = s.view st₂
  plain₁ : s.PointsPlain st₁
  plain₂ : s.PointsPlain st₂

/-- States that read alike read the same records. -/
theorem Alike.records (h : s.Alike st₁ st₂) : s.records st₁ = s.records st₂ := by
  rw [records_eq_view, records_eq_view, h.view]

theorem Alike.symm (h : s.Alike st₁ st₂) : s.Alike st₂ st₁ :=
  ⟨h.view.symm, h.plain₂, h.plain₁⟩

theorem alike_refl (h : s.PointsPlain st) : s.Alike st st :=
  ⟨rfl, h, h⟩

/-! ## Writing alike -/

/-- The snapshot of revision `r` of a series lies at `loc`. -/
def SnapshotAt (s : SnapshotSeries α) (r : RevisionId) (loc : ObjectLocation) : Prop :=
  ∃ u, snapshotUrl s.urls s.base s.format.kind r = .ok u ∧ objectLocation s.urls u "read snapshot" = .ok loc

/-- A location where a series keeps the snapshot of a revision with a plain token. -/
def Location (s : SnapshotSeries α) (loc : ObjectLocation) : Prop :=
  ∃ r : RevisionId, PlainToken r.token ∧ s.SnapshotAt r loc

/-- The snapshots of records at two revisions with plain tokens fail alike, or hold one object
at each revision's location. -/
theorem snapshot_alike (hnames : s.urls.ReadsNamesAlike (snapshotPrefix s.base s.format.kind))
    {r₁ r₂ : RevisionId}
    (hr₁ : PlainToken r₁.token) (hr₂ : PlainToken r₂.token) (rs : List α) :
    Except.Rel (fun w₁ w₂ => ∃ obj loc₁ loc₂, s.SnapshotAt r₁ loc₁ ∧ s.SnapshotAt r₂ loc₂ ∧
        w₁ = (loc₁, obj) ∧ w₂ = (loc₂, obj))
      (s.snapshot r₁ rs) (s.snapshot r₂ rs) := by
  obtain ⟨hurl, hloc⟩ := snapshotLocation_alike hnames hr₁ hr₂
  unfold snapshot
  rcases snapshotUrl_cases s.urls s.base s.format.kind r₁ with ⟨u₁, hu₁⟩ | hu₁
  · obtain ⟨u₂, hu₂⟩ := hurl.1 ⟨u₁, hu₁⟩
    rw [hu₁, hu₂]
    cases henc : s.format.encode rs with
    | error e => exact .error e
    | ok obj =>
      rcases objectLocation_cases s.urls u₁ "write snapshot" with ⟨loc₁, hl₁⟩ | hl₁
      · obtain ⟨loc₂, hl₂⟩ := (hloc u₁ u₂ hu₁ hu₂ _).1 ⟨loc₁, hl₁⟩
        simp only [bind, Except.bind, hl₁, hl₂, pure, Except.pure]
        exact .ok ⟨obj, loc₁, loc₂, ⟨u₁, hu₁, objectLocation_op hl₁ _⟩,
          ⟨u₂, hu₂, objectLocation_op hl₂ _⟩, rfl, rfl⟩
      · -- neither snapshot has a location
        have hl₂ : objectLocation s.urls u₂ "write snapshot" = .error (.backend "write snapshot") := by
          rcases objectLocation_cases s.urls u₂ "write snapshot" with ⟨loc₂, hl₂⟩ | hl₂
          · obtain ⟨loc₁, hl₁'⟩ := (hloc u₁ u₂ hu₁ hu₂ _).2 ⟨loc₂, hl₂⟩
            rw [hl₁'] at hl₁
            cases hl₁
          · exact hl₂
        simp only [bind, Except.bind, hl₁, hl₂]
        exact .error _
  · -- neither snapshot has a URL
    have hu₂ : snapshotUrl s.urls s.base s.format.kind r₂ = .error (.backend "snapshot path") := by
      rcases snapshotUrl_cases s.urls s.base s.format.kind r₂ with ⟨u₂, hu₂⟩ | hu₂
      · obtain ⟨u₁, hu₁'⟩ := hurl.2 ⟨u₂, hu₂⟩
        rw [hu₁'] at hu₁
        cases hu₁
      · exact hu₂
    rw [hu₁, hu₂]
    exact .error _

/-- Without a pointer, an initialisation writes the first revision with the next token and
creates the pointer. -/
theorem initialise_of_none (hnone : st.pointers.get? s.format.kind.pointerKey = none)
    (rs : List α) :
    Except.committed (s.initialise st rs) =
      (s.snapshot (RevisionId.initial st.objects.freshToken.1) rs).map fun w =>
        ⟨st.pointers.put s.format.kind.pointerKey
          (RevisionId.initial st.objects.freshToken.1).pointerItem,
          st.objects.freshToken.2.put w.1 w.2⟩ := by
  have hcur : s.format.kind.current st.pointers = .ok none := by
    simp [RevisionKind.current, hnone]
  simp only [initialise, hcur]
  cases s.snapshot (RevisionId.initial st.objects.freshToken.1) rs with
  | error e => rfl
  | ok w =>
    simp only [RevisionKind.create_of_none hnone]
    rfl

/-- An update whose change gives new records writes them as the next revision and moves the
pointer there, below the largest revision number. -/
theorem update_of_some (hatt : s.maxAttempts ≠ 0) {cur : RevisionId} {rs rs' : List α}
    (hptr : st.pointers.get? s.format.kind.pointerKey = some cur.pointerItem)
    (hroom : cur.revision + 1 < Nat.pow 2 64)
    (hread : s.read st = .ok (cur, rs)) {change : List α → Except Error (Option (List α))}
    (h : change rs = .ok (some rs')) :
    Except.committed (s.update st change) =
      (s.snapshot (nextRevision cur st.objects) rs').map fun w =>
        ⟨st.pointers.put s.format.kind.pointerKey (nextRevision cur st.objects).pointerItem,
          st.objects.freshToken.2.put w.1 w.2⟩ := by
  simp only [update, if_neg hatt, hread, h, RevisionId.next?_of_lt hroom]
  cases s.snapshot (nextRevision cur st.objects) rs' with
  | error e => rfl
  | ok w =>
    simp only [RevisionKind.moveFrom_pointerItem hptr]
    rfl

/-- Past the largest revision number, an update whose change gives new records fails. -/
theorem update_of_overflow (hatt : s.maxAttempts ≠ 0) {cur : RevisionId} {rs rs' : List α}
    (hroom : ¬cur.revision + 1 < Nat.pow 2 64) (hread : s.read st = .ok (cur, rs))
    {change : List α → Except Error (Option (List α))} (h : change rs = .ok (some rs')) :
    s.update st change = (st, .error .revisionOverflow) := by
  simp only [update, if_neg hatt, hread, h, RevisionId.next?_of_not_lt hroom]

theorem update_read_error (hatt : s.maxAttempts ≠ 0) {e : Error} (h : s.read st = .error e)
    (change : List α → Except Error (Option (List α))) : s.update st change = (st, .error e) := by
  simp only [update, if_neg hatt, h]

/-! ## Reading alike after a write -/

theorem fetch_put {r : RevisionId} {loc : ObjectLocation} (hat : s.SnapshotAt r loc)
    (o : ObjectStores) (obj : SnapshotObject) : s.fetch (o.put loc obj) r = .ok obj := by
  obtain ⟨u, hu, hloc⟩ := hat
  simp [fetch, hu, hloc, bind, Except.bind, pure, Except.pure]

/-- A pointer put at a revision whose snapshot holds an object views that object. -/
theorem view_put {r : RevisionId} (htok : r.token ≠ "") {loc : ObjectLocation}
    (hat : s.SnapshotAt r loc) (p : ItemTable) (o : ObjectStores) (obj : SnapshotObject) :
    s.view ⟨p.put s.format.kind.pointerKey r.pointerItem, o.put loc obj⟩ =
      if r.revision < Nat.pow 2 64 then .ok (some (r.revision, .ok obj))
      else .error (.deserialize "revision id") := by
  have hptr : (p.put s.format.kind.pointerKey r.pointerItem).get? s.format.kind.pointerKey =
      some r.pointerItem := by simp
  unfold view
  rw [RevisionKind.current_pointerItem hptr htok]
  split
  · simp [fetch_put hat]
  · rfl

theorem pointsPlain_put {r : RevisionId} (hr : PlainToken r.token) (htok : r.token ≠ "")
    (p : ItemTable) (o : ObjectStores) :
    s.PointsPlain ⟨p.put s.format.kind.pointerKey r.pointerItem, o⟩ := by
  intro i hi
  simp only [ItemTable.get?_put, if_pos] at hi
  exact ⟨r, (Option.some.inj hi).symm, hr, htok⟩

/-- States whose pointers name revisions of one number with plain tokens, and whose snapshots
hold one object, read alike. -/
theorem alike_put {r₁ r₂ : RevisionId} (hrev : r₁.revision = r₂.revision)
    (hr₁ : PlainToken r₁.token) (ht₁ : r₁.token ≠ "") (hr₂ : PlainToken r₂.token)
    (ht₂ : r₂.token ≠ "") {loc₁ loc₂ : ObjectLocation} (h₁ : s.SnapshotAt r₁ loc₁)
    (h₂ : s.SnapshotAt r₂ loc₂) (p₁ p₂ : ItemTable) (o₁ o₂ : ObjectStores) (obj : SnapshotObject) :
    s.Alike ⟨p₁.put s.format.kind.pointerKey r₁.pointerItem, o₁.put loc₁ obj⟩
      ⟨p₂.put s.format.kind.pointerKey r₂.pointerItem, o₂.put loc₂ obj⟩ := by
  refine ⟨?_, pointsPlain_put hr₁ ht₁ p₁ _, pointsPlain_put hr₂ ht₂ p₂ _⟩
  rw [view_put ht₁ h₁, view_put ht₂ h₂, hrev]

/-! ## Reading what a pointer names -/

theorem view_of_none (hi : st.pointers.get? s.format.kind.pointerKey = none) :
    s.view st = .ok none := by
  have hcur : s.format.kind.current st.pointers = .ok none := by
    simp [RevisionKind.current, hi]
  simp only [view, hcur, Except.map, Option.map_none]

theorem view_of_pointer {r : RevisionId}
    (hi : st.pointers.get? s.format.kind.pointerKey = some r.pointerItem) (htok : r.token ≠ "") :
    s.view st = if r.revision < Nat.pow 2 64 then .ok (some (r.revision, s.fetch st.objects r))
      else .error (.deserialize "revision id") := by
  unfold view
  rw [RevisionKind.current_pointerItem hi htok]
  by_cases hlt : r.revision < Nat.pow 2 64
  · simp only [if_pos hlt, Except.map, Option.map_some]
  · simp only [if_neg hlt, Except.map]

/-- Where a pointer is, an initialisation is refused. -/
theorem initialise_of_pointer {r : RevisionId}
    (hi : st.pointers.get? s.format.kind.pointerKey = some r.pointerItem) (htok : r.token ≠ "")
    (rs : List α) :
    s.initialise st rs = if r.revision < Nat.pow 2 64 then (st, .error .alreadyInitialised)
      else (st, .error (.deserialize "revision id")) := by
  unfold initialise
  rw [RevisionKind.current_pointerItem hi htok]
  by_cases hlt : r.revision < Nat.pow 2 64
  · simp only [if_pos hlt]
  · simp only [if_neg hlt]

theorem view_of_read {cur : RevisionId} {rs : List α} (h : s.read st = .ok (cur, rs)) :
    ∃ obj, s.view st = .ok (some (cur.revision, .ok obj)) := by
  obtain ⟨hcur, u, loc, obj, hu, hloc, hobj, -⟩ := read_current h
  refine ⟨obj, ?_⟩
  simp only [view, hcur, Except.map, Option.map_some, fetch, hu, hloc, hobj, bind, Except.bind,
    pure, Except.pure]

/-- A read that succeeds on one of two states that read alike succeeds on the other with the same
records, at a revision of the same number. -/
theorem Alike.read (h : s.Alike st₁ st₂) {cur₁ : RevisionId} {rs : List α}
    (h₁ : s.read st₁ = .ok (cur₁, rs)) :
    ∃ cur₂, s.read st₂ = .ok (cur₂, rs) ∧ cur₂.revision = cur₁.revision := by
  have hrec : s.records st₂ = .ok rs := by
    rw [← h.records]
    simp [SnapshotSeries.records, h₁]
  obtain ⟨⟨cur₂, rs'⟩, h₂, hrs⟩ := Except.map_eq_ok.1 hrec
  cases hrs
  refine ⟨cur₂, h₂, ?_⟩
  obtain ⟨obj₁, hv₁⟩ := view_of_read h₁
  obtain ⟨obj₂, hv₂⟩ := view_of_read h₂
  rw [h.view, hv₂] at hv₁
  exact (Prod.mk.inj (Option.some.inj (Except.ok.inj hv₁))).1

theorem Alike.read_error (h : s.Alike st₁ st₂) {e : Error} (h₁ : s.read st₁ = .error e) :
    s.read st₂ = .error e := by
  have hrec : s.records st₂ = .error e := by
    rw [← h.records]
    simp [SnapshotSeries.records, h₁, Except.map]
  cases h₂ : s.read st₂ with
  | error e' =>
    simp only [SnapshotSeries.records, h₂, Except.map, Except.error.injEq] at hrec
    rw [hrec]
  | ok x => simp [SnapshotSeries.records, h₂, Except.map] at hrec

/-! ## What a change touches -/

/-- A state differs from another only in the pointer of a series and in objects at the series'
locations. -/
def Touches (s : SnapshotSeries α) (st st' : SnapshotState) : Prop :=
  (∀ key, key ≠ s.format.kind.pointerKey → st'.pointers.get? key = st.pointers.get? key) ∧
    ∀ loc, ¬s.Location loc → st'.objects.get? loc = st.objects.get? loc

theorem touches_refl (s : SnapshotSeries α) (st : SnapshotState) : s.Touches st st :=
  ⟨fun _ _ => rfl, fun _ _ => rfl⟩

/-- Writing the snapshot of a revision with a plain token and moving the pointer touches only the
series. -/
theorem touches_put {r : RevisionId} (hr : PlainToken r.token) {loc : ObjectLocation}
    (hat : s.SnapshotAt r loc) (st : SnapshotState) (i : Item) (obj : SnapshotObject) :
    s.Touches st ⟨st.pointers.put s.format.kind.pointerKey i, st.objects.freshToken.2.put loc obj⟩ := by
  refine ⟨fun key hkey => ?_, fun loc' hloc' => ?_⟩
  · simp [ItemTable.get?_put, hkey]
  · have hne : loc' ≠ loc := fun he => hloc' (he ▸ ⟨r, hr, hat⟩)
    simp [hne]

/-- A series views two states alike when its pointer and the objects at its locations agree. -/
theorem view_congr
    (hptr : st'.pointers.get? s.format.kind.pointerKey = st.pointers.get? s.format.kind.pointerKey)
    (hobj : ∀ loc, s.Location loc → st'.objects.get? loc = st.objects.get? loc)
    (hplain : s.PointsPlain st) : s.view st' = s.view st := by
  -- the revision named is the same, and its snapshot lies at a location of `s`
  have hfetch : ∀ r : RevisionId, PlainToken r.token →
      s.fetch st'.objects r = s.fetch st.objects r := by
    intro r hr
    unfold fetch
    rcases snapshotUrl_cases s.urls s.base s.format.kind r with ⟨u, hu⟩ | hu
    · rw [hu]
      rcases objectLocation_cases s.urls u "read snapshot" with ⟨loc, hloc⟩ | hloc
      · simp only [bind, Except.bind, hloc]
        rw [hobj loc ⟨r, hr, u, hu, hloc⟩]
      · simp only [bind, Except.bind, hloc]
    · rw [hu]
      rfl
  unfold view
  cases hi : st.pointers.get? s.format.kind.pointerKey with
  | none =>
    have h₁ : s.format.kind.current st.pointers = .ok none := by
      simp [RevisionKind.current, hi]
    have h₂ : s.format.kind.current st'.pointers = .ok none := by
      simp [RevisionKind.current, hptr, hi]
    simp only [h₁, h₂, Except.map, Option.map_none]
  | some i =>
    obtain ⟨r, rfl, hr, htok⟩ := hplain i hi
    rw [RevisionKind.current_pointerItem (hptr.trans hi) htok,
      RevisionKind.current_pointerItem hi htok]
    by_cases hlt : r.revision < Nat.pow 2 64
    · simp only [if_pos hlt, Except.map, Option.map_some, hfetch r hr]
    · simp only [if_neg hlt, Except.map]

/-- A series whose pointer and locations a change leaves alone views the same. -/
theorem view_touched {β : Type} {s' : SnapshotSeries β} (h : s'.Touches st st')
    (hkey : s.format.kind.pointerKey ≠ s'.format.kind.pointerKey)
    (hapart : ∀ loc, s.Location loc → ¬s'.Location loc) (hplain : s.PointsPlain st) :
    s.view st' = s.view st :=
  view_congr (h.1 _ hkey) (fun loc hloc => h.2 loc (hapart loc hloc)) hplain

/-- A change that touches another series, away from this series' pointer and locations, keeps two
states reading alike. -/
theorem Alike.touched {β : Type} {s' : SnapshotSeries β} {st₁' st₂' : SnapshotState}
    (h : s.Alike st₁ st₂) (h₁ : s'.Touches st₁ st₁') (h₂ : s'.Touches st₂ st₂')
    (hkey : s.format.kind.pointerKey ≠ s'.format.kind.pointerKey)
    (hapart : ∀ loc, s.Location loc → ¬s'.Location loc) : s.Alike st₁' st₂' := by
  refine ⟨?_, fun i hi => h.plain₁ i ((h₁.1 _ hkey).symm.trans hi),
    fun i hi => h.plain₂ i ((h₂.1 _ hkey).symm.trans hi)⟩
  rw [view_touched h₁ hkey hapart h.plain₁, view_touched h₂ hkey hapart h.plain₂, h.view]

/-! ## Initialising and updating alike -/

/-- An initialisation runs alike on two states that read alike: both fail with one error, or both
succeed, touch only the series, and read alike again. -/
theorem Alike.initialise (hs : s.Standing) (h : s.Alike st₁ st₂) (rs : List α) :
    Except.Rel (fun st₁' st₂' => s.Alike st₁' st₂' ∧ s.Touches st₁ st₁' ∧ s.Touches st₂ st₂')
      (Except.committed (s.initialise st₁ rs)) (Except.committed (s.initialise st₂ rs)) := by
  cases hi₁ : st₁.pointers.get? s.format.kind.pointerKey with
  | none =>
    -- no pointer on either side: both write the first revision, with tokens of their own
    have hi₂ : st₂.pointers.get? s.format.kind.pointerKey = none := by
      have hv := h.view
      rw [view_of_none hi₁] at hv
      cases hi₂ : st₂.pointers.get? s.format.kind.pointerKey with
      | none => rfl
      | some i =>
        obtain ⟨r, rfl, -, htok⟩ := h.plain₂ i hi₂
        rw [view_of_pointer hi₂ htok] at hv
        split at hv <;> cases hv
    rw [initialise_of_none hi₁, initialise_of_none hi₂]
    obtain ⟨hr₁, ht₁⟩ := freshToken_plain st₁.objects
    obtain ⟨hr₂, ht₂⟩ := freshToken_plain st₂.objects
    generalize st₁.objects.freshToken.1 = k₁ at hr₁ ht₁ ⊢
    generalize st₂.objects.freshToken.1 = k₂ at hr₂ ht₂ ⊢
    -- the tokens stated as those of the first revisions, which the unifier would unfold
    have hp₁ : PlainToken (RevisionId.initial k₁).token := hr₁
    have hp₂ : PlainToken (RevisionId.initial k₂).token := hr₂
    have he₁ : (RevisionId.initial k₁).token ≠ "" := ht₁
    have he₂ : (RevisionId.initial k₂).token ≠ "" := ht₂
    have hrev : (RevisionId.initial k₁).revision = (RevisionId.initial k₂).revision := rfl
    refine Except.Rel.map₂ (fun w₁ w₂ ⟨obj, loc₁, loc₂, hat₁, hat₂, hw₁, hw₂⟩ => ?_)
      (snapshot_alike hs.names hp₁ hp₂ rs)
    subst hw₁ hw₂
    exact ⟨alike_put hrev hp₁ he₁ hp₂ he₂ hat₁ hat₂ st₁.pointers st₂.pointers _ _ obj,
      touches_put hp₁ hat₁ st₁ _ obj, touches_put hp₂ hat₂ st₂ _ obj⟩
  | some i =>
    -- a pointer on both sides, of one number: both refuse alike
    obtain ⟨r₁, rfl, -, ht₁⟩ := h.plain₁ i hi₁
    have hv := h.view
    rw [view_of_pointer hi₁ ht₁] at hv
    cases hi₂ : st₂.pointers.get? s.format.kind.pointerKey with
    | none =>
      rw [view_of_none hi₂] at hv
      split at hv <;> cases hv
    | some i₂ =>
      obtain ⟨r₂, rfl, -, ht₂⟩ := h.plain₂ i₂ hi₂
      rw [view_of_pointer hi₂ ht₂] at hv
      rw [initialise_of_pointer hi₁ ht₁, initialise_of_pointer hi₂ ht₂]
      by_cases hlt₁ : r₁.revision < Nat.pow 2 64
      · have hlt₂ : r₂.revision < Nat.pow 2 64 := by
          by_cases hlt₂ : r₂.revision < Nat.pow 2 64
          · exact hlt₂
          · rw [if_pos hlt₁, if_neg hlt₂] at hv
            cases hv
        rw [if_pos hlt₁, if_pos hlt₂]
        exact .error _
      · have hlt₂ : ¬r₂.revision < Nat.pow 2 64 := by
          intro hlt₂
          rw [if_neg hlt₁, if_pos hlt₂] at hv
          cases hv
        rw [if_neg hlt₁, if_neg hlt₂]
        exact .error _

/-- An update runs alike on two states that read alike: both fail with one error, or both
succeed, touch only the series, and read alike again. -/
theorem Alike.update (hs : s.Standing) (h : s.Alike st₁ st₂)
    (change : List α → Except Error (Option (List α))) :
    Except.Rel (fun st₁' st₂' => s.Alike st₁' st₂' ∧ s.Touches st₁ st₁' ∧ s.Touches st₂ st₂')
      (Except.committed (s.update st₁ change)) (Except.committed (s.update st₂ change)) := by
  cases h₁ : s.read st₁ with
  | error e =>
    rw [update_read_error hs.attempts h₁, update_read_error hs.attempts (h.read_error h₁)]
    exact .error e
  | ok x =>
    obtain ⟨cur₁, rs⟩ := x
    obtain ⟨cur₂, h₂, hrev⟩ := h.read h₁
    cases hc : change rs with
    | error e =>
      rw [update_change_error hs.attempts h₁ hc, update_change_error hs.attempts h₂ hc]
      exact .error e
    | ok r =>
      cases r with
      | none =>
        rw [update_change_none hs.attempts h₁ hc, update_change_none hs.attempts h₂ hc]
        exact .ok ⟨h, touches_refl s _, touches_refl s _⟩
      | some rs' =>
        -- revisions of one number both have a next one, or neither has
        by_cases hroom₁ : cur₁.revision + 1 < Nat.pow 2 64
        swap
        · have hroom₂ : ¬cur₂.revision + 1 < Nat.pow 2 64 := by rwa [hrev]
          rw [update_of_overflow hs.attempts hroom₁ h₁ hc,
            update_of_overflow hs.attempts hroom₂ h₂ hc]
          exact .error _
        have hroom₂ : cur₂.revision + 1 < Nat.pow 2 64 := by rwa [hrev]
        -- both write the changed records as the next revision, with tokens of their own
        obtain ⟨hptr₁, -, -⟩ := pointer_of_read h.plain₁ h₁
        obtain ⟨hptr₂, -, -⟩ := pointer_of_read h.plain₂ h₂
        rw [update_of_some hs.attempts hptr₁ hroom₁ h₁ hc,
          update_of_some hs.attempts hptr₂ hroom₂ h₂ hc]
        obtain ⟨hn₁, hz₁⟩ := freshToken_plain st₁.objects
        obtain ⟨hn₂, hz₂⟩ := freshToken_plain st₂.objects
        -- the tokens stated as those of the next revisions, which the unifier would unfold
        have hp₁ : PlainToken (nextRevision cur₁ st₁.objects).token := hn₁
        have hp₂ : PlainToken (nextRevision cur₂ st₂.objects).token := hn₂
        have he₁ : (nextRevision cur₁ st₁.objects).token ≠ "" := hz₁
        have he₂ : (nextRevision cur₂ st₂.objects).token ≠ "" := hz₂
        refine Except.Rel.map₂ (fun w₁ w₂ ⟨obj, loc₁, loc₂, hat₁, hat₂, hw₁, hw₂⟩ => ?_)
          (snapshot_alike hs.names hp₁ hp₂ rs')
        subst hw₁ hw₂
        have hnext : (nextRevision cur₁ st₁.objects).revision =
            (nextRevision cur₂ st₂.objects).revision := by
          simp [nextRevision, RevisionId.next, hrev]
        exact ⟨alike_put hnext hp₁ he₁ hp₂ he₂ hat₁ hat₂ st₁.pointers st₂.pointers
            st₁.objects.freshToken.2 st₂.objects.freshToken.2 obj,
          touches_put hp₁ hat₁ st₁ _ obj, touches_put hp₂ hat₂ st₂ _ obj⟩

/-- Objects changed away from the series' locations keep two states reading alike. -/
theorem Alike.objects_left (h : s.Alike st₁ st₂) {o : ObjectStores}
    (ho : ∀ loc, s.Location loc → o.get? loc = st₁.objects.get? loc) :
    s.Alike ⟨st₁.pointers, o⟩ st₂ := by
  have hptr : (SnapshotState.mk st₁.pointers o).pointers.get? s.format.kind.pointerKey =
      st₁.pointers.get? s.format.kind.pointerKey := rfl
  have hview : s.view ⟨st₁.pointers, o⟩ = s.view st₁ := view_congr hptr ho h.plain₁
  exact ⟨hview.trans h.view, h.plain₁, h.plain₂⟩

/-! ## What one change touches -/

/-- An initialisation from a plain pointer touches only its series. -/
theorem initialise_touches (hs : s.Standing) (hp : s.PointsPlain st) {rs : List α}
    (h : s.initialise st rs = (st', .ok ())) : s.Touches st st' := by
  have hrel := (alike_refl hp).initialise hs rs
  rw [h, Except.committed_ok] at hrel
  cases hrel with
  | ok hr => exact hr.2.1

/-- An update from a plain pointer touches only its series. -/
theorem update_touches (hs : s.Standing) (hp : s.PointsPlain st)
    {change : List α → Except Error (Option (List α))} (h : s.update st change = (st', .ok ())) :
    s.Touches st st' := by
  have hrel := (alike_refl hp).update hs change
  rw [h, Except.committed_ok] at hrel
  cases hrel with
  | ok hr => exact hr.2.1

end SnapshotSeries

end TableState
