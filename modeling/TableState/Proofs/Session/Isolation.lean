import TableState.Proofs.Session.StoresAlike
import TableState.Proofs.Session.StoreCache
import TableState.Proofs.Snapshot.SingleWriter

/-!
# Tables that do not see each other

The tables of a session share the clock and the object stores, and nothing else: each keeps its
own item tables, and a snapshot table its own revision pointers. A step on one table therefore
changes only its own store and the objects at its own snapshot locations.

Steps on named tables, run one after another (`Session.tableAnswers`), answer a table exactly as
the table's own steps would, run alone from the same session, when the table keeps its partition
and file snapshots apart and every other table keeps its snapshots away from them
(`Session.Reachable.answers_alone`). Revision tokens, which all tables draw from one counter,
differ between the two runs; the answers do not. The proof is a simulation: the two runs keep
sessions that agree on the table (`Session.AgreeOn`), a step on another table keeps the
agreement (`Session.AgreeOn.step_other`), and a step on the table answers alike in both and keeps
it too (`Session.AgreeOn.step_own`).

The stores of a provider are the trees of one database (`Provider.database`), each named for its
table and role (`Provider.treeName`). Tree names never meet (`Provider.treeName_inj`), so every
store's trees are the database's trees of their names (`Provider.lookup_database_of_mem`), and a
step on one table leaves every tree of another as it was (`Session.Reachable.database_step_other`).
`Session.tables_cached_apart` gathers this with the provider's cache (`Provider.requestAll`).
-/

set_option autoImplicit false

namespace TableState

namespace Provider

variable {p : Provider} {t u : TableStore} {n : String}

/-- Replacing the store of another name leaves the store of a name as it was. -/
theorem find?_replace_ne (h : t.name ≠ n) (p : Provider) : (p.replace t).find? n = p.find? n := by
  unfold find? replace
  rw [List.find?_map]
  -- a store is found through the replacement exactly when it is found without it
  have hpred : ((·.name == n) ∘ fun u : TableStore => if u.name == t.name then t else u) =
      (·.name == n) := by
    funext u
    by_cases hu : u.name = t.name <;> simp [hu]
  rw [hpred]
  cases hf : p.tables.find? (·.name == n) with
  | none => rfl
  | some u =>
    have hu : u.name = n := by simpa using List.find?_some hf
    have hne : u.name ≠ t.name := fun he => h (he ▸ hu)
    simp [hne]

/-- Replacing the store of a name by one of the same name makes it the store found. -/
theorem find?_replace_self (hf : p.find? n = some u) (ht : t.name = n) :
    (p.replace t).find? n = some t := by
  subst ht
  have hu : u.name = t.name := find?_name hf
  unfold find? at hf ⊢
  unfold replace
  rw [List.find?_map]
  have hpred : ((·.name == t.name) ∘ fun u : TableStore => if u.name == t.name then t else u) =
      (·.name == t.name) := by
    funext v
    by_cases hv : v.name = t.name <;> simp [hv]
  rw [hpred, hf]
  simp [hu]

end Provider

namespace Session

variable {s s₁ s₂ : Session} {t t₁ t₂ : TableStore} {n m : String}

/-! ## One step on a table -/

/-- A step on a named table goes to the store kept under that name. -/
theorem step_onTable (s : Session) (m : String) (ts : TableStep) :
    s.step (.onTable (some m) ts) = match s.provider.find? m with
      | some t => s.tableStep t ts
      | none => (.error .noSuchTable, s) := rfl

/-- A change answers with its outcome and keeps the changed store and objects. -/
theorem applyChange_eq (s : Session) (t : TableStore) (c : TableChange) :
    s.applyChange t c = (read.lift (fun _ => .done) (t.change s.objects s.now c).2,
      { s with
        provider := s.provider.replace (t.change s.objects s.now c).1.1
        objects := (t.change s.objects s.now c).1.2 }) := by
  rcases hc : t.change s.objects s.now c with ⟨⟨t', o⟩, r⟩
  cases r <;> simp only [applyChange, hc, read.lift]

/-- A step on a table answers and leaves the session alone, or applies a change. -/
theorem tableStep_cases (s : Session) (t : TableStore) (ts : TableStep) :
    (∃ a, s.tableStep t ts = (a, s)) ∨ ∃ c, s.tableStep t ts = s.applyChange t c := by
  cases ts with
  | change c => exact .inr ⟨c, rfl⟩
  | initialiseSplitPoints points idPrefix =>
    simp only [tableStep]
    split
    · exact .inr ⟨_, rfl⟩
    · exact .inl ⟨_, rfl⟩
  | splitLeaf parent dimension point left right =>
    simp only [tableStep]
    split
    · exact .inr ⟨_, rfl⟩
    · exact .inl ⟨_, rfl⟩
  | read r => exact .inl ⟨_, rfl⟩

section Alike

variable (h : TableStore.Alike (t₁, s₁.objects) (t₂, s₂.objects))
include h

/-- Stores that read alike, at one time, answer every read alike. -/
theorem read_alike (hnow : s₁.now = s₂.now) (r : TableRead) : s₁.read t₁ r = s₂.read t₂ r := by
  have hp : t₁.allPartitions s₁.objects = t₂.allPartitions s₂.objects := h.allPartitions
  have hf : t₁.fileInPartitionRecords s₁.objects = t₂.fileInPartitionRecords s₂.objects :=
    h.fileInPartitionRecords
  have hl : t₁.lifecycleRecords s₁.objects = t₂.lifecycleRecords s₂.objects := h.lifecycleRecords
  have hg : t₁.gcDelayMillis = t₂.gcDelayMillis := h.gcDelayMillis
  have hn : t₁.name = t₂.name := h.name
  have hs : t₁.schema = t₂.schema := h.schema
  cases r <;> simp only [read, TableStore.leafPartitions, TableStore.unassignedRecords,
    TableStore.activeRecords, TableStore.readyForGc, TableStore.partitionMap, hp, hf, hl, hg, hn,
    hs, hnow]

theorem splitParent_alike (parent : SplitParent) :
    s₁.splitParent t₁ parent = s₂.splitParent t₂ parent := by
  have hp : t₁.allPartitions s₁.objects = t₂.allPartitions s₂.objects := h.allPartitions
  cases parent with
  | given p => rfl
  | stored id => simp only [splitParent, hp]

/-- A step on stores that read alike, at one time, answers alike and leaves both sessions
alone, or applies one change to both. -/
theorem tableStep_alike (hnow : s₁.now = s₂.now) (ts : TableStep) :
    (∃ a, s₁.tableStep t₁ ts = (a, s₁) ∧ s₂.tableStep t₂ ts = (a, s₂)) ∨
      ∃ c, s₁.tableStep t₁ ts = s₁.applyChange t₁ c ∧ s₂.tableStep t₂ ts = s₂.applyChange t₂ c := by
  cases ts with
  | change c => exact .inr ⟨c, rfl, rfl⟩
  | initialiseSplitPoints points idPrefix =>
    have hs : t₁.schema = t₂.schema := h.schema
    simp only [tableStep, hs]
    split
    · exact .inr ⟨_, rfl, rfl⟩
    · exact .inl ⟨_, rfl, rfl⟩
  | splitLeaf parent dimension point left right =>
    simp only [tableStep, splitParent_alike h parent]
    split
    · exact .inr ⟨_, rfl, rfl⟩
    · exact .inl ⟨_, rfl, rfl⟩
  | read r => exact .inl ⟨s₁.read t₁ r, rfl, by simp only [tableStep, read_alike h hnow r]⟩

end Alike

/-! ## Sessions that agree on a table -/

/-- Two sessions agree on the table named `n`: their clocks agree, each keeps a store under the
name, the two stores read alike with the sessions' objects, and every other store of the first
session keeps its snapshots away from the table's. -/
structure AgreeOn (n : String) (s₁ s₂ : Session) : Prop where
  now : s₁.now = s₂.now
  stores : ∃ t₁ t₂, s₁.provider.find? n = some t₁ ∧ s₂.provider.find? n = some t₂ ∧
    TableStore.Alike (t₁, s₁.objects) (t₂, s₂.objects) ∧
    ∀ u ∈ s₁.provider.tables, u.name ≠ n → ∀ loc, t₁.Location loc → ¬u.Location loc

/-- A step on another table keeps the agreement: it changes the other table's store and the
objects at the other table's locations only. -/
theorem AgreeOn.step_other (h : AgreeOn n s₁ s₂) (hs₁ : s₁.Reachable) (hm : m ≠ n)
    (ts : TableStep) : AgreeOn n (s₁.step (.onTable (some m) ts)).2 s₂ := by
  obtain ⟨t₁, t₂, h₁, h₂, hal, hapart⟩ := h.stores
  rw [step_onTable]
  cases hu : s₁.provider.find? m with
  | none => exact h
  | some u =>
    dsimp only
    have humem : u ∈ s₁.provider.tables := Provider.find?_mem hu
    have hun : u.name = m := Provider.find?_name hu
    rcases tableStep_cases s₁ u ts with ⟨a, hstep⟩ | ⟨c, hstep⟩
    · rw [hstep]
      exact h
    · rw [hstep, applyChange_eq]
      dsimp only
      have hstored := hs₁.partitionsStored
      have hf := TableStore.change_follows (hstored.stores u humem) hstored.objects s₁.now c
      have hfar : ∀ loc, t₁.Location loc → ¬u.Location loc := hapart u humem (hun ▸ hm)
      have hne : (u.change s₁.objects s₁.now c).1.1.name ≠ n := hf.name.trans hun ▸ hm
      refine ⟨h.now, t₁, t₂, ?_, h₂, ?_, ?_⟩
      · rw [Provider.find?_replace_ne hne]
        exact h₁
      · exact hal.objects_left fun loc hloc => hf.objects loc (hfar loc hloc)
      · intro v hv hvn loc hloc
        rcases Provider.mem_replace hv with rfl | hv
        · exact fun hl => hfar loc hloc ((hf.location loc).1 hl)
        · exact hapart v hv hvn loc hloc

/-- A step on the table answers alike in both sessions and keeps the agreement. -/
theorem AgreeOn.step_own (h : AgreeOn n s₁ s₂) (hs₁ : s₁.Reachable) (ts : TableStep) :
    (s₁.step (.onTable (some n) ts)).1 = (s₂.step (.onTable (some n) ts)).1 ∧
      AgreeOn n (s₁.step (.onTable (some n) ts)).2 (s₂.step (.onTable (some n) ts)).2 := by
  obtain ⟨t₁, t₂, h₁, h₂, hal, hapart⟩ := h.stores
  rw [step_onTable, step_onTable, h₁, h₂]
  dsimp only
  rcases tableStep_alike hal h.now ts with ⟨a, hstep₁, hstep₂⟩ | ⟨c, hstep₁, hstep₂⟩
  · rw [hstep₁, hstep₂]
    exact ⟨rfl, h⟩
  · rw [hstep₁, hstep₂, applyChange_eq, applyChange_eq, ← h.now]
    dsimp only
    obtain ⟨hout, hal'⟩ := hal.change s₁.now c
    have hstored := hs₁.partitionsStored
    have hf := TableStore.change_follows (hstored.stores t₁ (Provider.find?_mem h₁))
      hstored.objects s₁.now c
    have hn₁ : (t₁.change s₁.objects s₁.now c).1.1.name = n :=
      hf.name.trans (Provider.find?_name h₁)
    have hn₂ : (t₂.change s₂.objects s₁.now c).1.1.name = n := hal'.name ▸ hn₁
    refine ⟨by rw [hout], ⟨rfl, _, _, Provider.find?_replace_self h₁ hn₁,
      Provider.find?_replace_self h₂ hn₂, hal', ?_⟩⟩
    -- the other stores are the ones before, and the table's locations have not moved
    intro v hv hvn loc hloc
    rcases Provider.mem_replace hv with rfl | hv
    · exact absurd hn₁ hvn
    · exact hapart v hv hvn loc ((hf.location loc).1 hloc)

/-! ## Runs of steps on tables -/

/-- The answers of steps on named tables, each run on the session the step before leaves. A
step that would stop a `run` is answered here like any other, and the steps after it still run. -/
def tableAnswers (s : Session) : List (String × TableStep) → List (Except StepFailure SessionReply)
  | [] => []
  | (n, ts) :: rest =>
    (s.step (.onTable (some n) ts)).1 :: (s.step (.onTable (some n) ts)).2.tableAnswers rest

/-- When no step stops the session, a run of steps on named tables answers them all. -/
theorem run_tableAnswers (s : Session) (script : List (String × TableStep))
    (h : ∀ r ∈ s.tableAnswers script, stops r = false) :
    s.run (script.map fun x => .onTable (some x.1) x.2) = some (s.tableAnswers script) := by
  induction script generalizing s with
  | nil => rfl
  | cons x rest ih =>
    obtain ⟨n, ts⟩ := x
    simp only [tableAnswers, List.mem_cons, forall_eq_or_imp] at h
    obtain ⟨hfirst, hrest⟩ := h
    simp [run, tableAnswers, hfirst, ih _ hrest]

/-- Sessions that agree on a table answer its steps alike, whatever steps on other tables run
in the first between them. -/
theorem AgreeOn.tableAnswers (h : AgreeOn n s₁ s₂) (hs₁ : s₁.Reachable) (hs₂ : s₂.Reachable)
    (script : List (String × TableStep)) :
    ((script.zip (s₁.tableAnswers script)).filter (·.1.1 == n)).map (·.2) =
      s₂.tableAnswers (script.filter (·.1 == n)) := by
  induction script generalizing s₁ s₂ with
  | nil => rfl
  | cons x rest ih =>
    obtain ⟨m, ts⟩ := x
    by_cases hm : m = n
    · subst hm
      obtain ⟨hans, h'⟩ := h.step_own hs₁ ts
      simp [Session.tableAnswers, hans, ih h' (hs₁.step _) (hs₂.step _)]
    · simp [Session.tableAnswers, hm, ih (h.step_other hs₁ hm ts) (hs₁.step _) hs₂]

/-- **Tables do not see each other.** In a reachable session, take a kept table that keeps its
partition and file snapshots apart, and away from the snapshots of every other kept table. Then
for every script of steps on named tables, the answers to the table's own steps are those that
its steps alone, run from the same session, get. -/
theorem Reachable.answers_alone (hs : s.Reachable) (ht : s.provider.find? n = some t)
    (hown : t.SeriesApart)
    (hothers : ∀ u ∈ s.provider.tables, u.name ≠ n → ∀ loc, t.Location loc → ¬u.Location loc)
    (script : List (String × TableStep)) :
    ((script.zip (s.tableAnswers script)).filter (·.1.1 == n)).map (·.2) =
      s.tableAnswers (script.filter (·.1 == n)) := by
  have hstored := hs.partitionsStored
  have hagree : AgreeOn n s s :=
    ⟨rfl, t, t, ht, ht,
      TableStore.alike_refl (hstored.stores t (Provider.find?_mem ht)) hown, hothers⟩
  exact hagree.tableAnswers hs hs script

end Session

/-! ## One database -/

namespace TableStore

/-- The trees a store keeps in the provider's one database, under their names: the item backend
its partition table and its file table, the snapshot backend its revision pointers. -/
def trees (t : TableStore) : List (String × ItemTable) :=
  match t.backend with
  | .items s => [(Provider.treeName t.name .partitions, s.partitionTable),
      (Provider.treeName t.name .files, s.fileTable)]
  | .snapshot _ p => [(Provider.treeName t.name .revisions, p)]

variable {t : TableStore}

/-- Every tree of a store is named for its table. -/
theorem treeName_of_mem_trees {k : String} {it : ItemTable} (h : (k, it) ∈ t.trees) :
    ∃ r, k = Provider.treeName t.name r := by
  unfold trees at h
  split at h
  · simp only [List.mem_cons, Prod.mk.injEq, List.not_mem_nil, or_false] at h
    rcases h with ⟨rfl, -⟩ | ⟨rfl, -⟩
    · exact ⟨.partitions, rfl⟩
    · exact ⟨.files, rfl⟩
  · simp only [List.mem_singleton, Prod.mk.injEq] at h
    exact ⟨.revisions, h.1⟩

/-- The trees of a store have distinct names, one per role. -/
theorem trees_names_nodup : (t.trees.map (·.1)).Nodup := by
  unfold trees
  split
  · simp only [List.map_cons, List.map_nil, List.nodup_cons, List.mem_singleton,
      List.not_mem_nil, not_false_eq_true, List.nodup_nil, and_true]
    exact fun h => nomatch (Provider.treeName_inj h).2
  · exact List.nodup_singleton _

/-- A store keeps no tree under another table's name. -/
theorem lookup_trees_of_ne {n : String} (hn : t.name ≠ n) (r : TreeRole) :
    t.trees.lookup (Provider.treeName n r) = none := by
  rw [List.lookup_eq_none_iff]
  rintro ⟨k, it⟩ hk
  obtain ⟨r', rfl⟩ := treeName_of_mem_trees hk
  rw [bne_iff_ne]
  exact fun h => hn (Provider.treeName_inj h).1.symm

end TableStore

namespace Provider

variable {p : Provider}

/-- The provider's one database: the trees of its stores, store after store. -/
def database (p : Provider) : List (String × ItemTable) :=
  p.tables.flatMap TableStore.trees

/-- A tree of a database whose tree names are distinct is the one found under its name. -/
theorem lookup_eq_some_of_mem {l : List (String × ItemTable)} (hnd : (l.map (·.1)).Nodup)
    {k : String} {it : ItemTable} (h : (k, it) ∈ l) : l.lookup k = some it := by
  induction l with
  | nil => cases h
  | cons q l ih =>
    obtain ⟨k', it'⟩ := q
    rw [List.map_cons, List.nodup_cons] at hnd
    rcases List.mem_cons.1 h with he | hl
    · cases he
      simp
    · -- a later tree has a name that no earlier one has
      have hk : k ≠ k' := fun he => hnd.1 (List.mem_map.2 ⟨(k, it), hl, he⟩)
      simp [List.lookup_cons, beq_eq_false_iff_ne.2 hk, ih hnd.2 hl]

/-- Stores of distinct names keep trees of distinct names: the database never shares a tree. -/
theorem database_names_nodup (hd : p.NamesDistinct) : (p.database.map (·.1)).Nodup := by
  unfold database
  rw [List.map_flatMap]
  refine List.nodup_flatMap.2 ⟨fun _ _ => TableStore.trees_names_nodup, ?_⟩
  -- the trees of two stores are named for two tables
  refine (List.pairwise_map.1 hd).imp fun {a b} hab k hka hkb => ?_
  obtain ⟨⟨k₁, it₁⟩, h₁, rfl⟩ := List.mem_map.1 hka
  obtain ⟨⟨k₂, it₂⟩, h₂, hk⟩ := List.mem_map.1 hkb
  obtain ⟨r₁, rfl⟩ := TableStore.treeName_of_mem_trees h₁
  obtain ⟨r₂, rfl⟩ := TableStore.treeName_of_mem_trees h₂
  exact hab (treeName_inj hk).1.symm

/-- Each store's trees are the database's trees of their names. -/
theorem lookup_database_of_mem (hd : p.NamesDistinct) {t : TableStore} (ht : t ∈ p.tables)
    {k : String} {it : ItemTable} (hk : (k, it) ∈ t.trees) : p.database.lookup k = some it :=
  lookup_eq_some_of_mem (database_names_nodup hd) (List.mem_flatMap.2 ⟨t, ht, hk⟩)

/-- No store of another name keeps a tree of a table's name. -/
theorem lookup_flatMap_trees_of_not_mem {ts : List TableStore} {n : String}
    (hn : ∀ t ∈ ts, t.name ≠ n) (r : TreeRole) :
    (ts.flatMap TableStore.trees).lookup (treeName n r) = none := by
  induction ts with
  | nil => rfl
  | cons t ts ih =>
    simp only [List.forall_mem_cons] at hn
    rw [List.flatMap_cons, List.lookup_append, TableStore.lookup_trees_of_ne hn.1, ih hn.2]
    rfl

/-- The database's tree of a table's role is the one that the table's store keeps, when the
stores have distinct names. -/
theorem lookup_database (hd : p.NamesDistinct) (n : String) (r : TreeRole) :
    p.database.lookup (treeName n r) = (p.find? n).bind fun t => t.trees.lookup (treeName n r) := by
  obtain ⟨ts, m⟩ := p
  unfold NamesDistinct at hd
  simp only [database, find?] at hd ⊢
  induction ts with
  | nil => rfl
  | cons t ts ih =>
    rw [List.map_cons, List.nodup_cons] at hd
    rw [List.flatMap_cons, List.lookup_append, List.find?_cons]
    by_cases htn : t.name = n
    · -- the stores after the first have other names
      have hrest : (ts.flatMap TableStore.trees).lookup (treeName n r) = none :=
        lookup_flatMap_trees_of_not_mem
          (fun u hu hun => hd.1 (by rw [htn, ← hun]; exact List.mem_map_of_mem hu)) r
      simp [htn, hrest]
    · rw [TableStore.lookup_trees_of_ne htn, ih hd.2]
      simp [beq_eq_false_iff_ne.2 htn]

end Provider

namespace Session

variable {s : Session} {n m : String}

/-- A step on one table leaves the store of every other name as it was. -/
theorem Reachable.find?_step_other (hs : s.Reachable) (hnm : n ≠ m) (ts : TableStep) :
    (s.step (.onTable (some m) ts)).2.provider.find? n = s.provider.find? n := by
  rw [step_onTable]
  cases hu : s.provider.find? m with
  | none => rfl
  | some u =>
    dsimp only
    rcases tableStep_cases s u ts with ⟨a, hstep⟩ | ⟨c, hstep⟩
    · rw [hstep]
    · rw [hstep, applyChange_eq]
      dsimp only
      have hstored := hs.partitionsStored
      have hf := TableStore.change_follows (hstored.stores u (Provider.find?_mem hu))
        hstored.objects s.now c
      refine Provider.find?_replace_ne ?_ _
      rw [hf.name, Provider.find?_name hu]
      exact Ne.symm hnm

/-- A step on one table leaves every tree of another table in the database as it was. -/
theorem Reachable.database_step_other (hs : s.Reachable) (hnm : n ≠ m) (ts : TableStep)
    (r : TreeRole) :
    (s.step (.onTable (some m) ts)).2.provider.database.lookup (Provider.treeName n r) =
      s.provider.database.lookup (Provider.treeName n r) := by
  rw [Provider.lookup_database (hs.step _).namesDistinct, Provider.lookup_database hs.namesDistinct,
    hs.find?_step_other hnm ts]

end Session

/-! ## Snapshot tables in one object store -/

namespace SnapshotTable

variable {L : UrlLibrary} {b : Url} {n : Nat} {loc : ObjectLocation}

/-- Under libraries that append names to the base and keep paths, every location of a table
under a base holds, without its leading slash, the base's path without its trailing slashes, a
slash and the name of a snapshot. -/
theorem location_ofBase (happ : L.Appends b) (hkeep : L.KeepsPaths)
    (h : (ofBase L b n).Location loc) : ∃ k r, loc.2.toList =
      dropSlash (b.pathText.toList.rdropWhile (· == '/') ++ '/' :: snapshotName k r) := by
  rcases h with h | h
  · obtain ⟨r, -, hr⟩ := SnapshotSeries.location_toText happ hkeep h
    exact ⟨_, r, hr⟩
  · obtain ⟨r, -, hr⟩ := SnapshotSeries.location_toText happ hkeep h
    exact ⟨_, r, hr⟩

/-- A table under a base to which its libraries append names, and whose paths they keep, keeps
its partition snapshots apart from its file snapshots. -/
theorem seriesApart_ofBase (happ : L.Appends b) (hkeep : L.KeepsPaths) (n : Nat) :
    (ofBase L b n).SeriesApart := by
  intro loc hp hf
  obtain ⟨r, -, hr⟩ := SnapshotSeries.location_toText happ hkeep hp
  obtain ⟨r', -, hr'⟩ := SnapshotSeries.location_toText happ hkeep hf
  -- the one path would end in the name of a partition snapshot and in that of a file snapshot
  have hkind : RevisionKind.partitions = .files :=
    (snapshotName_inj (dropSlash_append_inj (hr.symm.trans hr'))).1
  cases hkind

end SnapshotTable

namespace Session

/-! ## Stores of their own -/

/-- **Each table has a store of its own.** A provider that starts without stores answers each
request with the store built by the first request for its name whose build succeeded, whatever
properties the request passes, and otherwise with the outcome of its own build; it keeps that
store under the name, so that a build that fails keeps nothing and the provider keeps one store
per name answered with a store. The database trees of distinct tables, or of distinct roles,
have distinct names, so in a reachable session the one database holds every store's trees, each
under its own name, and a step on one table leaves every tree of another as it was. And in a
reachable session, a table that keeps its partition and file snapshots apart, and away from every
other table's, gets from any script of steps on named tables the answers that its own steps get
alone. -/
theorem tables_cached_apart :
    (∀ (m : Nat) (cs : List TableProperties) (c : TableProperties),
      ((Provider.empty m).requestAll (cs ++ [c])).1 = ((Provider.empty m).requestAll cs).1 ++
        [(Provider.empty m).answer ((Provider.empty m).firstBuilt c.tableName cs) c]) ∧
    (∀ (m : Nat) (cs : List TableProperties) (n : String),
      ((Provider.empty m).requestAll cs).2.find? n = (Provider.empty m).firstBuilt n cs) ∧
    (∀ (m : Nat) (cs : List TableProperties),
      ((Provider.empty m).requestAll cs).2.size =
        ((Provider.empty m).answeredNames cs).dedup.length) ∧
    (∀ (t t' : String) (r r' : TreeRole),
      Provider.treeName t r = Provider.treeName t' r' → t = t' ∧ r = r') ∧
    (∀ s : Session, s.Reachable → (s.provider.database.map (·.1)).Nodup ∧
      ∀ t ∈ s.provider.tables, ∀ k it, (k, it) ∈ t.trees → s.provider.database.lookup k = some it) ∧
    (∀ (s : Session) (n m : String) (ts : TableStep) (r : TreeRole), s.Reachable → n ≠ m →
      (s.step (.onTable (some m) ts)).2.provider.database.lookup (Provider.treeName n r) =
        s.provider.database.lookup (Provider.treeName n r)) ∧
    (∀ (s : Session) (n : String) (t : TableStore), s.Reachable → s.provider.find? n = some t →
      t.SeriesApart →
      (∀ u ∈ s.provider.tables, u.name ≠ n → ∀ loc, t.Location loc → ¬u.Location loc) →
      ∀ script : List (String × TableStep),
        ((script.zip (s.tableAnswers script)).filter (·.1.1 == n)).map (·.2) =
          s.tableAnswers (script.filter (·.1 == n))) := by
  -- a provider without stores finds none of its own
  have hempty : ∀ (m : Nat) (n : String), (Provider.empty m).find? n = none := fun _ _ => rfl
  refine ⟨fun m cs c => ?_, fun m cs n => ?_, Provider.size_requestAll_empty,
    fun _ _ _ _ => Provider.treeName_inj,
    fun s hs => ⟨Provider.database_names_nodup hs.namesDistinct,
      fun t ht _ _ hk => Provider.lookup_database_of_mem hs.namesDistinct ht hk⟩,
    fun s n m ts r hs hnm => hs.database_step_other hnm ts r,
    fun s n t hs ht hown hothers => hs.answers_alone ht hown hothers⟩
  · rw [Provider.requestAll_snoc, hempty, Option.none_or]
  · rw [Provider.find?_requestAll, hempty, Option.none_or]

/-- Two snapshot tables under `mem:///a` and `mem:///b`, opened in one session and keeping their
snapshots in its one object store: the first keeps its partition and file snapshots apart and away
from the second's, and a script that initialises both and reads the first answers it as its own
steps alone do. -/
theorem two_snapshot_tables_apart :
    let s := ((Session.start 0).step (.openTable { TableProperties.new "a" (.single "key" .long)
      with backend := .snapshot, snapshotUrl := some "mem:///a" })).2.step
      (.openTable { TableProperties.new "b" (.single "key" .long)
        with backend := .snapshot, snapshotUrl := some "mem:///b" })
    let script : List (String × TableStep) := [("a", .change .initialise),
      ("b", .change .initialise), ("a", .read .allPartitions)]
    ∃ t, s.2.Reachable ∧ s.2.provider.find? "a" = some t ∧ t.SeriesApart ∧
      (∀ u ∈ s.2.provider.tables, u.name ≠ "a" → ∀ loc, t.Location loc → ¬u.Location loc) ∧
      ((script.zip (s.2.tableAnswers script)).filter (·.1.1 == "a")).map (·.2) =
        s.2.tableAnswers (script.filter (·.1 == "a")) := by
  intro s script
  have hs : s.2.Reachable := ((Reachable.start 0).step _).step _
  -- the two stores, each with the series of its own location
  have htables : s.2.provider.tables =
      [TableStore.build "a" (.single "key" .long) 100 600000 (.snapshot (SnapshotTable.ofBase
          .standard ⟨"mem", "", "", some "", none, .segments ["a"], none, none⟩ 5) .empty),
        TableStore.build "b" (.single "key" .long) 100 600000 (.snapshot (SnapshotTable.ofBase
          .standard ⟨"mem", "", "", some "", none, .segments ["b"], none, none⟩ 5) .empty)] := rfl
  have hfind : s.2.provider.find? "a" = some (TableStore.build "a" (.single "key" .long) 100
      600000 (.snapshot (SnapshotTable.ofBase .standard
        ⟨"mem", "", "", some "", none, .segments ["a"], none, none⟩ 5) .empty)) := by
    rw [Provider.find?, htables]
    rfl
  have happA : UrlLibrary.standard.Appends
      ⟨"mem", "", "", some "", none, .segments ["a"], none, none⟩ :=
    UrlLibrary.standard_appends_mem (t := "mem:///a") rfl rfl rfl rfl rfl
  have happB : UrlLibrary.standard.Appends
      ⟨"mem", "", "", some "", none, .segments ["b"], none, none⟩ :=
    UrlLibrary.standard_appends_mem (t := "mem:///b") rfl rfl rfl rfl rfl
  have hown := SnapshotTable.seriesApart_ofBase happA UrlLibrary.standard_keepsPaths 5
  -- a location of either table starts with its base's one segment
  have hothers : ∀ u ∈ s.2.provider.tables, u.name ≠ "a" → ∀ loc,
      (SnapshotTable.ofBase .standard
        ⟨"mem", "", "", some "", none, .segments ["a"], none, none⟩ 5).Location loc →
      ¬u.Location loc := by
    rw [htables]
    intro u hu hname loc hla hlb
    simp only [List.mem_cons, List.not_mem_nil, or_false] at hu
    rcases hu with rfl | rfl
    · exact hname rfl
    · obtain ⟨k, r, hr⟩ := SnapshotTable.location_ofBase happA UrlLibrary.standard_keepsPaths hla
      obtain ⟨k', r', hr'⟩ := SnapshotTable.location_ofBase happB UrlLibrary.standard_keepsPaths hlb
      have ha : ∀ N, dropSlash ((⟨"mem", "", "", some "", none, .segments ["a"], none, none⟩ :
          Url).pathText.toList.rdropWhile (· == '/') ++ '/' :: N) = 'a' :: '/' :: N := fun _ => rfl
      have hb : ∀ N, dropSlash ((⟨"mem", "", "", some "", none, .segments ["b"], none, none⟩ :
          Url).pathText.toList.rdropWhile (· == '/') ++ '/' :: N) = 'b' :: '/' :: N := fun _ => rfl
      rw [ha] at hr
      rw [hb] at hr'
      exact absurd (List.cons.inj (hr.symm.trans hr')).1 (by decide)
  exact ⟨_, hs, hfind, hown, hothers,
    tables_cached_apart.2.2.2.2.2.2 s.2 "a" _ hs hfind hown hothers script⟩

end Session

end TableState
