import TableState.Store.Session
import TableState.Proofs.Table.Calls
import Mathlib.Data.List.Nodup
import Mathlib.Algebra.Group.Int.Defs

/-!
# Reachable sessions

A session is reachable when some script of steps leads to it from a start. The provider of a
reachable session keeps at most one store per table name: it adds a store only for a name it
does not keep, and a change replaces a kept store by one of the same name. So the store a step
finds is the only one of its name, and replacing it by itself changes nothing.

The steps of a session are gone through once for every invariant of its stores
(`Session.StoresInvariant.reachable`): a property of each store and of the shared objects that
every opened store has and every change keeps holds in every reachable session.

Main statements:

* `Session.Reachable`, `Session.Reachable.namesDistinct`.
* `Session.StoresInvariant.reachable`.
* `Provider.replace_of_find?`: replacing a kept store by itself.
-/

set_option autoImplicit false

namespace TableState

/-- Whether a step on a table initialises both its partitions and its files. -/
def TableStep.initialisesTable : TableStep → Bool
  | .change c => c.initialisesTable
  | .initialiseSplitPoints _ _ => true
  | _ => false

/-- Whether a step initialises both the partitions and the files of a table. -/
def SessionStep.initialisesTable : SessionStep → Bool
  | .onTable _ ts => ts.initialisesTable
  | _ => false

namespace Provider

variable {p : Provider} {n : String} {t : TableStore}

/-- The kept stores have distinct names. -/
def NamesDistinct (p : Provider) : Prop :=
  (p.tables.map (·.name)).Nodup

theorem find?_name (h : p.find? n = some t) : t.name = n := by
  simpa using List.find?_some h

theorem find?_mem (h : p.find? n = some t) : t ∈ p.tables :=
  List.mem_of_find?_eq_some h

/-- Replacing a store keeps the names of the kept stores. -/
@[simp] theorem replace_names (p : Provider) (t : TableStore) :
    (p.replace t).tables.map (·.name) = p.tables.map (·.name) := by
  simp only [replace, List.map_map]
  apply List.map_congr_left
  intro u _
  by_cases hu : u.name = t.name <;> simp [hu]

/-- Replacing the store found under a name by itself changes nothing, since no other store has
that name. -/
theorem replace_of_find? (hd : p.NamesDistinct) (h : p.find? n = some t) : p.replace t = p := by
  have hmem := find?_mem h
  have hsame : ∀ u ∈ p.tables, u.name = t.name → u = t :=
    fun u hu he => List.inj_on_of_nodup_map hd hu hmem he
  cases p with
  | mk tables maxAttempts =>
    simp only [replace, Provider.mk.injEq, and_true]
    conv_rhs => rw [← List.map_id tables]
    apply List.map_congr_left
    intro u hu
    by_cases he : u.name = t.name
    · simp [hsame u hu he]
    · simp [he]

/-- A store kept after a replacement is the new one or one that was kept. -/
theorem mem_replace {u : TableStore} (h : u ∈ (p.replace t).tables) : u = t ∨ u ∈ p.tables := by
  obtain ⟨v, hv, rfl⟩ := List.mem_map.1 h
  by_cases he : v.name = t.name
  · exact .inl (by simp [he])
  · exact .inr (by simpa [he] using hv)

/-- Getting a store returns a kept one and keeps the provider, or builds a new one and keeps it
too. -/
theorem stateStore_eq_ok {props : TableProperties} {p' : Provider}
    (h : p.stateStore props = .ok (t, p')) :
    (p' = p ∧ t ∈ p.tables) ∨ (p'.tables = p.tables ++ [t] ∧ p.build props = .ok t) := by
  unfold Provider.stateStore at h
  split at h
  · rename_i u hu
    cases h
    exact .inl ⟨rfl, find?_mem hu⟩
  · obtain ⟨u, hb, hu⟩ := Except.map_eq_ok.1 h
    cases hu
    exact .inr ⟨rfl, hb⟩

/-- Getting a store keeps the attempts the provider makes at an update. -/
theorem stateStore_maxAttempts {props : TableProperties} {p' : Provider}
    (h : p.stateStore props = .ok (t, p')) : p'.maxAttempts = p.maxAttempts := by
  unfold Provider.stateStore at h
  split at h
  · cases h
    rfl
  · obtain ⟨u, -, hu⟩ := Except.map_eq_ok.1 h
    cases hu
    rfl

theorem NamesDistinct.replace (hd : p.NamesDistinct) (t : TableStore) :
    (p.replace t).NamesDistinct := by
  unfold NamesDistinct
  rw [replace_names]
  exact hd

/-- A store built from properties has their name, schema and settings, and a new backend: empty
item tables, or the snapshot series of a base location without revision pointers. -/
theorem build_eq_ok {props : TableProperties} (h : p.build props = .ok t) :
    ∃ b, t = TableStore.build props.tableName props.schema props.scanPageSize
        props.gcDelayMillis b ∧
      (b = .items ItemStore.empty ∨
        ∃ base, b = .snapshot (SnapshotTable.ofBase .standard base p.maxAttempts) .empty) := by
  simp only [build, Except.bind_eq_ok] at h
  obtain ⟨_, _, h⟩ := h
  -- whatever backend is chosen, the store is built from it under the table's name
  split at h
  · obtain ⟨b, hb, ht⟩ := Except.bind_eq_ok.1 h
    exact ⟨b, (Except.pure_eq_ok.1 ht).symm, .inl (Except.pure_eq_ok.1 hb).symm⟩
  · obtain ⟨b, hb, -⟩ := Except.bind_eq_ok.1 h
    simp at hb
  · split at h
    · obtain ⟨b, hb, ht⟩ := Except.bind_eq_ok.1 h
      exact ⟨b, (Except.pure_eq_ok.1 ht).symm, .inr ⟨_, (Except.pure_eq_ok.1 hb).symm⟩⟩
    · obtain ⟨b, hb, -⟩ := Except.bind_eq_ok.1 h
      simp at hb

/-- A store built from properties has their table name. -/
theorem build_name {props : TableProperties} (h : p.build props = .ok t) :
    t.name = props.tableName := by
  obtain ⟨b, rfl, -⟩ := build_eq_ok h
  rfl

/-- Getting a store keeps the names distinct: a new store has a name no kept store has. -/
theorem NamesDistinct.stateStore (hd : p.NamesDistinct) {props : TableProperties}
    {p' : Provider} (h : p.stateStore props = .ok (t, p')) : p'.NamesDistinct := by
  unfold Provider.stateStore at h
  split at h
  · cases h
    exact hd
  · rename_i hnone
    cases hb : p.build props with
    | error e => simp [hb, Except.map] at h
    | ok u =>
      simp only [hb, Except.map, Except.ok.injEq, Prod.mk.injEq] at h
      obtain ⟨rfl, rfl⟩ := h
      have hfresh : u.name ∉ p.tables.map (·.name) := by
        rw [build_name hb]
        intro hm
        obtain ⟨v, hv, hvn⟩ := List.mem_map.1 hm
        have := List.find?_eq_none.1 hnone v hv
        simp [hvn] at this
      unfold NamesDistinct
      rw [List.map_append, List.nodup_append]
      refine ⟨hd, List.nodup_singleton _, ?_⟩
      intro a ha b hb' hab
      simp only [List.map_cons, List.map_nil, List.mem_singleton] at hb'
      subst hb' hab
      exact hfresh ha

end Provider

namespace Session

/-- The sessions that some script of steps leads to from a start. -/
inductive Reachable : Session → Prop
  | start (now : Int) : Reachable (Session.start now)
  | step {s : Session} (st : SessionStep) : Reachable s → Reachable (s.step st).2

variable {s : Session}

/-- A change of a table replaces its store in the provider, whether it succeeds or not. -/
theorem applyChange_provider (s : Session) (t : TableStore) (c : TableChange) :
    ∃ t', (s.applyChange t c).2.provider = s.provider.replace t' := by
  rcases hc : t.change s.objects s.now c with ⟨⟨t', o⟩, r⟩
  refine ⟨t', ?_⟩
  cases r <;> simp only [applyChange, hc]

/-- A step on a table keeps the provider or replaces a store in it. -/
theorem tableStep_provider (s : Session) (t : TableStore) (ts : TableStep) :
    (s.tableStep t ts).2.provider = s.provider ∨
      ∃ t', (s.tableStep t ts).2.provider = s.provider.replace t' := by
  cases ts with
  | change c => exact .inr (applyChange_provider s t c)
  | initialiseSplitPoints points idPrefix =>
    simp only [tableStep]
    split
    · exact .inr (applyChange_provider s t _)
    · exact .inl rfl
  | splitLeaf parent dimension point left right =>
    simp only [tableStep]
    split
    · exact .inr (applyChange_provider s t _)
    · exact .inl rfl
  | read r => exact .inl rfl

theorem openWith_namesDistinct (hd : s.provider.NamesDistinct)
    (r : Except Error TableProperties) : (s.openWith r).2.provider.NamesDistinct := by
  unfold openWith
  split
  · split
    · exact hd
    · split
      · rename_i h
        exact hd.stateStore h
      · exact hd
  · exact hd

theorem moveClock_provider (s : Session) (t : Int) : (s.moveClock t).2.provider = s.provider := by
  unfold moveClock
  split <;> rfl

/-- Every step keeps the names of the kept stores distinct. -/
theorem step_namesDistinct (hd : s.provider.NamesDistinct) (st : SessionStep) :
    (s.step st).2.provider.NamesDistinct := by
  cases st with
  | openTable props => exact openWith_namesDistinct hd _
  | openYaml text => exact openWith_namesDistinct hd _
  | advance millis => simpa only [step, moveClock_provider] using hd
  | setTime millis => simpa only [step, moveClock_provider] using hd
  | onTable table ts =>
    simp only [step]
    split
    · rename_i t _
      rcases tableStep_provider s t ts with h | ⟨t', h⟩ <;> rw [h]
      · exact hd
      · exact hd.replace t'
    · exact hd

theorem openWith_maxAttempts (s : Session) (r : Except Error TableProperties) :
    (s.openWith r).2.provider.maxAttempts = s.provider.maxAttempts := by
  unfold openWith
  split
  · split
    · rfl
    · split
      · rename_i h
        exact Provider.stateStore_maxAttempts h
      · rfl
  · rfl

/-- Every step keeps the attempts the provider makes at an update of a snapshot series. -/
theorem step_maxAttempts (s : Session) (st : SessionStep) :
    (s.step st).2.provider.maxAttempts = s.provider.maxAttempts := by
  cases st with
  | openTable props => exact openWith_maxAttempts s _
  | openYaml text => exact openWith_maxAttempts s _
  | advance millis => simp only [step, moveClock_provider]
  | setTime millis => simp only [step, moveClock_provider]
  | onTable table ts =>
    simp only [step]
    split
    · rename_i t _
      rcases tableStep_provider s t ts with h | ⟨t', h⟩ <;> rw [h]
      rfl
    · rfl

/-- The provider of a reachable session makes five attempts at an update. -/
theorem Reachable.maxAttempts (h : s.Reachable) : s.provider.maxAttempts = 5 := by
  induction h with
  | start now => rfl
  | step st _ ih => rw [step_maxAttempts, ih]

/-- A reachable session keeps at most one store per table name. -/
theorem Reachable.namesDistinct (h : s.Reachable) : s.provider.NamesDistinct := by
  induction h with
  | start now => exact List.nodup_nil
  | step st _ ih => exact step_namesDistinct ih st

/-! ## Invariants of the stores

A step of a session keeps its stores and objects, opens a store, or changes one store together
with the shared objects. So a property of each store, read against the objects, with a property
of the objects, holds in every reachable session once the start has it, every store a session
opens has it, and every change keeps it: for the changed store and for the stores beside it. The
steps are gone through here once; each invariant says only what one store does. -/

/-- A property `P` of every kept store, read against the shared objects, with a property `Q` of
the objects, that every change of a store keeps. -/
structure StoresInvariant (Q : ObjectStores → Prop) (P : TableStore → ObjectStores → Prop) :
    Prop where
  empty : Q ObjectStores.empty
  build : ∀ {p : Provider} {props : TableProperties} {t : TableStore} {o : ObjectStores},
    p.maxAttempts ≠ 0 → outsideMemory props = false → p.build props = .ok t → Q o → P t o
  change : ∀ {t : TableStore} {o : ObjectStores} (now : Int) (c : TableChange), P t o → Q o →
    P (t.change o now c).1.1 (t.change o now c).1.2 ∧ Q (t.change o now c).1.2
  frame : ∀ {t u : TableStore} {o : ObjectStores} (now : Int) (c : TableChange), P t o → Q o →
    P u o → P u (t.change o now c).1.2

/-- The objects of a session have `Q`, and each of its stores has `P` against them. -/
structure Holds (Q : ObjectStores → Prop) (P : TableStore → ObjectStores → Prop) (s : Session) :
    Prop where
  objects : Q s.objects
  stores : ∀ t ∈ s.provider.tables, P t s.objects

namespace StoresInvariant

variable {Q : ObjectStores → Prop} {P : TableStore → ObjectStores → Prop}

theorem applyChange (hI : StoresInvariant Q P) (hs : s.Holds Q P) {t : TableStore}
    (ht : t ∈ s.provider.tables) (c : TableChange) : (s.applyChange t c).2.Holds Q P := by
  obtain ⟨ht', hQ'⟩ := hI.change s.now c (hs.stores t ht) hs.objects
  have hframe := fun u hu => hI.frame s.now c (hs.stores t ht) hs.objects (hs.stores u hu)
  rcases hc : t.change s.objects s.now c with ⟨⟨t', o'⟩, r⟩
  rw [hc] at ht' hQ' hframe
  -- the change replaces the store and the objects, whether it succeeds or not
  have hres : (s.applyChange t c).2 = { s with provider := s.provider.replace t', objects := o' } := by
    cases r <;> simp only [Session.applyChange, hc]
  rw [hres]
  refine ⟨hQ', fun u hu => ?_⟩
  rcases Provider.mem_replace hu with rfl | hu
  · exact ht'
  · exact hframe u hu

theorem tableStep (hI : StoresInvariant Q P) (hs : s.Holds Q P) {t : TableStore}
    (ht : t ∈ s.provider.tables) (ts : TableStep) : (s.tableStep t ts).2.Holds Q P := by
  cases ts with
  | change c => exact hI.applyChange hs ht c
  | initialiseSplitPoints points idPrefix =>
    simp only [Session.tableStep]
    split
    · exact hI.applyChange hs ht _
    · exact hs
  | splitLeaf parent dimension point left right =>
    simp only [Session.tableStep]
    split
    · exact hI.applyChange hs ht _
    · exact hs
  | read r => exact hs

theorem openWith (hI : StoresInvariant Q P) (hs : s.Holds Q P) (hatt : s.provider.maxAttempts ≠ 0)
    (r : Except Error TableProperties) : (s.openWith r).2.Holds Q P := by
  unfold Session.openWith
  split
  · split
    · exact hs
    · rename_i hmem
      split
      · rename_i t p hok
        refine ⟨hs.objects, fun u hu => ?_⟩
        -- the store is one kept already, or one built and added
        rcases Provider.stateStore_eq_ok hok with ⟨rfl, -⟩ | ⟨htables, hb⟩
        · exact hs.stores u hu
        · rw [htables] at hu
          rcases List.mem_append.1 hu with hu | hu
          · exact hs.stores u hu
          · rw [List.mem_singleton.1 hu]
            exact hI.build hatt (by simpa using hmem) hb hs.objects
      · exact hs
  · exact hs

theorem step (hI : StoresInvariant Q P) (hs : s.Holds Q P) (hatt : s.provider.maxAttempts ≠ 0)
    (st : SessionStep) : (s.step st).2.Holds Q P := by
  cases st with
  | openTable props => exact hI.openWith hs hatt _
  | openYaml text => exact hI.openWith hs hatt _
  | advance millis =>
    simp only [Session.step, moveClock]
    split <;> exact ⟨hs.objects, hs.stores⟩
  | setTime millis =>
    simp only [Session.step, moveClock]
    split <;> exact ⟨hs.objects, hs.stores⟩
  | onTable table ts =>
    simp only [Session.step]
    split
    · rename_i t hfind
      obtain ⟨n, -, hn⟩ := Option.bind_eq_some_iff.1 hfind
      exact hI.tableStep hs (Provider.find?_mem hn) ts
    · exact hs

/-- An invariant of the stores holds in every reachable session. -/
theorem reachable (hI : StoresInvariant Q P) (h : s.Reachable) : s.Holds Q P := by
  induction h with
  | start now => exact ⟨hI.empty, fun _ h => by cases h⟩
  | step st hs ih => exact hI.step ih (by rw [hs.maxAttempts]; decide) st

end StoresInvariant

section Failure

variable {f : StepFailure}

/-- Opening a table either succeeds or leaves the session as it was. -/
theorem openWith_cases (r : Except Error TableProperties) :
    (∃ k, (s.openWith r).1 = .ok (.tables k)) ∨ (s.openWith r).2 = s := by
  unfold openWith
  split
  · split
    · exact .inr rfl
    · split
      · exact .inl ⟨_, rfl⟩
      · exact .inr rfl
  · exact .inr rfl

theorem openWith_error {r : Except Error TableProperties} (h : (s.openWith r).1 = .error f) :
    (s.openWith r).2 = s := by
  rcases openWith_cases (s := s) r with ⟨k, hk⟩ | hs
  · rw [hk] at h
    cases h
  · exact hs

theorem moveClock_error {time : Int} (h : (s.moveClock time).1 = .error f) :
    (s.moveClock time).2 = s := by
  unfold moveClock at h ⊢
  split
  · rename_i hi
    simp only [hi, if_true] at h
    cases h
  · rfl

end Failure

end Session

end TableState
