import TableState.Proofs.Session.Deletion
import TableState.Proofs.Session.GarbageCollection
import TableState.Proofs.Session.StoresAlike
import TableState.Proofs.File.Reordered

/-!
# Tables that hold the same state

The item backend and the snapshot backend keep a table's state in different forms, and list what
they hold in different orders. Two tables hold the same state (`TableStore.SameState`) when they
have the same settings, read the same partitions, which form one tree, and read the same file
records, each up to order.

A split, or a change of the file records, keeps two tables holding the same state
(`TableStore.SameState.changePart`) when the columns of a snapshot hold the change's numbers and
a token is left for a new revision. Each table follows the outcome of the change among the
records it reads (`TableStore.split_agrees`, `TableStore.fileEdit_agrees`,
`TableStore.markGcPending_agrees`, `TableStore.deleteLifecycle_agrees`); outcomes among records
that differ only in order agree (`Partition.splitOutcome_perm`, `FileOutcome.agree`,
`FileRecord.deleteOutcome_perm`); and what a change does not write, each table reads as before
(`TableStore.FilesStep.allPartitions`, `TableStore.SplitStep.fileReads`). The one difference left
is the file that a refusal of an existing file names.
-/

set_option autoImplicit false

namespace TableState

namespace Partition

variable {S S' : List Partition} {parent c1 c2 : Partition}

/-- A split that succeeds passed its checks: the split is valid, and neither child's id was
taken. -/
theorem splitOutcome_checks (h : splitOutcome S parent c1 c2 = .ok S') :
    validateSplit parent c1 c2 = .ok () ∧ c1.id ∉ S.map (·.id) ∧ c2.id ∉ S.map (·.id) := by
  simp only [splitOutcome, Except.bind_eq_ok] at h
  obtain ⟨⟨⟩, hv, h⟩ := h
  split at h
  · cases h
  · split_ifs at h with _ _ h₁ h₂
    exact ⟨hv, by simpa using h₁, by simpa using h₂⟩

/-- On partitions with distinct ids, the outcome of a split does not depend on their order. -/
theorem splitOutcome_perm (hnd : (S.map (·.id)).Nodup) (hp : S.Perm S')
    (parent c1 c2 : Partition) :
    Except.Rel List.Perm (splitOutcome S parent c1 c2) (splitOutcome S' parent c1 c2) := by
  unfold splitOutcome
  refine Except.Rel.bind_left fun _ _ => ?_
  rw [List.find?_key_perm Partition.id hnd hp, hp.any_eq, hp.any_eq]
  split
  · exact .error _
  · rename_i p _
    split_ifs
    all_goals first
      | exact .error _
      | exact .ok (((hp.erase p).cons _).cons _ |>.cons _)

/-- Of the partitions after a split, the ones without a parent are the split parent in its new
form and the others that had none: the children have the parent above them. -/
theorem parentless_of_split {p q : Partition} (hchild : ∀ c ∈ [c1, c2], c.parentId ≠ none)
    (hq : q ∈ p.splitAs parent :: c1 :: c2 :: S.erase p) (hqn : q.parentId = none) :
    q = p.splitAs parent ∨ q ∈ S.erase p := by
  simp only [List.mem_cons] at hq
  rcases hq with rfl | rfl | rfl | hq
  · exact .inl rfl
  · exact absurd hqn (hchild _ (by simp))
  · exact absurd hqn (hchild _ (by simp))
  · exact .inr hq

/-- Partitions that form one tree: their ids are distinct, and one of them is the root. -/
structure Rooted (S : List Partition) : Prop where
  ids_nodup : (S.map (·.id)).Nodup
  root : ∃ r ∈ S, r.parentId = none ∧ ∀ q ∈ S, q.parentId = none → q = r

namespace Rooted

theorem perm (h : Rooted S) (hp : S.Perm S') : Rooted S' where
  ids_nodup := (hp.map _).nodup_iff.1 h.ids_nodup
  root := by
    obtain ⟨r, hr, hnone, hunique⟩ := h.root
    exact ⟨r, hp.subset hr, hnone, fun q hq => hunique q (hp.symm.subset hq)⟩

/-- Rooted partitions, in any order, make the tree of their root. -/
theorem ofPartitions_eq (h : Rooted S) (hp : S'.Perm S) {r : Partition} (hr : r ∈ S)
    (hnone : r.parentId = none) : PartitionTree.ofPartitions S' = .ok ⟨r.id, S'⟩ := by
  obtain ⟨r₀, -, -, hunique⟩ := h.root
  refine PartitionTree.ofPartitions_eq_ok (h.perm hp.symm).ids_nodup (hp.symm.subset hr) hnone
    fun q hq hqn => ?_
  rw [hunique q (hp.subset hq) hqn, hunique r hr hnone]

/-- A split keeps partitions one tree: the children take new ids and have the parent above them,
and the parent keeps its place. -/
theorem splitOutcome (h : Rooted S) (hs : splitOutcome S parent c1 c2 = .ok S') : Rooted S' := by
  obtain ⟨hv, hc₁, hc₂⟩ := splitOutcome_checks hs
  obtain ⟨p, hp, -, rfl⟩ := splitOutcome_eq_ok hs
  obtain ⟨-, -, -, -, -, hne, hchildren, -⟩ := validateSplit_eq_ok_iff.1 hv
  have hchild : ∀ c ∈ [c1, c2], c.parentId ≠ none := fun c hc => by
    simp [(hchildren c hc).1]
  have hnodup : S.Nodup := h.ids_nodup.of_map _
  -- the parent in its split form stands where the parent stood
  have hids : ((p.splitAs parent :: S.erase p).map (·.id)).Perm (S.map (·.id)) := by
    rw [List.map_cons, id_splitAs, ← List.map_cons]
    exact ((List.perm_cons_erase hp).map _).symm
  constructor
  · have hrest := hids.nodup_iff.2 h.ids_nodup
    have hnew : ∀ c ∈ [c1, c2], c.id ∉ (p.splitAs parent :: S.erase p).map (·.id) := by
      intro c hc hmem
      have hS := hids.subset hmem
      simp only [List.mem_cons, List.not_mem_nil, or_false] at hc
      rcases hc with rfl | rfl
      · exact hc₁ hS
      · exact hc₂ hS
    have hperm : (c1 :: c2 :: p.splitAs parent :: S.erase p).Perm
        (p.splitAs parent :: c1 :: c2 :: S.erase p) :=
      ((List.Perm.swap _ _ _).cons c1).trans (List.Perm.swap _ _ _)
    refine (hperm.map _).nodup_iff.1 ?_
    rw [List.map_cons, List.map_cons, List.nodup_cons, List.nodup_cons, List.mem_cons]
    exact ⟨not_or.2 ⟨hne, hnew c1 (by simp)⟩, hnew c2 (by simp), hrest⟩
  · obtain ⟨r, hr, hnone, hunique⟩ := h.root
    by_cases hpr : p = r
    · -- the root was split: its split form is the root
      subst hpr
      refine ⟨p.splitAs parent, List.mem_cons_self, hnone, fun q hq hqn => ?_⟩
      rcases parentless_of_split hchild hq hqn with rfl | hq
      · rfl
      · exact absurd (hunique q (List.mem_of_mem_erase hq) hqn) (hnodup.mem_erase_iff.1 hq).1
    · -- another partition was split: the root stays
      have hr' : r ∈ S.erase p := (List.mem_erase_of_ne (Ne.symm hpr)).2 hr
      refine ⟨r, by simp [hr'], hnone, fun q hq hqn => ?_⟩
      rcases parentless_of_split hchild hq hqn with rfl | hq
      · exact absurd (hunique p hp hqn) hpr
      · exact hunique q (List.mem_of_mem_erase hq) hqn

end Rooted

end Partition

namespace SnapshotSeries

variable {α : Type} {s : SnapshotSeries α} {st st' : SnapshotState}

/-- An update issues at most one token. -/
theorem update_tokens_le_succ {change : List α → Except Error (Option (List α))}
    (h : s.update st change = (st', .ok ())) : st'.objects.tokens ≤ st.objects.tokens + 1 := by
  rcases update_cases h with rfl | ⟨cur, rs, rs', loc, obj, t, -, -, -, -, -, rfl⟩
  · exact Nat.le_succ _
  · exact Nat.le_refl _

end SnapshotSeries

namespace SnapshotTable

variable {t : SnapshotTable} {st st' : SnapshotState}

/-- A change of the file series alone leaves the partitions a table reads. -/
theorem partitions_records_of_files (ht : t.Standing) (hapart : t.SeriesApart)
    (hp : t.partitions.PointsPlain st) (h : t.files.Touches st st') :
    t.partitions.records st' = t.partitions.records st := by
  rw [SnapshotSeries.records_eq_view, SnapshotSeries.records_eq_view,
    SnapshotSeries.view_touched h (pointerKey_ne ht) hapart hp]

/-- A change of the partition series alone leaves the file records a table reads. -/
theorem files_records_of_partitions (ht : t.Standing) (hapart : t.SeriesApart)
    (hf : t.files.PointsPlain st) (h : t.partitions.Touches st st') :
    t.files.records st' = t.files.records st := by
  rw [SnapshotSeries.records_eq_view, SnapshotSeries.records_eq_view,
    SnapshotSeries.view_touched h (pointerKey_ne ht).symm (fun loc hf hp => hapart loc hp hf) hf]

end SnapshotTable

namespace TableChange

/-- Whether a change is one of the file records of an initialised table. -/
def changesFiles : TableChange → Bool
  | .addFiles _ | .replaceFiles _ _ | .assignJob _ _ | .markGcPending | .deleteLifecycle _ => true
  | _ => false

/-- The changes of an initialised table whose numbers the columns of a snapshot hold: a split
into partitions whose split dimensions fit a signed 32-bit integer, and a change of the file
records whose new files' counts fit a signed 64-bit integer. -/
def FitsColumns : TableChange → Prop
  | .split parent c1 c2 => ∀ p ∈ [parent, c1, c2], p.DimensionFits
  | .addFiles fs => ∀ f ∈ fs, f.CountFits
  | .replaceFiles _ new => ∀ f ∈ new, f.CountFits
  | .assignJob _ _ | .markGcPending | .deleteLifecycle _ => True
  | .initialise | .initialiseWith _ | .initialiseFiles => False

end TableChange

namespace TableStore

variable {t : TableStore} {o : ObjectStores} {now : Int} {r : TableStore × ObjectStores}

/-! ## What a change of one part of a table leaves -/

/-- A change that changes only the state of a table's backend: an item table changes its item
store as `items` relates the two and keeps the object stores; a snapshot table keeps its series
and moves its state as `snapshot` says. -/
def BackendStep (items : ItemStore → ItemStore → Prop)
    (snapshot : SnapshotTable → SnapshotState → SnapshotState → Prop)
    (t : TableStore) (o : ObjectStores) (r : TableStore × ObjectStores) : Prop :=
  (∃ s s', t.backend = .items s ∧ r = ({ t with backend := .items s' }, o) ∧ items s s') ∨
    ∃ sn p st', t.backend = .snapshot sn p ∧
      r = ({ t with backend := .snapshot sn st'.pointers }, st'.objects) ∧ snapshot sn ⟨p, o⟩ st'

/-- A change of the file records: the item table keeps its partition table, the snapshot table
updates its file series. -/
def FilesStep : TableStore → ObjectStores → TableStore × ObjectStores → Prop :=
  BackendStep (fun s s' => s'.partitionTable = s.partitionTable)
    (fun sn st st' => ∃ change, sn.files.update st change = (st', .ok ()))

/-- A split: the item table keeps its file table, the snapshot table updates its partition
series. -/
def SplitStep : TableStore → ObjectStores → TableStore × ObjectStores → Prop :=
  BackendStep (fun s s' => s'.fileTable = s.fileTable)
    (fun sn st st' => ∃ change, sn.partitions.update st change = (st', .ok ()))

/-- Two tables with the same name, schema and delay before garbage collection. -/
structure SameSettings (t t' : TableStore) : Prop where
  name : t.name = t'.name
  schema : t.schema = t'.schema
  gcDelay : t.gcDelayMillis = t'.gcDelayMillis

theorem SameSettings.symm {t t' : TableStore} (h : SameSettings t t') : SameSettings t' t :=
  ⟨h.name.symm, h.schema.symm, h.gcDelay.symm⟩

theorem SameSettings.trans {t t' t'' : TableStore} (h : SameSettings t t')
    (h' : SameSettings t' t'') : SameSettings t t'' :=
  ⟨h.name.trans h'.name, h.schema.trans h'.schema, h.gcDelay.trans h'.gcDelay⟩

section BackendStep

variable {I : ItemStore → ItemStore → Prop}
  {N : SnapshotTable → SnapshotState → SnapshotState → Prop}

theorem BackendStep.sameSettings (h : BackendStep I N t o r) : SameSettings r.1 t := by
  rcases h with ⟨s, s', -, rfl, -⟩ | ⟨sn, p, st', -, rfl, -⟩ <;> exact ⟨rfl, rfl, rfl⟩

theorem BackendStep.seriesApart (h : BackendStep I N t o r) : r.1.SeriesApart ↔ t.SeriesApart := by
  rcases h with ⟨s, s', hb, rfl, -⟩ | ⟨sn, p, st', hb, rfl, -⟩ <;> simp [SeriesApart, hb]

/-- A step of a backend that issues at most one token, as a snapshot update does, issues at most
one. -/
theorem BackendStep.tokens_le (h : BackendStep I N t o r)
    (hN : ∀ sn st st', N sn st st' → st'.objects.tokens ≤ st.objects.tokens + 1) :
    r.2.tokens ≤ o.tokens + 1 := by
  rcases h with ⟨s, s', -, rfl, -⟩ | ⟨sn, p, st', -, rfl, hst'⟩
  · exact Nat.le_succ _
  · exact hN sn _ st' hst'

end BackendStep

theorem changePart_filesStep {c : TableChange} (hc : c.changesFiles = true)
    (h : t.changePart o now c = (r, .ok ())) : FilesStep t o r := by
  unfold changePart at h
  cases hb : t.backend with
  | items s =>
    simp only [hb] at h
    -- the item backend keeps its partition table, whatever the call
    have hdone : ∀ {x : ItemStore × Except Error Unit}, x.1.partitionTable = s.partitionTable →
        (({ t with backend := .items x.1 }, o), x.2) = (r, .ok ()) → FilesStep t o r := by
      intro x hx hm
      obtain ⟨rfl, -⟩ := Prod.mk.inj hm
      exact .inl ⟨s, x.1, hb, rfl, hx⟩
    cases c with
    | addFiles fs => exact hdone ItemStore.addFiles_partitionTable h
    | replaceFiles old new => exact hdone ItemStore.replaceFiles_partitionTable h
    | assignJob job fs => exact hdone ItemStore.assignJob_partitionTable h
    | markGcPending => exact hdone ItemStore.markGcPending_partitionTable h
    | deleteLifecycle names => exact hdone ItemStore.deleteLifecycle_partitionTable h
    | _ => cases hc
  | snapshot sn p =>
    simp only [hb] at h
    -- the snapshot backend commits an update of its file series
    have hdone : ∀ {x : SnapshotState × Except Error Unit},
        (∀ st', x = (st', .ok ()) → ∃ change, sn.files.update ⟨p, o⟩ change = (st', .ok ())) →
        (({ t with backend := .snapshot sn x.1.pointers }, x.1.objects), x.2) = (r, .ok ()) →
          FilesStep t o r := by
      rintro ⟨st', x⟩ hx hm
      obtain ⟨rfl, rfl⟩ := Prod.mk.inj hm
      exact .inr ⟨sn, p, st', hb, rfl, hx st' rfl⟩
    cases c with
    | addFiles fs => exact hdone (fun _ h' => ⟨_, (SnapshotTable.addFiles_eq_ok.1 h').2⟩) h
    | replaceFiles old new =>
      exact hdone (fun _ h' => ⟨_, (SnapshotTable.replaceFiles_eq_ok.1 h').2.2⟩) h
    | assignJob job fs => exact hdone (fun _ h' => ⟨_, (SnapshotTable.assignJob_eq_ok.1 h').2.2⟩) h
    | markGcPending => exact hdone (fun _ h' => ⟨_, h'⟩) h
    | deleteLifecycle names => exact hdone (fun _ h' => ⟨_, h'⟩) h
    | _ => cases hc

theorem changePart_splitStep {parent c1 c2 : Partition}
    (h : t.changePart o now (.split parent c1 c2) = (r, .ok ())) : SplitStep t o r := by
  unfold changePart at h
  cases hb : t.backend with
  | items s =>
    simp only [hb] at h
    obtain ⟨rfl, -⟩ := Prod.mk.inj h
    exact .inl ⟨s, _, hb, rfl, ItemStore.split_fileTable⟩
  | snapshot sn p =>
    simp only [hb] at h
    obtain ⟨rfl, hok⟩ := Prod.mk.inj h
    exact .inr ⟨sn, p, _, hb, rfl, _, (SnapshotTable.split_eq_ok.1 (Prod.ext rfl hok)).2⟩

/-- A change of the file records leaves the partitions a table reads, when the table keeps its
series apart. -/
theorem FilesStep.allPartitions (hp : t.PartitionsStored o) (hapart : t.SeriesApart)
    (h : FilesStep t o r) : r.1.allPartitions r.2 = t.allPartitions o := by
  rcases h with ⟨s, s', hb, rfl, hpt⟩ | ⟨sn, p, st', hb, rfl, change, hu⟩
  · simp only [TableStore.allPartitions, hb, ItemStore.allPartitions, hpt]
  · unfold PartitionsStored at hp
    unfold SeriesApart at hapart
    rw [hb] at hp hapart
    obtain ⟨hsn, hwp, hwf⟩ := hp
    have hplain : sn.partitions.PointsPlain ⟨p, o⟩ ∧ sn.files.PointsPlain ⟨p, o⟩ :=
      hsn.pointsPlain hwp hwf
    have hrec : sn.partitions.records ⟨st'.pointers, st'.objects⟩ = sn.partitions.records ⟨p, o⟩ :=
      SnapshotTable.partitions_records_of_files hsn hapart hplain.1
        (SnapshotSeries.update_touches hsn.files hplain.2 hu)
    simp only [TableStore.allPartitions, hb, hrec]

/-- A split leaves the file records a table reads, when the table keeps its series apart. -/
theorem SplitStep.fileReads (hp : t.PartitionsStored o) (hapart : t.SeriesApart)
    (h : SplitStep t o r) :
    r.1.fileInPartitionRecords r.2 = t.fileInPartitionRecords o ∧
      r.1.lifecycleRecords r.2 = t.lifecycleRecords o := by
  rcases h with ⟨s, s', hb, rfl, hft⟩ | ⟨sn, p, st', hb, rfl, change, hu⟩
  · simp only [fileInPartitionRecords, lifecycleRecords, hb, ItemStore.fileInPartitionRecords,
      ItemStore.lifecycleRecords, ItemStore.records, hft, and_self]
  · unfold PartitionsStored at hp
    unfold SeriesApart at hapart
    rw [hb] at hp hapart
    obtain ⟨hsn, hwp, hwf⟩ := hp
    have hplain : sn.partitions.PointsPlain ⟨p, o⟩ ∧ sn.files.PointsPlain ⟨p, o⟩ :=
      hsn.pointsPlain hwp hwf
    have hrec : sn.files.records ⟨st'.pointers, st'.objects⟩ = sn.files.records ⟨p, o⟩ :=
      SnapshotTable.files_records_of_partitions hsn hapart hplain.2
        (SnapshotSeries.update_touches hsn.partitions hplain.1 hu)
    simp only [fileInPartitionRecords, lifecycleRecords, hb, hrec, and_self]

/-- A split or a change of the file records keeps a table's settings and its series apart, and
issues at most one token. -/
theorem changePart_keeps_settings {c : TableChange} (hc : c.FitsColumns)
    (h : t.changePart o now c = (r, .ok ())) :
    SameSettings r.1 t ∧ (r.1.SeriesApart ↔ t.SeriesApart) ∧ r.2.tokens ≤ o.tokens + 1 := by
  have hkeeps : ∀ {I N}, BackendStep I N t o r →
      (∀ sn st st', N sn st st' → st'.objects.tokens ≤ st.objects.tokens + 1) →
      SameSettings r.1 t ∧ (r.1.SeriesApart ↔ t.SeriesApart) ∧ r.2.tokens ≤ o.tokens + 1 :=
    fun hs hN => ⟨hs.sameSettings, hs.seriesApart, hs.tokens_le hN⟩
  cases c with
  | initialise | initialiseWith _ | initialiseFiles => exact hc.elim
  | split parent c1 c2 =>
    exact hkeeps (changePart_splitStep h) fun _ _ _ ⟨_, hu⟩ =>
      SnapshotSeries.update_tokens_le_succ hu
  | _ =>
    exact hkeeps (changePart_filesStep rfl h) fun _ _ _ ⟨_, hu⟩ =>
      SnapshotSeries.update_tokens_le_succ hu

/-! ## The same state -/

/-- A table with its object stores reads the partitions `S`, up to order. -/
def ReadsPartitions (r : TableStore × ObjectStores) (S : List Partition) : Prop :=
  ∃ S', r.1.allPartitions r.2 = .ok S' ∧ S'.Perm S

theorem ReadsPartitions.perm {S S' : List Partition} (h : ReadsPartitions r S) (hp : S.Perm S') :
    ReadsPartitions r S' :=
  let ⟨S'', hr, hS⟩ := h
  ⟨S'', hr, hS.trans hp⟩

theorem ReadsPartitions.congr {a : TableStore × ObjectStores} {S : List Partition}
    (h : ReadsPartitions a S) (he : r.1.allPartitions r.2 = a.1.allPartitions a.2) :
    ReadsPartitions r S :=
  let ⟨S', hr, hS⟩ := h
  ⟨S', he.trans hr, hS⟩

theorem ReadsFiles.perm {FL FL' : List FileRecord × List FileRecord} (h : ReadsFiles r FL)
    (h₁ : FL.1.Perm FL'.1) (h₂ : FL.2.Perm FL'.2) : ReadsFiles r FL' :=
  let ⟨F, L, hF, hL, hpF, hpL⟩ := h
  ⟨F, L, hF, hL, hpF.trans h₁, hpL.trans h₂⟩

theorem ReadsFiles.congr {a : TableStore × ObjectStores} {FL : List FileRecord × List FileRecord}
    (h : ReadsFiles a FL)
    (hF : r.1.fileInPartitionRecords r.2 = a.1.fileInPartitionRecords a.2)
    (hL : r.1.lifecycleRecords r.2 = a.1.lifecycleRecords a.2) : ReadsFiles r FL :=
  let ⟨F, L, hF', hL', hpF, hpL⟩ := h
  ⟨F, L, hF.trans hF', hL.trans hL', hpF, hpL⟩

/-- Two tables, each with its object stores, hold the same state: the same settings, the same
partitions, which form one tree, and the same file records, each read up to order. -/
structure SameState (a b : TableStore × ObjectStores) : Prop where
  settings : SameSettings a.1 b.1
  partitions : ∃ S, Partition.Rooted S ∧ ReadsPartitions a S ∧ ReadsPartitions b S
  files : ∃ FL, ReadsFiles a FL ∧ ReadsFiles b FL

/-- A table ready for a change that both backends can make: its partitions stored, its file
records kept and consistent, its series apart, the object stores consistent and fitting the
columns, and a token left for a new revision. -/
structure Ready (r : TableStore × ObjectStores) : Prop where
  partitions : r.1.PartitionsStored r.2
  filesKept : r.1.FilesKept
  filesWF : r.1.FilesWF
  apart : r.1.SeriesApart
  encodable : r.2.Encodable
  objectsWF : r.2.FilesWF
  room : r.2.tokens + 1 < Nat.pow 2 64

theorem Ready.records_wf (h : Ready r) {F L : List FileRecord}
    (hF : r.1.fileInPartitionRecords r.2 = .ok F) (hL : r.1.lifecycleRecords r.2 = .ok L) :
    FileRecordsWF F L :=
  h.filesWF.records_wf h.objectsWF hF hL

section Agree

variable {a b ra rb : TableStore × ObjectStores} (h : SameState a b) (ka : Ready a) (kb : Ready b)
include h ka kb

/-- After changes of the file records, two tables that held the same state hold it again once
they read the same file records. -/
theorem SameState.of_filesSteps (hsa : FilesStep a.1 a.2 ra) (hsb : FilesStep b.1 b.2 rb)
    {FL : List FileRecord × List FileRecord} (hra : ReadsFiles ra FL) (hrb : ReadsFiles rb FL) :
    SameState ra rb := by
  obtain ⟨S, hS, hpa, hpb⟩ := h.partitions
  refine ⟨hsa.sameSettings.trans (h.settings.trans hsb.sameSettings.symm), ⟨S, hS, ?_, ?_⟩,
    ⟨FL, hra, hrb⟩⟩
  · exact hpa.congr (hsa.allPartitions ka.partitions ka.apart)
  · exact hpb.congr (hsb.allPartitions kb.partitions kb.apart)

/-- After splits, two tables that held the same state hold it again once they read the same
partitions, which form one tree. -/
theorem SameState.of_splitSteps (hsa : SplitStep a.1 a.2 ra) (hsb : SplitStep b.1 b.2 rb)
    {S : List Partition} (hS : Partition.Rooted S) (hra : ReadsPartitions ra S)
    (hrb : ReadsPartitions rb S) : SameState ra rb := by
  obtain ⟨FL, hfa, hfb⟩ := h.files
  obtain ⟨hFa, hLa⟩ := hsa.fileReads ka.partitions ka.apart
  obtain ⟨hFb, hLb⟩ := hsb.fileReads kb.partitions kb.apart
  exact ⟨hsa.sameSettings.trans (h.settings.trans hsb.sameSettings.symm), ⟨S, hS, hra, hrb⟩,
    ⟨FL, hfa.congr hFa hLa, hfb.congr hFb hLb⟩⟩

/-- A split keeps two tables holding the same state, when the columns hold its dimensions. -/
theorem SameState.split (now : Int) {parent c1 c2 : Partition}
    (hfit : ∀ p ∈ [parent, c1, c2], p.DimensionFits) :
    Except.Rel SameState (Except.committed (a.1.changePart a.2 now (.split parent c1 c2)))
      (Except.committed (b.1.changePart b.2 now (.split parent c1 c2))) := by
  obtain ⟨S, hS, ⟨Sa, hSa, hpa⟩, ⟨Sb, hSb, hpb⟩⟩ := h.partitions
  have hroot := hS.perm hpa.symm
  -- each table follows the outcome among the partitions it reads, and the outcomes agree
  have hA := ((split_agrees ka.partitions ka.encodable now hSa hfit ka.room).and_left
    fun _ h => changePart_splitStep (Except.committed_eq_ok.1 h)).and_right
    fun _ => hroot.splitOutcome
  have hB := (split_agrees kb.partitions kb.encodable now hSb hfit kb.room).and_left
    fun _ h => changePart_splitStep (Except.committed_eq_ok.1 h)
  have hAB := Partition.splitOutcome_perm hroot.ids_nodup (hpa.trans hpb.symm) parent c1 c2
  refine (hA.follow hAB hB).mono ?_
  rintro ra rb ⟨Sa', Sb', ⟨⟨hra, hsa⟩, hroot'⟩, hperm, hrb, hsb⟩
  exact h.of_splitSteps ka kb hsa hsb hroot' hra (ReadsPartitions.perm hrb hperm.symm)

/-- A change of the file records that adds, replaces or claims files keeps two tables holding
the same state, but for the file that a refusal of an existing file names, when the new counts
fit a signed 64-bit integer and the time fits one too. -/
theorem SameState.fileEdit {now : Int} {c : TableChange} (hc : c.isFileEdit = true)
    (hfiles : c.changesFiles = true) (hfit : ∀ f ∈ c.newFiles, f.CountFits)
    (hnow : isInstant now = true) :
    UpToClash SameState (Except.committed (a.1.changePart a.2 now c))
      (Except.committed (b.1.changePart b.2 now c)) := by
  obtain ⟨FL, ⟨Fa, La, hFa, hLa, hpFa, hpLa⟩, ⟨Fb, Lb, hFb, hLb, hpFb, hpLb⟩⟩ := h.files
  obtain ⟨ra, hoa, hA⟩ := fileEdit_agrees ka.partitions ka.filesKept ka.encodable ka.objectsWF
    hFa hLa hc hfit hnow ka.room
  obtain ⟨rb, hob, hB⟩ := fileEdit_agrees kb.partitions kb.filesKept kb.encodable kb.objectsWF
    hFb hLb hc hfit hnow kb.room
  -- outcomes among records that differ only in order agree, up to the file a clash names
  have hAB := hoa.agree (ka.records_wf hFa hLa).pairs_nodup (hpFa.trans hpFb.symm)
    (hpLa.trans hpLb.symm) hob
  refine (UpToClash.follow
    (hA.and_left fun _ h => changePart_filesStep hfiles (Except.committed_eq_ok.1 h)) hAB
    (hB.and_left fun _ h => changePart_filesStep hfiles (Except.committed_eq_ok.1 h))).mono ?_
  rintro ra' rb' ⟨FLa, FLb, ⟨hra, hsa⟩, ⟨h₁, h₂⟩, hrb, hsb⟩
  exact h.of_filesSteps ka kb hsa hsb hra (hrb.perm h₁.symm h₂.symm)

/-- Marking unreferenced files as pending garbage collection succeeds on both tables and keeps
them holding the same state, when the time fits a signed 64-bit integer. -/
theorem SameState.markGcPending {now : Int} (hnow : isInstant now = true) :
    ∃ ra rb, a.1.changePart a.2 now .markGcPending = (ra, .ok ()) ∧
      b.1.changePart b.2 now .markGcPending = (rb, .ok ()) ∧ SameState ra rb := by
  obtain ⟨FL, ⟨Fa, La, hFa, hLa, hpFa, hpLa⟩, ⟨Fb, Lb, hFb, hLb, hpFb, hpLb⟩⟩ := h.files
  obtain ⟨ta, oa, hA, hra, -⟩ := markGcPending_agrees ka.partitions ka.filesKept ka.encodable
    ka.objectsWF hFa hLa hnow ka.room
  obtain ⟨tb, ob, hB, hrb, -⟩ := markGcPending_agrees kb.partitions kb.filesKept kb.encodable
    kb.objectsWF hFb hLb hnow kb.room
  have hF := hpFb.trans hpFa.symm
  refine ⟨_, _, hA, hB, h.of_filesSteps ka kb (changePart_filesStep rfl hA)
    (changePart_filesStep rfl hB) hra (hrb.perm hF ?_)⟩
  exact FileRecord.markAll_perm hF (hpLb.trans hpLa.symm)

/-- Deleting lifecycle records keeps two tables holding the same state. -/
theorem SameState.deleteLifecycle (now : Int) (names : List String) :
    Except.Rel SameState (Except.committed (a.1.changePart a.2 now (.deleteLifecycle names)))
      (Except.committed (b.1.changePart b.2 now (.deleteLifecycle names))) := by
  obtain ⟨FL, ⟨Fa, La, hFa, hLa, hpFa, hpLa⟩, ⟨Fb, Lb, hFb, hLb, hpFb, hpLb⟩⟩ := h.files
  have hA := (deleteLifecycle_agrees ka.partitions ka.filesKept ka.encodable ka.objectsWF hFa hLa
    ka.room now names).and_left fun _ h => changePart_filesStep rfl (Except.committed_eq_ok.1 h)
  have hB := (deleteLifecycle_agrees kb.partitions kb.filesKept kb.encodable kb.objectsWF hFb hLb
    kb.room now names).and_left fun _ h => changePart_filesStep rfl (Except.committed_eq_ok.1 h)
  have hAB := FileRecord.deleteOutcome_perm (hpLa.trans hpLb.symm) names
  refine (hA.follow hAB hB).mono ?_
  rintro ra rb ⟨La', Lb', ⟨hra, hsa⟩, hperm, hrb, hsb⟩
  exact h.of_filesSteps ka kb hsa hsb hra (hrb.perm (hpFb.trans hpFa.symm) hperm.symm)

/-- A change whose numbers the columns hold keeps two tables holding the same state, but for the
file that a refusal of an existing file names, when the time fits a signed 64-bit integer. -/
theorem SameState.changePart {now : Int} {c : TableChange} (hc : c.FitsColumns)
    (hnow : isInstant now = true) :
    UpToClash SameState (Except.committed (a.1.changePart a.2 now c))
      (Except.committed (b.1.changePart b.2 now c)) := by
  cases c with
  | initialise | initialiseWith _ | initialiseFiles => exact hc.elim
  | split parent c1 c2 => exact .rel (h.split ka kb now hc)
  | addFiles fs => exact h.fileEdit ka kb rfl rfl hc hnow
  | replaceFiles old new => exact h.fileEdit ka kb rfl rfl hc hnow
  | assignJob job fs => exact h.fileEdit ka kb rfl rfl (by simp [TableChange.newFiles]) hnow
  | markGcPending =>
    obtain ⟨ra, rb, hA, hB, hr⟩ := h.markGcPending ka kb hnow
    rw [hA, hB, Except.committed_ok, Except.committed_ok]
    exact .rel (.ok hr)
  | deleteLifecycle names => exact .rel (h.deleteLifecycle ka kb now names)

end Agree

end TableStore

end TableState
