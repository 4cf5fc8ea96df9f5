import TableState.Proofs.Session.SameState
import TableState.Proofs.Session.Isolation

/-!
# The two backends answer alike

A session keeps the state of a table on the item backend or on the snapshot backend. Two
sessions whose current tables hold the same state (`Session.Agree`) answer every later step alike
(`Session.Agree.run_alike`), whichever backends they use: a read lists the same partitions and
file records, up to order, and finds the same leaf for a key; a change succeeds on both, or fails
on both with one error but for the file that a refusal of an existing file names; the clock moves
alike; and both runs stop at the same step. One step keeps the two sessions in step
(`Session.Agree.step`), from the agreement of one change on the two tables
(`TableStore.SameState.changePart`) and of one read (`Session.read_answersAlike`).

The agreement needs the numbers of each change to fit the columns of a snapshot: split
dimensions below 2^31 and record counts below 2^63. Past those the item backend stores what the
snapshot backend refuses. It needs each table to keep its partition snapshots apart from its file
snapshots, which a snapshot location with a query or a fragment does not, and a token left for
each step.
-/

set_option autoImplicit false

namespace TableState

namespace TableStore

/-! ## Groups of filenames by partition -/

/-- Groups of filenames by partition alike: a partition has a group in both or in neither, and
its two groups hold the same filenames, in any order. -/
def GroupsAlike (m m' : List (String × List String)) : Prop :=
  ∀ pid, Option.Rel List.Perm (List.lookup pid m) (List.lookup pid m')

theorem lookup_cons_eq_ite (pid k : String) (names : List String)
    (rest : List (String × List String)) :
    List.lookup pid ((k, names) :: rest) =
      if pid = k then some names else List.lookup pid rest := by
  rw [List.lookup_cons]
  split <;> simp_all

theorem lookup_addToGroup (q n pid : String) : ∀ m : List (String × List String),
    List.lookup pid (addToGroup q n m) =
      if q = pid then some ((List.lookup pid m).getD [] ++ [n]) else List.lookup pid m
  | [] => by
    by_cases h : q = pid
    · simp [addToGroup, h]
    · simp [addToGroup, lookup_cons_eq_ite, h, Ne.symm h]
  | (k, names) :: rest => by
    by_cases hk : k = q
    · -- the group of `q` comes first and takes the filename
      subst hk
      by_cases h : k = pid
      · simp [addToGroup, h]
      · simp [addToGroup, lookup_cons_eq_ite, h, Ne.symm h]
    · rw [addToGroup, if_neg hk, lookup_cons_eq_ite, lookup_cons_eq_ite,
        lookup_addToGroup q n pid rest]
      by_cases h : pid = k
      · subst h
        simp [Ne.symm hk]
      · simp [h]

/-- The group of a partition after grouping more records: its filenames, in listing order, after
those it had. -/
theorem lookup_foldl_addToGroup (pid : String) :
    ∀ (fs : List FileRecord) (m : List (String × List String)),
      List.lookup pid (fs.foldl (fun m f => addToGroup f.partitionId f.filename m) m) =
        if (fs.filter (·.partitionId == pid)).map (·.filename) = [] then List.lookup pid m
        else some ((List.lookup pid m).getD [] ++
          (fs.filter (·.partitionId == pid)).map (·.filename))
  | [], m => by simp
  | f :: fs, m => by
    rw [List.foldl_cons, lookup_foldl_addToGroup pid fs, lookup_addToGroup]
    by_cases h : f.partitionId = pid
    · by_cases hN : (fs.filter (·.partitionId == pid)).map (·.filename) = []
      · simp [h, hN]
      · simp [h, hN]
    · simp [h]

/-- Records in two orders group their filenames alike. -/
theorem groupsAlike_of_perm {F F' : List FileRecord} (hF : F.Perm F') :
    GroupsAlike (F.foldl (fun m f => addToGroup f.partitionId f.filename m) [])
      (F'.foldl (fun m f => addToGroup f.partitionId f.filename m) []) := by
  intro pid
  rw [lookup_foldl_addToGroup, lookup_foldl_addToGroup]
  have hp : ((F.filter (·.partitionId == pid)).map (·.filename)).Perm
      ((F'.filter (·.partitionId == pid)).map (·.filename)) := (hF.filter _).map _
  by_cases hN : (F.filter (·.partitionId == pid)).map (·.filename) = []
  · rw [if_pos hN, if_pos (hN ▸ hp).symm.eq_nil]
    exact .none
  · have hN' : (F'.filter (·.partitionId == pid)).map (·.filename) ≠ [] :=
      fun h' => hN (h' ▸ hp).eq_nil
    rw [if_neg hN, if_neg hN']
    exact .some (hp.append_left _)

end TableStore

/-! ## The leaf for a key -/

namespace PartitionTree

variable {t t' : PartitionTree}

theorem children_congr (hfind : ∀ id, t.find? id = t'.find? id) (id : String) :
    t.children id = t'.children id := by
  simp only [children, hfind]

theorem descend_congr (hfind : ∀ id, t.find? id = t'.find? id) (k : Key) :
    ∀ fuel p, t.descend k fuel p = t'.descend k fuel p
  | 0, _ => rfl
  | fuel + 1, p => by
    simp only [descend, children_congr hfind, descend_congr hfind k fuel]

/-- The descent for a key reads a tree only through the partitions it finds by id, its root and
its size. -/
theorem leafForKey_congr (hfind : ∀ id, t.find? id = t'.find? id) (hroot : t.rootId = t'.rootId)
    (hsize : t.size = t'.size) (k : Key) : t.leafForKey k = t'.leafForKey k := by
  simp only [leafForKey, hroot, hfind, hsize, descend_congr hfind]

/-- The trees of partitions with distinct ids, in two orders, find the same leaf for every
key. -/
theorem leafForKey_perm {rid : String} {S S' : List Partition} (hnd : (S.map (·.id)).Nodup)
    (hp : S.Perm S') (k : Key) :
    (⟨rid, S⟩ : PartitionTree).leafForKey k = (⟨rid, S'⟩ : PartitionTree).leafForKey k := by
  have hfind : ∀ id, (⟨rid, S⟩ : PartitionTree).find? id = (⟨rid, S'⟩ : PartitionTree).find? id :=
    fun id => List.find?_key_perm Partition.id hnd hp id
  exact leafForKey_congr hfind rfl hp.length_eq k

end PartitionTree

namespace Partition

/-- A split along a dimension below 2^31 makes partitions whose split dimensions the columns
hold. -/
theorem split_dimensionFits {p : Partition} {dimension : Nat} {point : KeyValue}
    {leftId rightId : String} {res : SplitResult}
    (h : p.split dimension point leftId rightId = .ok res) (hd : dimension ≤ 2147483647) :
    ∀ q ∈ [res.parent, res.left, res.right], q.DimensionFits := by
  unfold split at h
  split at h
  · cases h
  · split at h
    · cases h
    · split_ifs at h
      cases h
      simp [DimensionFits, intoSplit, leaf, hd]

end Partition

/-! ## Alike answers -/

namespace SessionReply

/-- Two replies alike: equal, but for the order of the partitions, records and filenames they
list, and of the filenames in each group. -/
inductive Alike : SessionReply → SessionReply → Prop
  | refl (r : SessionReply) : Alike r r
  | partitions {ps ps' : List Partition} : ps.Perm ps' → Alike (.partitions ps) (.partitions ps')
  | files {fs fs' : List FileRecord} : fs.Perm fs' → Alike (.files fs) (.files fs')
  | filenames {ns ns' : List String} : ns.Perm ns' → Alike (.filenames ns) (.filenames ns')
  | groups {m m' : List (String × List String)} :
      TableStore.GroupsAlike m m' → Alike (.groups m) (.groups m')

end SessionReply

namespace Session

/-- Two answers to one step alike: alike replies, or one failure, or refusals of an existing
file that may name different files. -/
inductive AnswersAlike : Except StepFailure SessionReply → Except StepFailure SessionReply → Prop
  | ok {r r' : SessionReply} : r.Alike r' → AnswersAlike (.ok r) (.ok r')
  | error (e : StepFailure) : AnswersAlike (.error e) (.error e)
  | clash (n n' : String) :
      AnswersAlike (.error (.failed (.fileAlreadyExists n)))
        (.error (.failed (.fileAlreadyExists n')))

theorem AnswersAlike.refl : ∀ x, AnswersAlike x x
  | .ok r => .ok (.refl r)
  | .error e => .error e

/-- Of two alike answers, one stops a run exactly when the other does. -/
theorem AnswersAlike.stops_eq {x y : Except StepFailure SessionReply} (h : AnswersAlike x y) :
    stops x = stops y := by
  cases h <;> rfl

end Session

/-! ## Steps that fit the columns -/

namespace TableStep

/-- The steps on an initialised table whose numbers the columns of a snapshot hold: changes that
fit the columns, splits of a partition along a dimension below 2^31, and reads. -/
def FitsColumns : TableStep → Prop
  | .change c => c.FitsColumns
  | .initialiseSplitPoints _ _ => False
  | .splitLeaf _ dimension _ _ _ => dimension ≤ 2147483647
  | .read _ => True

end TableStep

namespace SessionStep

/-- The steps of a session that stay on its current table and fit the columns: clock moves, and
steps on the current table that fit the columns. -/
def FitsColumns : SessionStep → Prop
  | .advance _ | .setTime _ => True
  | .onTable none ts => ts.FitsColumns
  | .onTable (some _) _ | .openTable _ | .openYaml _ => False

end SessionStep

namespace TableChange

theorem initialisesTable_of_fitsColumns {c : TableChange} (hc : c.FitsColumns) :
    c.initialisesTable = false := by
  cases c <;> first | rfl | exact hc.elim

end TableChange

namespace Session

variable {s s₁ s₂ : Session} {t₁ t₂ : TableStore}

/-! ## Reads -/

/-- Reads of two tables that hold the same state, at one time, answer alike. -/
theorem read_answersAlike (h : TableStore.SameState (t₁, s₁.objects) (t₂, s₂.objects))
    (hnow : s₁.now = s₂.now) (r : TableRead) : AnswersAlike (s₁.read t₁ r) (s₂.read t₂ r) := by
  obtain ⟨S, hS, ⟨Sa, hSa, hpa⟩, ⟨Sb, hSb, hpb⟩⟩ := h.partitions
  obtain ⟨FL, ⟨Fa, La, hFa, hLa, hpFa, hpLa⟩, ⟨Fb, Lb, hFb, hLb, hpFb, hpLb⟩⟩ := h.files
  dsimp only at hSa hSb hFa hLa hFb hLb
  have hP := hpa.trans hpb.symm
  have hF := hpFa.trans hpFb.symm
  have hL := hpLa.trans hpLb.symm
  have hname : t₁.name = t₂.name := h.settings.name
  have hschema : t₁.schema = t₂.schema := h.settings.schema
  have hgc : t₁.gcDelayMillis = t₂.gcDelayMillis := h.settings.gcDelay
  cases r with
  | allPartitions =>
    simp only [read, hSa, hSb]
    exact .ok (.partitions hP)
  | leafPartitions =>
    simp only [read, TableStore.leafPartitions, hSa, hSb]
    exact .ok (.partitions (hP.filter _))
  | fileInPartitionRecords =>
    simp only [read, hFa, hFb]
    exact .ok (.files hF)
  | unassignedRecords =>
    simp only [read, TableStore.unassignedRecords, hFa, hFb]
    exact .ok (.files (hF.filter _))
  | lifecycleRecords =>
    simp only [read, hLa, hLb]
    exact .ok (.files hL)
  | activeRecords =>
    simp only [read, TableStore.activeRecords, hLa, hLb]
    exact .ok (.files (hL.filter _))
  | readyForGc =>
    simp only [read, TableStore.readyForGc, hLa, hLb, hnow, hgc]
    split
    · exact .ok (.files (hL.filter _))
    · exact .error _
  | readyForGcFilenames =>
    simp only [read, TableStore.readyForGc, hLa, hLb, hnow, hgc]
    split
    · exact .ok (.filenames ((hL.filter _).map _))
    · exact .error _
  | partitionMap =>
    simp only [read, TableStore.partitionMap, hFa, hFb]
    exact .ok (.groups (TableStore.groupsAlike_of_perm hF))
  | leafForKey k =>
    -- both tables make the tree of the one root, over their own order of the partitions
    obtain ⟨r, hr, hnone, -⟩ := hS.root
    simp only [read, hSa, hSb]
    rw [show (Except.ok Sa >>= PartitionTree.ofPartitions) = PartitionTree.ofPartitions Sa from rfl,
      show (Except.ok Sb >>= PartitionTree.ofPartitions) = PartitionTree.ofPartitions Sb from rfl,
      hS.ofPartitions_eq hpa hr hnone, hS.ofPartitions_eq hpb hr hnone]
    dsimp only
    rw [PartitionTree.leafForKey_perm (hS.perm hpa.symm).ids_nodup hP k]
    exact AnswersAlike.refl _
  | tableName =>
    simp only [read, hname]
    exact AnswersAlike.refl _
  | schema =>
    simp only [read, hschema]
    exact AnswersAlike.refl _

/-- Tables that hold the same state start a split from the same partition. -/
theorem splitParent_eq (h : TableStore.SameState (t₁, s₁.objects) (t₂, s₂.objects))
    (sp : SplitParent) : s₁.splitParent t₁ sp = s₂.splitParent t₂ sp := by
  cases sp with
  | given p => rfl
  | stored id =>
    obtain ⟨S, hS, ⟨Sa, hSa, hpa⟩, ⟨Sb, hSb, hpb⟩⟩ := h.partitions
    dsimp only at hSa hSb
    simp only [splitParent, hSa, hSb, bind, Except.bind]
    rw [List.find?_key_perm Partition.id (hS.perm hpa.symm).ids_nodup (hpa.trans hpb.symm)]

/-! ## Sessions in step -/

/-- Two sessions in step: at one time, which the clock holds, each on a current table that keeps
its series apart, the two tables holding the same state. -/
structure Agree (s₁ s₂ : Session) : Prop where
  now : s₁.now = s₂.now
  instant : isInstant s₁.now = true
  tables : ∃ t₁ t₂, s₁.current.bind s₁.provider.find? = some t₁ ∧
    s₂.current.bind s₂.provider.find? = some t₂ ∧ t₁.SeriesApart ∧ t₂.SeriesApart ∧
    TableStore.SameState (t₁, s₁.objects) (t₂, s₂.objects)

/-- What one step gives two sessions in step: alike answers, sessions in step, and at most one
token more on each. -/
def StepsAlike (s₁ s₂ : Session) (r₁ r₂ : Except StepFailure SessionReply × Session) : Prop :=
  AnswersAlike r₁.1 r₂.1 ∧ Agree r₁.2 r₂.2 ∧ r₁.2.objects.tokens ≤ s₁.objects.tokens + 1 ∧
    r₂.2.objects.tokens ≤ s₂.objects.tokens + 1

theorem Agree.stepsAlike_self (h : Agree s₁ s₂) {a₁ a₂ : Except StepFailure SessionReply}
    (ha : AnswersAlike a₁ a₂) : StepsAlike s₁ s₂ (a₁, s₁) (a₂, s₂) :=
  ⟨ha, h, Nat.le_succ _, Nat.le_succ _⟩

/-- The current table of a reachable session, with a token left, is ready for a change. -/
theorem Reachable.ready (hs : s.Reachable) {t : TableStore}
    (ht : s.current.bind s.provider.find? = some t) (hapart : t.SeriesApart)
    (hroom : s.objects.tokens + 1 < Nat.pow 2 64) : TableStore.Ready (t, s.objects) := by
  obtain ⟨n, -, hn⟩ := Option.bind_eq_some_iff.1 ht
  have hmem := Provider.find?_mem hn
  exact ⟨hs.partitionsStored.stores t hmem, TableStore.filesKept_invariant.reachable hs t hmem,
    hs.filesWF.stores t hmem, hapart, hs.partitionsStored.objects, hs.filesWF.objects, hroom⟩

/-- Sessions in step whose current tables are replaced by tables of the same names, that keep
their series apart and hold the same state, stay in step. -/
theorem Agree.replace (h : Agree s₁ s₂) (ht₁ : s₁.current.bind s₁.provider.find? = some t₁)
    (ht₂ : s₂.current.bind s₂.provider.find? = some t₂) {r₁ r₂ : TableStore × ObjectStores}
    (hsame : TableStore.SameState r₁ r₂) (hn₁ : r₁.1.name = t₁.name) (hn₂ : r₂.1.name = t₂.name)
    (ha₁ : r₁.1.SeriesApart) (ha₂ : r₂.1.SeriesApart) :
    Agree { s₁ with provider := s₁.provider.replace r₁.1, objects := r₁.2 }
      { s₂ with provider := s₂.provider.replace r₂.1, objects := r₂.2 } := by
  obtain ⟨n₁, hc₁, hf₁⟩ := Option.bind_eq_some_iff.1 ht₁
  obtain ⟨n₂, hc₂, hf₂⟩ := Option.bind_eq_some_iff.1 ht₂
  refine ⟨h.now, h.instant, r₁.1, r₂.1, ?_, ?_, ha₁, ha₂, hsame⟩
  · simp only [hc₁, Option.bind_some]
    exact Provider.find?_replace_self hf₁ (hn₁.trans (Provider.find?_name hf₁))
  · simp only [hc₂, Option.bind_some]
    exact Provider.find?_replace_self hf₂ (hn₂.trans (Provider.find?_name hf₂))

/-- A change of the current tables that fits the columns answers alike and keeps the sessions in
step. -/
theorem Agree.applyChange (h : Agree s₁ s₂) (hs₁ : s₁.Reachable) (hs₂ : s₂.Reachable)
    (ht₁ : s₁.current.bind s₁.provider.find? = some t₁)
    (ht₂ : s₂.current.bind s₂.provider.find? = some t₂) (ha₁ : t₁.SeriesApart)
    (ha₂ : t₂.SeriesApart) (hsame : TableStore.SameState (t₁, s₁.objects) (t₂, s₂.objects))
    {c : TableChange} (hc : c.FitsColumns) (hr₁ : s₁.objects.tokens + 1 < Nat.pow 2 64)
    (hr₂ : s₂.objects.tokens + 1 < Nat.pow 2 64) :
    StepsAlike s₁ s₂ (s₁.applyChange t₁ c) (s₂.applyChange t₂ c) := by
  have ka := hs₁.ready ht₁ ha₁ hr₁
  have kb := hs₂.ready ht₂ ha₂ hr₂
  have hagree : UpToClash TableStore.SameState
      (Except.committed (t₁.changePart s₁.objects s₁.now c))
      (Except.committed (t₂.changePart s₂.objects s₂.now c)) := by
    rw [← h.now]
    exact hsame.changePart ka kb hc h.instant
  have hci := TableChange.initialisesTable_of_fitsColumns hc
  rw [applyChange_eq, applyChange_eq, TableStore.change_of_not_initialises hci,
    TableStore.change_of_not_initialises hci]
  -- a failed change leaves both tables and the objects as they were
  have hfail : ∀ {a₁ a₂ : Except StepFailure SessionReply}, AnswersAlike a₁ a₂ →
      StepsAlike s₁ s₂ (a₁, { s₁ with provider := s₁.provider.replace t₁, objects := s₁.objects })
        (a₂, { s₂ with provider := s₂.provider.replace t₂, objects := s₂.objects }) :=
    fun ha => ⟨ha, h.replace ht₁ ht₂ hsame rfl rfl ha₁ ha₂, Nat.le_succ _, Nat.le_succ _⟩
  rcases hA : t₁.changePart s₁.objects s₁.now c with ⟨ra, e₁ | ⟨⟩⟩ <;>
    rcases hB : t₂.changePart s₂.objects s₂.now c with ⟨rb, e₂ | ⟨⟩⟩ <;>
    rw [hA, hB] at hagree
  · obtain rfl := TableStore.changePart_eq_error ka.partitions hA
    obtain rfl := TableStore.changePart_eq_error kb.partitions hB
    cases hagree with
    | rel hrel =>
      cases hrel
      exact hfail (.error _)
    | clash n n' => exact hfail (.clash n n')
  · cases hagree with | rel hrel => cases hrel
  · cases hagree with | rel hrel => cases hrel
  · -- both succeeded, on tables that hold the same state
    cases hagree with
    | rel hrel =>
      cases hrel with
      | ok hr =>
        obtain ⟨-, hapart₁, hle₁⟩ := TableStore.changePart_keeps_settings hc hA
        obtain ⟨-, hapart₂, hle₂⟩ := TableStore.changePart_keeps_settings hc hB
        exact ⟨.ok (.refl _),
          h.replace ht₁ ht₂ hr (TableStore.changePart_follows_of_ok ka.partitions hA).name
            (TableStore.changePart_follows_of_ok kb.partitions hB).name (hapart₁.2 ha₁)
            (hapart₂.2 ha₂), hle₁, hle₂⟩

/-- A step on the current tables that fits the columns answers alike and keeps the sessions in
step. -/
theorem Agree.tableStep (h : Agree s₁ s₂) (hs₁ : s₁.Reachable) (hs₂ : s₂.Reachable)
    (ht₁ : s₁.current.bind s₁.provider.find? = some t₁)
    (ht₂ : s₂.current.bind s₂.provider.find? = some t₂) (ha₁ : t₁.SeriesApart)
    (ha₂ : t₂.SeriesApart) (hsame : TableStore.SameState (t₁, s₁.objects) (t₂, s₂.objects))
    {ts : TableStep} (hts : ts.FitsColumns) (hr₁ : s₁.objects.tokens + 1 < Nat.pow 2 64)
    (hr₂ : s₂.objects.tokens + 1 < Nat.pow 2 64) :
    StepsAlike s₁ s₂ (s₁.tableStep t₁ ts) (s₂.tableStep t₂ ts) := by
  cases ts with
  | change c => exact h.applyChange hs₁ hs₂ ht₁ ht₂ ha₁ ha₂ hsame hts hr₁ hr₂
  | initialiseSplitPoints points idPrefix => exact hts.elim
  | splitLeaf parent dimension point left right =>
    -- both tables start from the same partition, so they make the same split
    simp only [Session.tableStep, splitParent_eq hsame parent]
    split
    · rename_i res hmade
      obtain ⟨p, -, hsplit⟩ := Except.bind_eq_ok.1 hmade
      exact h.applyChange hs₁ hs₂ ht₁ ht₂ ha₁ ha₂ hsame
        (Partition.split_dimensionFits hsplit hts) hr₁ hr₂
    · exact h.stepsAlike_self (.error _)
  | read r => exact h.stepsAlike_self (read_answersAlike hsame h.now r)

theorem step_onTable_current (s : Session) (ts : TableStep) :
    s.step (.onTable none ts) = match s.current.bind s.provider.find? with
      | some t => s.tableStep t ts
      | none => (.error .noSuchTable, s) := rfl

/-- Moving the clocks of two sessions in step to one time answers alike and keeps them in
step. -/
theorem Agree.moveClock (h : Agree s₁ s₂) (time : Int) :
    StepsAlike s₁ s₂ (s₁.moveClock time) (s₂.moveClock time) := by
  unfold Session.moveClock
  split
  · rename_i hinstant
    exact ⟨AnswersAlike.refl _, ⟨rfl, hinstant, h.tables⟩, Nat.le_succ _, Nat.le_succ _⟩
  · exact h.stepsAlike_self (.error _)

/-- One step that fits the columns answers alike on two reachable sessions in step, keeps them
in step, and issues at most one token on each. -/
theorem Agree.step (h : Agree s₁ s₂) (hs₁ : s₁.Reachable) (hs₂ : s₂.Reachable)
    {st : SessionStep} (hst : st.FitsColumns) (hr₁ : s₁.objects.tokens + 1 < Nat.pow 2 64)
    (hr₂ : s₂.objects.tokens + 1 < Nat.pow 2 64) :
    StepsAlike s₁ s₂ (s₁.step st) (s₂.step st) := by
  cases st with
  | openTable props => exact hst.elim
  | openYaml text => exact hst.elim
  | advance millis =>
    show StepsAlike s₁ s₂ (s₁.moveClock (s₁.now + millis)) (s₂.moveClock (s₂.now + millis))
    rw [← h.now]
    exact h.moveClock _
  | setTime millis => exact h.moveClock millis
  | onTable table ts =>
    cases table with
    | some n => exact hst.elim
    | none =>
      obtain ⟨t₁, t₂, ht₁, ht₂, ha₁, ha₂, hsame⟩ := h.tables
      rw [step_onTable_current, step_onTable_current, ht₁, ht₂]
      exact h.tableStep hs₁ hs₂ ht₁ ht₂ ha₁ ha₂ hsame hst hr₁ hr₂

theorem run_cons_of_stops {s : Session} {st : SessionStep} (rest : List SessionStep)
    (h : stops (s.step st).1 = true) : s.run (st :: rest) = none := by
  rcases hs : s.step st with ⟨r, s'⟩
  rw [hs] at h
  simp [run, hs, h]

theorem run_cons_of_goes_on {s : Session} {st : SessionStep} (rest : List SessionStep)
    (h : stops (s.step st).1 = false) :
    s.run (st :: rest) = ((s.step st).2.run rest).map ((s.step st).1 :: ·) := by
  rcases hs : s.step st with ⟨r, s'⟩
  rw [hs] at h
  simp [run, hs, h]

/-- **The backends answer alike.** Take two reachable sessions at one time, which the clock
holds, each on a current table that keeps its partition snapshots apart from its file snapshots,
the two tables holding the same state, on either backend. Every script of reads, clock moves,
splits along dimensions below 2^31, and changes of the file records with counts below 2^63, on
the current table, short enough to leave each session a token per step, gets alike answers on
both: the same answers but for the order of what they list and the file that a refusal of an
existing file names, and both runs stop at the same step. -/
theorem Agree.run_alike (h : Agree s₁ s₂) (hs₁ : s₁.Reachable) (hs₂ : s₂.Reachable)
    (script : List SessionStep) (hfit : ∀ st ∈ script, st.FitsColumns)
    (hroom₁ : s₁.objects.tokens + script.length < Nat.pow 2 64)
    (hroom₂ : s₂.objects.tokens + script.length < Nat.pow 2 64) :
    Option.Rel (List.Forall₂ AnswersAlike) (s₁.run script) (s₂.run script) := by
  induction script generalizing s₁ s₂ with
  | nil => exact .some .nil
  | cons st rest ih =>
    simp only [List.mem_cons, forall_eq_or_imp] at hfit
    simp only [List.length_cons] at hroom₁ hroom₂
    obtain ⟨hans, h', hle₁, hle₂⟩ := h.step hs₁ hs₂ hfit.1 (by omega) (by omega)
    have hrest := ih h' (hs₁.step st) (hs₂.step st) hfit.2 (by omega) (by omega)
    cases hstop : stops (s₁.step st).1
    · rw [run_cons_of_goes_on rest hstop, run_cons_of_goes_on rest (hans.stops_eq ▸ hstop)]
      generalize (s₁.step st).2.run rest = x₁ at hrest ⊢
      generalize (s₂.step st).2.run rest = x₂ at hrest ⊢
      cases hrest with
      | none => exact .none
      | some hl => exact .some (.cons hans hl)
    · -- both runs stop here
      rw [run_cons_of_stops rest hstop, run_cons_of_stops rest (hans.stops_eq ▸ hstop)]
      exact .none

/-- A change of the current table leaves the changed table current. -/
theorem current_after_change {t : TableStore} (ht : s.current.bind s.provider.find? = some t)
    (c : TableChange) :
    (s.step (.onTable none (.change c))).2.current.bind
        (s.step (.onTable none (.change c))).2.provider.find? =
      some (t.change s.objects s.now c).1.1 := by
  obtain ⟨n, hc, hf⟩ := Option.bind_eq_some_iff.1 ht
  rw [step_onTable_current, ht]
  simp only [tableStep, applyChange_eq, hc, Option.bind_some]
  exact Provider.find?_replace_self hf ((TableStore.change_name _ _ c).trans (Provider.find?_name hf))

/-- A fresh session with an initialised item table and one with an initialised snapshot table
under `mem:///t` answer alike a script that adds two files, lists them, moves the clock, splits
the root, finds the leaf of a key and marks unreferenced files. -/
theorem item_and_snapshot_sessions_answer_alike :
    let s₁ := (((Session.start 0).step (.openTable (.new "files" (.single "key" .long)))).2.step
      (.onTable none (.change .initialise))).2
    let s₂ := (((Session.start 0).step (.openTable ⟨"files", .single "key" .long, .snapshot,
        some "mem:///t", 10, true, 100⟩)).2.step
      (.onTable none (.change .initialise))).2
    let script : List SessionStep :=
      [.onTable none (.change (.addFiles [⟨"a.parquet", "root", 10, none, none, .active, none, none⟩,
          ⟨"b.parquet", "root", 20, none, none, .active, none, none⟩])),
        .onTable none (.read .fileInPartitionRecords), .advance 60000,
        .onTable none (.splitLeaf (.stored "root") 0 (.long 0) none none),
        .onTable none (.read (.leafForKey ⟨[.long 5]⟩)), .onTable none (.change .markGcPending)]
    s₁.Reachable ∧ s₂.Reachable ∧ Agree s₁ s₂ ∧ (∀ st ∈ script, st.FitsColumns) ∧
      s₁.objects.tokens + script.length < Nat.pow 2 64 ∧
      s₂.objects.tokens + script.length < Nat.pow 2 64 ∧
      Option.Rel (List.Forall₂ AnswersAlike) (s₁.run script) (s₂.run script) := by
  intro s₁ s₂ script
  have hs₁ : s₁.Reachable := ((Reachable.start 0).step _).step _
  have hs₂ : s₂.Reachable := ((Reachable.start 0).step _).step _
  have hfit : ∀ st ∈ script, st.FitsColumns := by
    simp [script, SessionStep.FitsColumns, TableStep.FitsColumns, TableChange.FitsColumns,
      FileRecord.CountFits]
  have hroom₁ : s₁.objects.tokens + script.length < Nat.pow 2 64 := by decide +kernel
  have hroom₂ : s₂.objects.tokens + script.length < Nat.pow 2 64 := by decide +kernel
  -- the current tables: tables of one name, schema and delay, reading the root partition and no
  -- file records
  let root := Partition.root "root" (.single "key" .long)
  have hreads : ∀ s : Session, (s.current.bind s.provider.find?).map (fun t =>
        (t.name, t.schema.rowKeys, t.gcDelayMillis)) = some ("files", [⟨"key", .long⟩], 600000) →
      (s.current.bind s.provider.find?).map (fun t =>
        (t.allPartitions s.objects, t.fileInPartitionRecords s.objects,
          t.lifecycleRecords s.objects)) = some (.ok [root], .ok [], .ok []) →
      ∃ t, s.current.bind s.provider.find? = some t ∧
        t.name = "files" ∧ t.schema.rowKeys = [⟨"key", .long⟩] ∧
        t.gcDelayMillis = 600000 ∧ t.allPartitions s.objects = .ok [root] ∧
        t.fileInPartitionRecords s.objects = .ok [] ∧ t.lifecycleRecords s.objects = .ok [] := by
    intro s hset hrecords
    obtain ⟨t, ht, hs⟩ := Option.map_eq_some_iff.1 hset
    rw [ht, Option.map_some, Option.some_inj] at hrecords
    simp only [Prod.mk.injEq] at hs hrecords
    exact ⟨t, ht, hs.1, hs.2.1, hs.2.2, hrecords⟩
  obtain ⟨t₁, ht₁, hn₁, hkeys₁, hg₁, hp₁, hf₁, hl₁⟩ :=
    hreads s₁ (by decide +kernel) (by decide +kernel)
  obtain ⟨t₂, ht₂, hn₂, hkeys₂, hg₂, hp₂, hf₂, hl₂⟩ :=
    hreads s₂ (by decide +kernel) (by decide +kernel)
  -- the item table keeps no snapshots
  have hk₁ : t₁.keepsSnapshots = false := by
    have hkeeps : (s₁.current.bind s₁.provider.find?).map TableStore.keepsSnapshots = some false := by
      decide +kernel
    rw [ht₁, Option.map_some, Option.some_inj] at hkeeps
    exact hkeeps
  -- the snapshot table keeps the two series of `mem:///t` apart, as the table opened did
  have ha₂ : t₂.SeriesApart := by
    have hcurrent : ((Session.start 0).step (.openTable ⟨"files", .single "key" .long, .snapshot,
        some "mem:///t", 10, true, 100⟩)).2.current = some "files" := rfl
    have htables : ((Session.start 0).step (.openTable ⟨"files", .single "key" .long, .snapshot,
        some "mem:///t", 10, true, 100⟩)).2.provider.tables =
        [TableStore.build "files" (.single "key" .long) 100 600000 (.snapshot
          (SnapshotTable.ofBase .standard
            ⟨"mem", "", "", some "", none, .segments ["t"], none, none⟩ 5) .empty)] := rfl
    have hopen : ((Session.start 0).step (.openTable ⟨"files", .single "key" .long, .snapshot,
        some "mem:///t", 10, true, 100⟩)).2.current.bind
          ((Session.start 0).step (.openTable ⟨"files", .single "key" .long, .snapshot,
            some "mem:///t", 10, true, 100⟩)).2.provider.find? =
        some (TableStore.build "files" (.single "key" .long) 100 600000 (.snapshot
          (SnapshotTable.ofBase .standard
            ⟨"mem", "", "", some "", none, .segments ["t"], none, none⟩ 5) .empty)) := by
      rw [hcurrent, Option.bind_some, Provider.find?, htables]
      rfl
    have happ : UrlLibrary.standard.Appends
        ⟨"mem", "", "", some "", none, .segments ["t"], none, none⟩ :=
      UrlLibrary.standard_appends_mem (t := "mem:///t") rfl rfl rfl rfl rfl
    have hbuilt : (TableStore.build "files" (.single "key" .long) 100 600000 (.snapshot
        (SnapshotTable.ofBase .standard ⟨"mem", "", "", some "", none, .segments ["t"], none, none⟩
          5) .empty)).SeriesApart :=
      SnapshotTable.seriesApart_ofBase happ UrlLibrary.standard_keepsPaths 5
    -- name the session by its steps, so that the change lemma applies to it as written
    have he₂ : s₂ = (((Session.start 0).step (.openTable ⟨"files", .single "key" .long, .snapshot,
        some "mem:///t", 10, true, 100⟩)).2.step (.onTable none (.change .initialise))).2 := rfl
    rw [he₂, current_after_change hopen .initialise, Option.some_inj] at ht₂
    exact ht₂ ▸ TableStore.change_seriesApart hbuilt _ _ _
  have hnow : s₁.now = s₂.now := by decide +kernel
  have hinstant : isInstant s₁.now = true := by decide +kernel
  -- the rest needs only the facts above: forgetting the steps that made the sessions keeps
  -- unification from running them
  clear_value s₁ s₂ script
  have hschema : t₁.schema = t₂.schema := by
    rcases h₁ : t₁.schema with ⟨keys₁, _⟩
    rcases h₂ : t₂.schema with ⟨keys₂, _⟩
    rw [h₁] at hkeys₁
    rw [h₂] at hkeys₂
    subst hkeys₁ hkeys₂
    rfl
  have hroot : Partition.Rooted [root] :=
    ⟨by simp, ⟨root, List.mem_singleton_self _, rfl, fun q hq _ => List.eq_of_mem_singleton hq⟩⟩
  have hsame : TableStore.SameState (t₁, s₁.objects) (t₂, s₂.objects) :=
    ⟨⟨hn₁.trans hn₂.symm, hschema, hg₁.trans hg₂.symm⟩,
      ⟨[root], hroot, ⟨[root], hp₁, .refl _⟩, ⟨[root], hp₂, .refl _⟩⟩,
      ⟨([], []), ⟨[], [], hf₁, hl₁, .refl _, .refl _⟩, ⟨[], [], hf₂, hl₂, .refl _, .refl _⟩⟩⟩
  have hagree : Agree s₁ s₂ :=
    ⟨hnow, hinstant, t₁, t₂, ht₁, ht₂,
      (TableStore.noLocation_of_keepsSnapshots hk₁).2, ha₂, hsame⟩
  exact ⟨hs₁, hs₂, hagree, hfit, hroom₁, hroom₂, hagree.run_alike hs₁ hs₂ script hfit hroom₁ hroom₂⟩

end Session

end TableState
