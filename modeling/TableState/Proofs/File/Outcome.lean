import TableState.Store.Table
import TableState.Proofs.Snapshot.Records

/-!
# What the file changes do to the file records

Seen apart from its backend, the file records of a table are two lists: the file-in-partition
records `F`, at most one per file and partition, and the lifecycle records `L`, at most one per
file. `FileOutcome F L now c r` says which results `r` a change `c` of the file records may have
at time `now`: the error it fails with, the checks taken in a fixed order, or the records that
follow it.

* Adding files fails with the error of `FileRecord.validateNew`; then with `fileAlreadyExists`
  naming one of the files that clash with the records (`FileRecord.clashes`); otherwise it adds a
  file-in-partition record per file and an active lifecycle record per filename.
* Replacing records fails with the error of `FileRecord.validateExisting` on the old records,
  then with that of `FileRecord.validateNew` on the new files; then with `fileInPartitionMissing`
  for the first old record that is not stored (`FileRecord.firstMissing`); then as adding the new
  files would fail once the old records are gone (`FileRecord.withoutPairs`); otherwise it
  removes the old records and adds the new files.
* Assigning a job fails for an empty job, then with the error of `FileRecord.validateExisting`,
  then for the first file with no record or whose record has a job (`FileRecord.claimBlocker`);
  otherwise it sets the job on every record it names (`FileRecord.withJob`).

Only the file named by a clash is left open: the two backends look for clashes in different
orders.

The snapshot backend keeps both lists in one, and its list operations compute these outcomes on
the lists it holds (`FileRecord.insertFiles_eq`, `FileRecord.removeRecords_cases`,
`FileRecord.claim_eq`), given that no two of its file-in-partition records name the same file and
partition.
-/

set_option autoImplicit false

namespace TableState

namespace FileRecord

/-- Whether one of the records names a file and partition. -/
def hasPair (fs : List FileRecord) (p : String × String) : Bool :=
  fs.any (·.pair == p)

/-- A new file clashes with the records when its file and partition has a file-in-partition
record, or its file has a lifecycle record. -/
def clashes (F L : List FileRecord) (f : FileRecord) : Bool :=
  hasPair F f.pair || L.any (·.filename == f.filename)

/-- The records of `F` whose file and partition none of `old` names. -/
def withoutPairs (F old : List FileRecord) : List FileRecord :=
  F.filter fun r => !hasPair old r.pair

/-- The first of the files `fs` whose file and partition has no record in `F`. -/
def firstMissing (F fs : List FileRecord) : Option FileRecord :=
  fs.find? fun f => !hasPair F f.pair

/-- Why a job cannot take the record of file `f`: it has none in `F`, or its record has a job. -/
def blocker (F : List FileRecord) (f : FileRecord) : Option Error :=
  match F.find? (·.pair == f.pair) with
  | none => some (.fileInPartitionMissing f.filename f.partitionId)
  | some r => if r.jobId.isSome then some (.jobAlreadyAssigned f.filename f.partitionId) else none

/-- Why a job cannot take the records of the files `fs`: the reason of the first that it cannot
take. -/
def claimBlocker (F fs : List FileRecord) : Option Error :=
  fs.findSome? (blocker F)

/-- The records `F` with the job set on each one that the files `fs` name. -/
def withJob (F fs : List FileRecord) (job : String) : List FileRecord :=
  F.map fun r => if hasPair fs r.pair then { r with jobId := some job } else r

/-- A record count that both backends store: below 2^63, so that it fits a signed 64-bit
integer. -/
def CountFits (f : FileRecord) : Prop :=
  f.numberOfRecords.toNat < Nat.pow 2 63

end FileRecord

namespace TableChange

/-- The changes that edit the file records as a client asks: adding, replacing, assigning. -/
def isFileEdit : TableChange → Bool
  | .addFiles _ | .replaceFiles _ _ | .assignJob _ _ => true
  | _ => false

/-- The new files of a change. -/
def newFiles : TableChange → List FileRecord
  | .addFiles fs => fs
  | .replaceFiles _ new => new
  | _ => []

end TableChange

open FileRecord in
/-- The results that a change of the file records `F`, `L` may have at time `now`: an error, or
the file-in-partition records and the lifecycle records that follow. -/
inductive FileOutcome (F L : List FileRecord) (now : Int) :
    TableChange → Except Error (List FileRecord × List FileRecord) → Prop
  | addRefused {fs : List FileRecord} {e : Error} : validateNew fs = .error e →
      FileOutcome F L now (.addFiles fs) (.error e)
  | addClash {fs : List FileRecord} {f : FileRecord} : validateNew fs = .ok () → f ∈ fs →
      clashes F L f = true → FileOutcome F L now (.addFiles fs) (.error (.fileAlreadyExists f.filename))
  | added {fs : List FileRecord} : validateNew fs = .ok () → (∀ f ∈ fs, clashes F L f = false) →
      FileOutcome F L now (.addFiles fs)
        (.ok (F ++ fs.map (·.toFileInPartition now), L ++ newLifecycleRecords fs now))
  | replaceRefusedOld {old new : List FileRecord} {e : Error} : validateExisting old = .error e →
      FileOutcome F L now (.replaceFiles old new) (.error e)
  | replaceRefusedNew {old new : List FileRecord} {e : Error} : validateExisting old = .ok () →
      validateNew new = .error e → FileOutcome F L now (.replaceFiles old new) (.error e)
  | replaceMissing {old new : List FileRecord} {f : FileRecord} : validateExisting old = .ok () →
      validateNew new = .ok () → firstMissing F old = some f →
      FileOutcome F L now (.replaceFiles old new)
        (.error (.fileInPartitionMissing f.filename f.partitionId))
  | replaceClash {old new : List FileRecord} {f : FileRecord} : validateExisting old = .ok () →
      validateNew new = .ok () → firstMissing F old = none → f ∈ new →
      clashes (withoutPairs F old) L f = true →
      FileOutcome F L now (.replaceFiles old new) (.error (.fileAlreadyExists f.filename))
  | replaced {old new : List FileRecord} : validateExisting old = .ok () → validateNew new = .ok () →
      firstMissing F old = none → (∀ f ∈ new, clashes (withoutPairs F old) L f = false) →
      FileOutcome F L now (.replaceFiles old new)
        (.ok (withoutPairs F old ++ new.map (·.toFileInPartition now),
          L ++ newLifecycleRecords new now))
  | assignUnnamed {job : String} {fs : List FileRecord} : job.isEmpty = true →
      FileOutcome F L now (.assignJob job fs) (.error (.missingField "jobId"))
  | assignRefused {job : String} {fs : List FileRecord} {e : Error} : job.isEmpty = false →
      validateExisting fs = .error e → FileOutcome F L now (.assignJob job fs) (.error e)
  | assignBlocked {job : String} {fs : List FileRecord} {e : Error} : job.isEmpty = false →
      validateExisting fs = .ok () → claimBlocker F fs = some e →
      FileOutcome F L now (.assignJob job fs) (.error e)
  | assigned {job : String} {fs : List FileRecord} : job.isEmpty = false →
      validateExisting fs = .ok () → claimBlocker F fs = none →
      FileOutcome F L now (.assignJob job fs) (.ok (withJob F fs job, L))

namespace List

/-- A loop of checks fails with the error of the first element that one finds, and otherwise
passes. -/
theorem forIn_checks {α ε : Type} {l : List α} {body : α → Unit → Except ε (ForInStep Unit)}
    {g : α → Option ε}
    (hbody : ∀ a, body a () = match g a with | some e => .error e | none => .ok (.yield ())) :
    forIn l () body = match l.findSome? g with | some e => .error e | none => .ok () := by
  induction l with
  | nil => rfl
  | cons a l ih =>
    rw [List.forIn_cons, hbody, List.findSome?_cons]
    cases g a with
    | some e => rfl
    | none => exact ih

/-- The first element that a check refuses, found as the first that the check's error is found
for. -/
theorem findSome?_ite {α ε : Type} (l : List α) (p : α → Bool) (E : α → ε) :
    l.findSome? (fun a => if p a then some (E a) else none) = (l.find? p).map E := by
  induction l with
  | nil => rfl
  | cons a l ih =>
    rw [List.findSome?_cons, List.find?_cons]
    cases p a <;> simp [ih]

end List

namespace FileRecord

/-! ## The reference outcomes on one record list -/

section RecordList

variable (rs : List FileRecord)

theorem pair_beq (r f : FileRecord) :
    (r.pair == f.pair) = (r.filename == f.filename && r.partitionId == f.partitionId) := by
  rw [Bool.eq_iff_iff]
  simp [pair, Prod.ext_iff]

theorem not_isLifecycle_eq (r : FileRecord) : (!r.isLifecycle) = (r.status == .fileInPartition) := by
  rw [isLifecycle, bne, Bool.not_not]

/-- The record of a file is a file-in-partition record of its file and partition. -/
theorem recordOf_eq (f : FileRecord) : recordOf f = fun r => !r.isLifecycle && r.pair == f.pair := by
  funext r
  rw [not_isLifecycle_eq, pair_beq]
  rfl

theorem any_recordOf (f : FileRecord) :
    rs.any (recordOf f) = hasPair (rs.filter (!·.isLifecycle)) f.pair := by
  simp only [hasPair, List.any_filter, recordOf_eq]

theorem hasLifecycle_eq (name : String) :
    hasLifecycle rs name = (rs.filter (·.isLifecycle)).any (·.filename == name) := by
  simp only [hasLifecycle, List.any_filter]

theorem find?_recordOf (f : FileRecord) :
    rs.find? (recordOf f) = (rs.filter (!·.isLifecycle)).find? (·.pair == f.pair) := by
  simp only [List.find?_filter, recordOf_eq, Bool.decide_and, Bool.decide_eq_true]

/-- The check of a new file against a record list is its clash with the list's records. -/
theorem insertCheck_eq :
    (fun f => rs.any (recordOf f) || hasLifecycle rs f.filename) =
      clashes (rs.filter (!·.isLifecycle)) (rs.filter (·.isLifecycle)) := by
  funext f
  rw [any_recordOf, hasLifecycle_eq]
  rfl

/-- New files go into a record list when none of them clashes with its records: the first that
clashes is refused. -/
theorem insertFiles_eq (fs : List FileRecord) (now : Int) :
    insertFiles rs fs now =
      match fs.find? (clashes (rs.filter (!·.isLifecycle)) (rs.filter (·.isLifecycle))) with
      | some f => .error (.fileAlreadyExists f.filename)
      | none => .ok (rs ++ fs.map (·.toFileInPartition now) ++ newLifecycleRecords fs now) := by
  have hloop := @List.forIn_checks FileRecord Error fs
    (fun f _ => do
      if rs.any (recordOf f) || hasLifecycle rs f.filename then
        throw (Error.fileAlreadyExists f.filename)
      pure (ForInStep.yield ()))
    (fun f => if rs.any (recordOf f) || hasLifecycle rs f.filename then
      some (Error.fileAlreadyExists f.filename) else none)
    (fun f => by
      by_cases hc : (rs.any (recordOf f) || hasLifecycle rs f.filename) = true <;>
        simp only [hc, if_true, if_false, Bool.false_eq_true] <;> rfl)
  simp only [insertFiles]
  rw [hloop, List.findSome?_ite, insertCheck_eq]
  cases fs.find? _ <;> rfl

/-- A removal finds nothing exactly when no element satisfies the predicate. -/
theorem removeFirst_eq_none_iff (p : FileRecord → Bool) :
    ∀ rs : List FileRecord, removeFirst p rs = none ↔ rs.any p = false
  | [] => by simp [removeFirst]
  | r :: rs => by
    simp only [removeFirst, List.any_cons]
    cases p r <;> simp [removeFirst_eq_none_iff p rs]

/-- A file and partition that another one is not is named by the records left after the other's
are taken out exactly when it was named before. -/
theorem hasPair_filter_ne (F : List FileRecord) {p q : String × String} (hpq : p ≠ q) :
    hasPair (F.filter fun r => r.pair != q) p = hasPair F p := by
  rw [Bool.eq_iff_iff]
  simp only [hasPair, List.any_filter, List.any_eq_true, Bool.and_eq_true, bne_iff_ne, ne_eq,
    beq_iff_eq]
  constructor
  · rintro ⟨r, hr, -, he⟩
    exact ⟨r, hr, he⟩
  · rintro ⟨r, hr, he⟩
    exact ⟨r, hr, he ▸ hpq, he⟩

variable {rs}

/-- Taking the record of a file out of a list whose file-in-partition records name each file and
partition once takes out just the record of that pair, and keeps the lifecycle records. -/
theorem removeFirst_recordOf (hnd : ((rs.filter (!·.isLifecycle)).map pair).Nodup)
    {f : FileRecord} {rs' : List FileRecord} (h : removeFirst (recordOf f) rs = some rs') :
    rs'.filter (!·.isLifecycle) = (rs.filter (!·.isLifecycle)).filter (·.pair != f.pair) ∧
      rs'.filter (·.isLifecycle) = rs.filter (·.isLifecycle) := by
  obtain ⟨xs, r, ys, rfl, rfl, hr⟩ := removeFirst_eq_some h
  rw [recordOf_eq] at hr
  simp only [Bool.and_eq_true, Bool.not_eq_true', beq_iff_eq] at hr
  obtain ⟨hl, hp⟩ := hr
  simp only [List.filter_append, List.filter_cons, hl, Bool.not_false, if_true] at hnd
  -- the other file-in-partition records name other pairs than the one taken out
  rw [List.map_append, List.map_cons, List.nodup_middle, List.nodup_cons, ← List.map_append] at hnd
  have hother : ∀ q ∈ xs.filter (!·.isLifecycle) ++ ys.filter (!·.isLifecycle),
      (q.pair != f.pair) = true := fun q hq => by
    rw [bne_iff_ne, ← hp]
    exact fun he => hnd.1 (he ▸ List.mem_map_of_mem hq)
  constructor
  · simp only [List.filter_append, List.filter_cons, hl, Bool.not_false, if_true]
    rw [if_neg (by simp [hp]),
      List.filter_eq_self.2 fun q hq => hother q (List.mem_append_left _ hq),
      List.filter_eq_self.2 fun q hq => hother q (List.mem_append_right _ hq)]
  · simp only [List.filter_append, List.filter_cons, hl, Bool.false_eq_true, if_false]

/-- Removing the records of the old files from a list whose file-in-partition records name each
file and partition once fails for the first old file with no record, and otherwise takes out
exactly the records the old files name. -/
theorem removeRecords_cases : ∀ {rs old : List FileRecord},
    ((rs.filter (!·.isLifecycle)).map pair).Nodup → (old.map pair).Nodup →
    (∀ f, firstMissing (rs.filter (!·.isLifecycle)) old = some f →
        removeRecords rs old = .error (.fileInPartitionMissing f.filename f.partitionId)) ∧
      (firstMissing (rs.filter (!·.isLifecycle)) old = none → ∃ rs', removeRecords rs old = .ok rs' ∧
        rs'.filter (!·.isLifecycle) = withoutPairs (rs.filter (!·.isLifecycle)) old ∧
        rs'.filter (·.isLifecycle) = rs.filter (·.isLifecycle))
  | rs, [], _, _ => by
    refine ⟨fun f hf => (by cases hf), fun _ => ⟨rs, rfl, ?_, rfl⟩⟩
    simp [withoutPairs, hasPair]
  | rs, f :: old, hnd, hold => by
    rw [List.map_cons, List.nodup_cons] at hold
    simp only [firstMissing, List.find?_cons, removeRecords]
    cases hf : hasPair (rs.filter (!·.isLifecycle)) f.pair with
    | false =>
      -- no record of the first old file: the removal stops there
      have hnone : removeFirst (recordOf f) rs = none := by
        rw [removeFirst_eq_none_iff, any_recordOf, hf]
      simp only [Bool.not_false, hnone]
      exact ⟨fun f' hf' => (by cases hf'; rfl), fun h => (by cases h)⟩
    | true =>
      obtain ⟨rs₁, hrs₁⟩ := Option.ne_none_iff_exists'.1 fun hnone => by
        rw [removeFirst_eq_none_iff, any_recordOf, hf] at hnone
        cases hnone
      obtain ⟨hF₁, hL₁⟩ := removeFirst_recordOf hnd hrs₁
      have hnd₁ : ((rs₁.filter (!·.isLifecycle)).map pair).Nodup := by
        rw [hF₁]
        exact hnd.sublist (List.filter_sublist.map pair)
      -- the later old files name other pairs, so the record taken out does not change their checks
      have hsame : ∀ g ∈ old, hasPair (rs₁.filter (!·.isLifecycle)) g.pair =
          hasPair (rs.filter (!·.isLifecycle)) g.pair := fun g hg => by
        rw [hF₁, hasPair_filter_ne]
        exact fun he => hold.1 (he ▸ List.mem_map_of_mem hg)
      have hmissing : firstMissing (rs₁.filter (!·.isLifecycle)) old =
          firstMissing (rs.filter (!·.isLifecycle)) old := by
        simp only [firstMissing, ← List.head?_filter]
        rw [List.filter_congr fun g hg => by rw [hsame g hg]]
      obtain ⟨ih₁, ih₂⟩ := removeRecords_cases hnd₁ hold.2
      simp only [Bool.not_true, hrs₁]
      refine ⟨fun f' hf' => ih₁ f' (hmissing.trans hf'), fun hnone => ?_⟩
      obtain ⟨rs', hrs', hF', hL'⟩ := ih₂ (hmissing.trans hnone)
      refine ⟨rs', hrs', ?_, hL'.trans hL₁⟩
      rw [hF', hF₁, withoutPairs, withoutPairs, List.filter_filter]
      refine List.filter_congr fun r _ => ?_
      have hcomm : (r.pair == f.pair) = (f.pair == r.pair) := by
        rw [Bool.eq_iff_iff, beq_iff_eq, beq_iff_eq, eq_comm]
      simp only [hasPair, List.any_cons, Bool.not_or, bne, hcomm, Bool.and_comm]

@[simp] theorem pair_setJobId (r : FileRecord) (j : Option String) :
    ({ r with jobId := j } : FileRecord).pair = r.pair :=
  rfl

/-- The records the job is set on: those of the files, each set once. -/
theorem withJob_append (F fs gs : List FileRecord) (job : String) :
    withJob (withJob F fs job) gs job = withJob F (fs ++ gs) job := by
  simp only [withJob, List.map_map]
  refine List.map_congr_left fun r _ => ?_
  simp only [Function.comp, hasPair, List.any_append, Bool.or_eq_true]
  by_cases hf : (fs.any fun x => x.pair == r.pair) = true <;>
    by_cases hg : (gs.any fun x => x.pair == r.pair) = true <;>
    simp [hf, hg]

@[simp] theorem map_pair_withJob (F fs : List FileRecord) (job : String) :
    (withJob F fs job).map pair = F.map pair := by
  simp only [withJob, List.map_map]
  refine List.map_congr_left fun r _ => ?_
  simp only [Function.comp]
  split <;> rfl

/-- Setting the job on the first record of a file, in a list whose file-in-partition records name
each file and partition once, sets it on the one record of that file. -/
theorem setJob_filter (job : String) (f : FileRecord) :
    ∀ {rs : List FileRecord}, ((rs.filter (!·.isLifecycle)).map pair).Nodup →
      (setJob job f rs).filter (!·.isLifecycle) = withJob (rs.filter (!·.isLifecycle)) [f] job
  | [], _ => rfl
  | r :: rs, hnd => by
    simp only [setJob]
    by_cases hr : recordOf f r = true
    · rw [recordOf_eq] at hr
      simp only [Bool.and_eq_true, Bool.not_eq_true', beq_iff_eq] at hr
      simp only [List.filter_cons, hr.1, Bool.not_false, if_true, List.map_cons,
        List.nodup_cons] at hnd
      -- the record of the file is the only one of its pair
      have hrest : ∀ q ∈ rs.filter (!·.isLifecycle), hasPair [f] q.pair = false := fun q hq => by
        simp only [hasPair, List.any_cons, List.any_nil, Bool.or_false, beq_eq_false_iff_ne]
        exact fun he => hnd.1 (hr.2 ▸ he ▸ List.mem_map_of_mem hq)
      have hl : ({ r with jobId := some job } : FileRecord).isLifecycle = false := hr.1
      simp only [if_pos (show recordOf f r = true by rw [recordOf_eq]; simp [hr]),
        List.filter_cons, hl, hr.1, Bool.not_false, if_true, withJob, List.map_cons]
      rw [if_pos (by simp [hasPair, hr.2])]
      congr 1
      rw [List.map_congr_left fun q hq => if_neg (by rw [hrest q hq]; decide), List.map_id']
    · rw [if_neg hr]
      by_cases hl : r.isLifecycle = true
      · simp only [List.filter_cons, hl, Bool.not_true, Bool.false_eq_true, if_false] at hnd ⊢
        exact setJob_filter job f hnd
      · simp only [Bool.not_eq_true] at hl
        simp only [List.filter_cons, hl, Bool.not_false, if_true, List.map_cons,
          List.nodup_cons] at hnd ⊢
        simp only [withJob, List.map_cons] at ⊢
        rw [setJob_filter job f hnd.2]
        congr 1
        rw [if_neg]
        intro hp
        simp only [hasPair, List.any_cons, List.any_nil, Bool.or_false, beq_iff_eq] at hp
        exact hr (by rw [recordOf_eq]; simp [hl, hp])

/-- Setting the job on the records of the files in turn sets it on every record they name. -/
theorem foldl_setJob_filter (job : String) :
    ∀ (fs : List FileRecord) {rs : List FileRecord}, ((rs.filter (!·.isLifecycle)).map pair).Nodup →
      (fs.foldl (fun rs f => setJob job f rs) rs).filter (!·.isLifecycle) =
        withJob (rs.filter (!·.isLifecycle)) fs job
  | [], rs, _ => by
    simp [withJob, hasPair]
  | f :: fs, rs, hnd => by
    have hnd₁ : (((setJob job f rs).filter (!·.isLifecycle)).map pair).Nodup := by
      rw [setJob_filter job f hnd, map_pair_withJob]
      exact hnd
    rw [List.foldl_cons, foldl_setJob_filter job fs hnd₁, setJob_filter job f hnd, withJob_append]
    rfl

/-- A job takes the records of the files when none of them blocks it: the first that does is
refused. -/
theorem claim_eq (job : String) (fs : List FileRecord) :
    claim rs job fs = match claimBlocker (rs.filter (!·.isLifecycle)) fs with
      | some e => .error e
      | none => .ok (fs.foldl (fun rs f => setJob job f rs) rs) := by
  simp only [claim]
  rw [List.forIn_checks (g := blocker (rs.filter (!·.isLifecycle))) fun f => ?_]
  · simp only [claimBlocker]
    cases fs.findSome? _ <;> rfl
  · rw [find?_recordOf, blocker]
    cases (rs.filter (!·.isLifecycle)).find? (·.pair == f.pair) with
    | none => rfl
    | some r =>
      dsimp only
      cases r.jobId.isSome <;> rfl

/-! ## Outcomes of the list operations -/

/-- A record list holds the file-in-partition records and the lifecycle records of an outcome. -/
def Holds (rs : List FileRecord) (FL : List FileRecord × List FileRecord) : Prop :=
  rs.filter (!·.isLifecycle) = FL.1 ∧ rs.filter (·.isLifecycle) = FL.2

section Holds

variable (fs : List FileRecord) (now : Int)

@[simp] theorem filter_fileInPartition_toFileInPartition :
    (fs.map (·.toFileInPartition now)).filter (!·.isLifecycle) = fs.map (·.toFileInPartition now) :=
  List.filter_eq_self.2 (by simp)

@[simp] theorem filter_lifecycle_toFileInPartition :
    (fs.map (·.toFileInPartition now)).filter (·.isLifecycle) = [] :=
  List.filter_eq_nil_iff.2 (by simp)

@[simp] theorem filter_fileInPartition_newLifecycleRecords :
    (newLifecycleRecords fs now).filter (!·.isLifecycle) = [] :=
  List.filter_eq_nil_iff.2 (by simp [newLifecycleRecords])

@[simp] theorem filter_lifecycle_newLifecycleRecords :
    (newLifecycleRecords fs now).filter (·.isLifecycle) = newLifecycleRecords fs now :=
  List.filter_eq_self.2 (by simp [newLifecycleRecords])

/-- The records of new files appended to a list are held as records added to its own. -/
theorem holds_append_new (rs : List FileRecord) :
    Holds (rs ++ fs.map (·.toFileInPartition now) ++ newLifecycleRecords fs now)
      (rs.filter (!·.isLifecycle) ++ fs.map (·.toFileInPartition now),
        rs.filter (·.isLifecycle) ++ newLifecycleRecords fs now) := by
  constructor <;> simp [List.filter_append]

end Holds

/-- Inserting checked new files into a record list has an outcome of adding them. -/
theorem insertFiles_outcome {fs : List FileRecord} (hv : validateNew fs = .ok ()) (now : Int) :
    ∃ r, FileOutcome (rs.filter (!·.isLifecycle)) (rs.filter (·.isLifecycle)) now (.addFiles fs) r ∧
      Except.Rel Holds (insertFiles rs fs now) r := by
  rw [insertFiles_eq]
  cases hfind : fs.find? (clashes (rs.filter (!·.isLifecycle)) (rs.filter (·.isLifecycle))) with
  | some f =>
    exact ⟨_, .addClash hv (List.mem_of_find?_eq_some hfind) (List.find?_some hfind), .error _⟩
  | none =>
    have hfree : ∀ f ∈ fs, clashes (rs.filter (!·.isLifecycle)) (rs.filter (·.isLifecycle)) f = false :=
      fun f hf => by simpa using List.find?_eq_none.1 hfind f hf
    exact ⟨_, .added hv hfree, .ok (holds_append_new fs now rs)⟩

/-- Replacing checked records by checked new files in a record list whose file-in-partition
records name each file and partition once has an outcome of replacing them. -/
theorem replace_outcome (hnd : ((rs.filter (!·.isLifecycle)).map pair).Nodup)
    {old new : List FileRecord} (hvo : validateExisting old = .ok ())
    (hvn : validateNew new = .ok ()) (now : Int) :
    ∃ r, FileOutcome (rs.filter (!·.isLifecycle)) (rs.filter (·.isLifecycle)) now
        (.replaceFiles old new) r ∧
      Except.Rel Holds (removeRecords rs old >>= fun rs₁ => insertFiles rs₁ new now) r := by
  obtain ⟨hmissing, hremoved⟩ := removeRecords_cases hnd (validateBatch_pairs hvo).1
  cases hfirst : firstMissing (rs.filter (!·.isLifecycle)) old with
  | some f =>
    rw [hmissing f hfirst]
    exact ⟨_, .replaceMissing hvo hvn hfirst, .error _⟩
  | none =>
    obtain ⟨rs₁, hrs₁, hF₁, hL₁⟩ := hremoved hfirst
    rw [hrs₁]
    obtain ⟨r, hr, hrel⟩ := @insertFiles_outcome rs₁ new hvn now
    rw [hF₁, hL₁] at hr
    -- the insertion into what is left is the insertion of the reference outcome
    cases hr with
    | addClash _ hf hclash => exact ⟨_, .replaceClash hvo hvn hfirst hf hclash, hrel⟩
    | added _ hfree =>
      exact ⟨_, .replaced hvo hvn hfirst hfree, hrel⟩
    | addRefused hv' => rw [hvn] at hv'; cases hv'

/-- Claiming checked records of a record list whose file-in-partition records name each file and
partition once has an outcome of assigning the job. -/
theorem claim_outcome (hnd : ((rs.filter (!·.isLifecycle)).map pair).Nodup) {job : String}
    {fs : List FileRecord} (hjob : job.isEmpty = false) (hv : validateExisting fs = .ok ())
    (now : Int) :
    ∃ r, FileOutcome (rs.filter (!·.isLifecycle)) (rs.filter (·.isLifecycle)) now
        (.assignJob job fs) r ∧ Except.Rel Holds (claim rs job fs) r := by
  rw [claim_eq]
  cases hb : claimBlocker (rs.filter (!·.isLifecycle)) fs with
  | some e => exact ⟨_, .assignBlocked hjob hv hb, .error e⟩
  | none =>
    exact ⟨_, .assigned hjob hv hb,
      .ok ⟨foldl_setJob_filter job fs hnd, (foldl_setJob job fs rs).1⟩⟩

end RecordList

end FileRecord

end TableState
