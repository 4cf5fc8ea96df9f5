import TableState.Proofs.File.Records
import TableState.Proofs.Partition.Tree

/-!
# Checks on batches of files

A batch of files is checked file by file. The checks on one file come in a fixed order: the
filename is given, the partition id is given, the filename holds no NUL, the partition id holds
no NUL (`FileRecord.IdFault` names each failure); then its file and partition must not have come
earlier in the batch (`FileRecord.Fault`).

The checks accept exactly the well-formed batches (`FileRecord.WellFormedBatch`): every file has
both ids, neither holding NUL, and no file and partition comes twice. Any other batch is refused
with the fault of its first file that fails, the files before it passing
(`FileRecord.validateBatch_eq_error_iff`). New files report a repeated pair as an existing file,
existing records as a record named twice.

The lifecycle records of new files are one per distinct filename, in the order the filenames
first come, each made from the first file of its name (`FileRecord.newLifecycleRecords_spec`).

`FileRecord.batchChecks_exact` gathers these.
-/

set_option autoImplicit false

namespace TableState

namespace FileRecord

/-! ## Well-formed batches and faults -/

/-- A file whose filename and partition id are both given and hold no NUL. -/
def IdsValid (f : FileRecord) : Prop :=
  f.filename ≠ "" ∧ f.partitionId ≠ "" ∧ '\x00' ∉ f.filename.toList ∧ '\x00' ∉ f.partitionId.toList

instance (f : FileRecord) : Decidable f.IdsValid :=
  inferInstanceAs (Decidable (_ ∧ _))

/-- A batch that its checks accept: every file has valid ids, and no file and partition comes
twice. -/
def WellFormedBatch (fs : List FileRecord) : Prop :=
  (∀ f ∈ fs, f.IdsValid) ∧ (fs.map pair).Nodup

instance : DecidablePred WellFormedBatch :=
  fun _ => inferInstanceAs (Decidable (_ ∧ _))

/-- The first check on the ids of a file that fails, in the order of the checks. -/
inductive IdFault (f : FileRecord) : Error → Prop
  | noFilename : f.filename = "" → IdFault f (.missingField "filename")
  | noPartitionId : f.filename ≠ "" → f.partitionId = "" → IdFault f (.missingField "partitionId")
  | nulInFilename : f.filename ≠ "" → f.partitionId ≠ "" → '\x00' ∈ f.filename.toList →
      IdFault f (.invalidIdentifier f.filename)
  | nulInPartitionId : f.filename ≠ "" → f.partitionId ≠ "" → '\x00' ∉ f.filename.toList →
      '\x00' ∈ f.partitionId.toList → IdFault f (.invalidIdentifier f.partitionId)

/-- `Fault repeated earlier f e`: checked after the files `earlier`, the file `f` is refused
with `e`, for a fault of its ids or, with `repeated f`, for a file and partition that came
earlier. -/
inductive Fault (repeated : FileRecord → Error) (earlier : List FileRecord) (f : FileRecord) :
    Error → Prop
  | ids {e : Error} : IdFault f e → Fault repeated earlier f e
  | seenBefore : f.IdsValid → f.pair ∈ earlier.map pair → Fault repeated earlier f (repeated f)

theorem IdFault.not_idsValid {f : FileRecord} {e : Error} (h : IdFault f e) : ¬ f.IdsValid := by
  rintro ⟨hname, hpart, hnulName, hnulPart⟩
  cases h with
  | noFilename h => exact hname h
  | noPartitionId _ h => exact hpart h
  | nulInFilename _ _ h => exact hnulName h
  | nulInPartitionId _ _ _ h => exact hnulPart h

theorem wellFormedBatch_nil : WellFormedBatch [] :=
  ⟨by simp, List.nodup_nil⟩

/-- The files at the front of a well-formed batch form a well-formed batch. -/
theorem WellFormedBatch.of_append {fs gs : List FileRecord} (h : WellFormedBatch (fs ++ gs)) :
    WellFormedBatch fs :=
  ⟨fun f hf => h.1 f (List.mem_append_left gs hf),
    h.2.sublist ((List.sublist_append_left fs gs).map pair)⟩

/-- A well-formed batch grows by a file with valid ids whose pair is new. -/
theorem wellFormedBatch_append_singleton {fs : List FileRecord} {f : FileRecord} :
    WellFormedBatch (fs ++ [f]) ↔ WellFormedBatch fs ∧ f.IdsValid ∧ f.pair ∉ fs.map pair := by
  simp only [WellFormedBatch, List.mem_append, List.mem_singleton, List.map_append, List.map_cons,
    List.map_nil, List.nodup_append, List.nodup_singleton]
  constructor
  · rintro ⟨hids, hnodup, -, hfresh⟩
    exact ⟨⟨fun g hg => hids g (.inl hg), hnodup⟩, hids f (.inr rfl),
      fun hm => hfresh _ hm _ rfl rfl⟩
  · rintro ⟨⟨hids, hnodup⟩, hf, hfresh⟩
    refine ⟨?_, hnodup, trivial, ?_⟩
    · rintro g (hg | rfl)
      · exact hids g hg
      · exact hf
    · rintro x hx y rfl rfl
      exact hfresh hx

/-- Every file of a well-formed batch has valid ids and a pair that no file before it has. -/
theorem WellFormedBatch.passes {fs gs : List FileRecord} {f : FileRecord}
    (h : WellFormedBatch (fs ++ f :: gs)) : f.IdsValid ∧ f.pair ∉ fs.map pair := by
  have hfront : WellFormedBatch (fs ++ [f]) := by
    rw [← List.singleton_append, ← List.append_assoc] at h
    exact h.of_append
  exact (wellFormedBatch_append_singleton.1 hfront).2

/-! ## One file -/

/-- The checks on one file, as the chain of their conditions. -/
theorem validateOne_eq (f : FileRecord) : validateOne f =
    if f.filename = "" then .error (.missingField "filename")
    else if f.partitionId = "" then .error (.missingField "partitionId")
    else if '\x00' ∈ f.filename.toList then .error (.invalidIdentifier f.filename)
    else if '\x00' ∈ f.partitionId.toList then .error (.invalidIdentifier f.partitionId)
    else .ok () := by
  simp only [validateOne, validateIdentifier, List.contains_iff_mem, ← String.isEmpty_iff]
  split_ifs <;> rfl

theorem validateOne_eq_ok_iff {f : FileRecord} : validateOne f = .ok () ↔ f.IdsValid := by
  rw [validateOne_eq, IdsValid]
  split_ifs <;> simp_all

theorem validateOne_eq_error_iff {f : FileRecord} {e : Error} :
    validateOne f = .error e ↔ IdFault f e := by
  constructor
  · intro h
    rw [validateOne_eq] at h
    split_ifs at h with h₁ h₂ h₃ h₄ <;> cases h
    · exact .noFilename h₁
    · exact .noPartitionId h₁ h₂
    · exact .nulInFilename h₁ h₂ h₃
    · exact .nulInPartitionId h₁ h₂ h₃ h₄
  · intro h
    rw [validateOne_eq]
    cases h with
    | noFilename h₁ => simp [h₁]
    | noPartitionId h₁ h₂ => simp [h₁, h₂]
    | nulInFilename h₁ h₂ h₃ => simp [h₁, h₂, h₃]
    | nulInPartitionId h₁ h₂ h₃ h₄ => simp [h₁, h₂, h₃, h₄]

/-! ## Step lemmas -/

section Batch

variable {repeated : FileRecord → Error}

theorem validateBatch_cons_of_error {seen : List (String × String)} {f : FileRecord}
    {fs : List FileRecord} {e : Error} (h : validateOne f = .error e) :
    validateBatch repeated seen (f :: fs) = .error e := by
  simp [validateBatch, h, bind, Except.bind]

theorem validateBatch_cons_of_seen {seen : List (String × String)} {f : FileRecord}
    {fs : List FileRecord} (h : validateOne f = .ok ()) (hs : f.pair ∈ seen) :
    validateBatch repeated seen (f :: fs) = .error (repeated f) := by
  have hs' : (f.filename, f.partitionId) ∈ seen := hs
  simp [validateBatch, h, hs', bind, Except.bind, throw, throwThe, MonadExceptOf.throw]

theorem validateBatch_cons_of_fresh {seen : List (String × String)} {f : FileRecord}
    {fs : List FileRecord} (h : validateOne f = .ok ()) (hs : f.pair ∉ seen) :
    validateBatch repeated seen (f :: fs) = validateBatch repeated (f.pair :: seen) fs := by
  have hs' : (f.filename, f.partitionId) ∉ seen := hs
  simp [validateBatch, h, hs', bind, Except.bind, pair]

/-- The pairs seen after the files `earlier`, latest first, grow by the next file's pair. -/
theorem pair_cons_seen (earlier : List FileRecord) (f : FileRecord) :
    f.pair :: (earlier.map pair).reverse = ((earlier ++ [f]).map pair).reverse := by
  simp

/-! ## Whole batches -/

/-- After well-formed files, the checks pass the rest of a batch exactly when the whole is
well-formed. -/
theorem validateBatch_seen_eq_ok_iff {fs : List FileRecord} :
    ∀ {earlier : List FileRecord}, WellFormedBatch earlier →
      (validateBatch repeated (earlier.map pair).reverse fs = .ok () ↔
        WellFormedBatch (earlier ++ fs)) := by
  induction fs with
  | nil => intro earlier hw; simp [validateBatch, hw]
  | cons f fs ih =>
    intro earlier hw
    cases hone : validateOne f with
    | error e =>
      -- the file fails its own checks, so no batch holding it is well-formed
      rw [validateBatch_cons_of_error hone]
      refine iff_of_false (by simp) fun hwf => ?_
      exact (validateOne_eq_error_iff.1 hone).not_idsValid hwf.passes.1
    | ok u =>
      have hvalid : f.IdsValid := validateOne_eq_ok_iff.1 hone
      by_cases hs : f.pair ∈ (earlier.map pair).reverse
      · rw [validateBatch_cons_of_seen hone hs]
        refine iff_of_false (by simp) fun hwf => ?_
        exact hwf.passes.2 (List.mem_reverse.1 hs)
      · have hw' : WellFormedBatch (earlier ++ [f]) :=
          wellFormedBatch_append_singleton.2 ⟨hw, hvalid, fun h => hs (List.mem_reverse.2 h)⟩
        rw [validateBatch_cons_of_fresh hone hs, pair_cons_seen, ih hw',
          List.append_assoc, List.singleton_append]

/-- The fault of a file that fails its own checks is their error. -/
theorem fault_iff_of_error {earlier : List FileRecord} {f : FileRecord} {e e' : Error}
    (h : validateOne f = .error e') : Fault repeated earlier f e ↔ e = e' := by
  constructor
  · rintro (hid | ⟨hv, -⟩)
    · exact Except.error.inj ((validateOne_eq_error_iff.2 hid).symm.trans h)
    · exact absurd hv (validateOne_eq_error_iff.1 h).not_idsValid
  · rintro rfl
    exact .ids (validateOne_eq_error_iff.1 h)

/-- A file that passes its own checks is at fault only for a pair that came earlier. -/
theorem fault_iff_of_ok {earlier : List FileRecord} {f : FileRecord} {e : Error}
    (h : validateOne f = .ok ()) :
    Fault repeated earlier f e ↔ f.pair ∈ earlier.map pair ∧ e = repeated f := by
  constructor
  · rintro (hid | ⟨-, hm⟩)
    · exact absurd (validateOne_eq_ok_iff.1 h) hid.not_idsValid
    · exact ⟨hm, rfl⟩
  · rintro ⟨hm, rfl⟩
    exact .seenBefore (validateOne_eq_ok_iff.1 h) hm

/-- After well-formed files, the first offender of a batch is its first file, or lies in the
rest after a first file that passes. -/
theorem firstOffender_cons {earlier : List FileRecord} (hw : WellFormedBatch earlier)
    {f : FileRecord} {fs : List FileRecord} {e : Error} :
    (∃ pre g post, f :: fs = pre ++ g :: post ∧ WellFormedBatch (earlier ++ pre) ∧
        Fault repeated (earlier ++ pre) g e) ↔
      Fault repeated earlier f e ∨
        (f.IdsValid ∧ f.pair ∉ earlier.map pair ∧
          ∃ pre g post, fs = pre ++ g :: post ∧ WellFormedBatch (earlier ++ [f] ++ pre) ∧
            Fault repeated (earlier ++ [f] ++ pre) g e) := by
  constructor
  · rintro ⟨_ | ⟨g', pre⟩, g, post, hsplit, hwf, hfault⟩
    · obtain ⟨rfl, rfl⟩ := List.cons.inj hsplit
      exact .inl (by simpa using hfault)
    · obtain ⟨rfl, rfl⟩ := List.cons.inj hsplit
      obtain ⟨hvalid, hfresh⟩ := hwf.passes
      exact .inr ⟨hvalid, hfresh, pre, g, post, rfl, by simpa using hwf, by simpa using hfault⟩
  · rintro (hfault | ⟨-, -, pre, g, post, rfl, hwf, hfault⟩)
    · exact ⟨[], f, fs, rfl, by simpa using hw, by simpa using hfault⟩
    · exact ⟨f :: pre, g, post, rfl, by simpa using hwf, by simpa using hfault⟩

/-- After well-formed files, the checks refuse the rest of a batch with `e` exactly when some
file of it has the fault `e`, the files before it passing. -/
theorem validateBatch_seen_eq_error_iff {e : Error} {fs : List FileRecord} :
    ∀ {earlier : List FileRecord}, WellFormedBatch earlier →
      (validateBatch repeated (earlier.map pair).reverse fs = .error e ↔
        ∃ pre f post, fs = pre ++ f :: post ∧ WellFormedBatch (earlier ++ pre) ∧
          Fault repeated (earlier ++ pre) f e) := by
  induction fs with
  | nil => intro earlier _; simp [validateBatch]
  | cons f fs ih =>
    intro earlier hw
    rw [firstOffender_cons hw]
    cases hone : validateOne f with
    | error e' =>
      -- the file fails its own checks: it is the offender
      have hnot : ¬ f.IdsValid := (validateOne_eq_error_iff.1 hone).not_idsValid
      rw [validateBatch_cons_of_error hone, fault_iff_of_error hone, Except.error.injEq, eq_comm]
      exact (or_iff_left fun h => hnot h.1).symm
    | ok u =>
      have hvalid : f.IdsValid := validateOne_eq_ok_iff.1 hone
      rw [fault_iff_of_ok hone]
      by_cases hs : f.pair ∈ (earlier.map pair).reverse
      · -- its pair came earlier: it is the offender
        have hm : f.pair ∈ earlier.map pair := List.mem_reverse.1 hs
        rw [validateBatch_cons_of_seen hone hs, Except.error.injEq, eq_comm]
        simp [hm]
      · -- it passes, and the offender is among the rest
        have hm : f.pair ∉ earlier.map pair := fun h => hs (List.mem_reverse.2 h)
        have hw' : WellFormedBatch (earlier ++ [f]) :=
          wellFormedBatch_append_singleton.2 ⟨hw, hvalid, hm⟩
        rw [validateBatch_cons_of_fresh hone hs, pair_cons_seen, ih hw',
          or_iff_right fun h => hm h.1, and_iff_right hvalid, and_iff_right hm]

/-- The checks accept exactly the well-formed batches. -/
theorem validateBatch_eq_ok_iff {fs : List FileRecord} :
    validateBatch repeated [] fs = .ok () ↔ WellFormedBatch fs := by
  simpa using @validateBatch_seen_eq_ok_iff repeated fs [] wellFormedBatch_nil

/-- The checks refuse a batch with the fault of its first file that fails. -/
theorem validateBatch_eq_error_iff {fs : List FileRecord} {e : Error} :
    validateBatch repeated [] fs = .error e ↔
      ∃ pre f post, fs = pre ++ f :: post ∧ WellFormedBatch pre ∧ Fault repeated pre f e := by
  simpa using @validateBatch_seen_eq_error_iff repeated e fs [] wellFormedBatch_nil

end Batch

/-! ## Lifecycle records of new files -/

/-- The chosen files' filenames are the batch's filenames not seen before, each once, in the
order they first come. -/
theorem map_filename_firstPerFilename :
    ∀ (seen : List String) (fs : List FileRecord),
      (firstPerFilename seen fs).map filename =
        ((fs.map filename).filter fun n => !seen.contains n).eraseDups
  | _, [] => rfl
  | seen, f :: fs => by
    simp only [firstPerFilename]
    split
    · rename_i hseen
      rw [map_filename_firstPerFilename seen fs, List.map_cons,
        List.filter_cons_of_neg (by simpa using hseen)]
    · rename_i hseen
      -- the first name is kept, and the rest is filtered by the seen names and by it
      rw [List.map_cons, map_filename_firstPerFilename, List.map_cons,
        List.filter_cons_of_pos (by simpa using hseen), List.eraseDups_cons, List.filter_filter]
      simp only [List.contains_cons, Bool.not_or]

/-- Each chosen file is the first of the batch with its filename. -/
theorem find?_firstPerFilename :
    ∀ (seen : List String) (fs : List FileRecord), ∀ g ∈ firstPerFilename seen fs,
      fs.find? (·.filename == g.filename) = some g
  | _, [], g, hg => absurd hg List.not_mem_nil
  | seen, f :: fs, g, hg => by
    simp only [firstPerFilename] at hg
    split at hg
    · rename_i hseen
      -- the skipped file's name was seen, and the chosen file's was not
      have hne : f.filename ≠ g.filename := fun h =>
        (firstPerFilename_names seen fs).2 g hg (by simpa [h] using hseen)
      rw [List.find?_cons_of_neg (by simpa using hne), find?_firstPerFilename seen fs g hg]
    · rcases List.mem_cons.1 hg with rfl | hg
      · simp
      · have hne : f.filename ≠ g.filename := fun h =>
          (firstPerFilename_names _ fs).2 g hg (by simp [h])
        rw [List.find?_cons_of_neg (by simpa using hne), find?_firstPerFilename _ fs g hg]

/-- New files get one lifecycle record per distinct filename, in the order the filenames first
come, each the active record of the first file of its name. -/
theorem newLifecycleRecords_spec (fs : List FileRecord) (time : Int) :
    (newLifecycleRecords fs time).map filename = (fs.map filename).eraseDups ∧
      ∀ r ∈ newLifecycleRecords fs time,
        ∃ f, fs.find? (·.filename == r.filename) = some f ∧ r = f.toActiveLifecycle time := by
  constructor
  · have hname : (filename ∘ fun f => f.toActiveLifecycle time) = filename := rfl
    rw [newLifecycleRecords, List.map_map, hname, map_filename_firstPerFilename]
    simp
  · intro r hr
    obtain ⟨g, hg, rfl⟩ := List.mem_map.1 hr
    exact ⟨g, find?_firstPerFilename [] fs g hg, rfl⟩

/-! ## The checks on new files and on existing records -/

/-- The checks on batches of files accept exactly the well-formed batches, and refuse any other
with the fault of its first file that fails, the files before it passing: for new files a
repeated file and partition is an existing file, for existing records a record named twice.
New files get one lifecycle record per distinct filename, in the order the filenames first
come, each the active record of the first file of its name. -/
theorem batchChecks_exact (fs : List FileRecord) (e : Error) (time : Int) :
    (validateNew fs = .ok () ↔ WellFormedBatch fs) ∧
      (validateNew fs = .error e ↔ ∃ pre f post, fs = pre ++ f :: post ∧ WellFormedBatch pre ∧
        Fault (fun f => .fileAlreadyExists f.filename) pre f e) ∧
      (validateExisting fs = .ok () ↔ WellFormedBatch fs) ∧
      (validateExisting fs = .error e ↔ ∃ pre f post, fs = pre ++ f :: post ∧
        WellFormedBatch pre ∧
        Fault (fun f => .duplicateFileInPartition f.filename f.partitionId) pre f e) ∧
      (newLifecycleRecords fs time).map filename = (fs.map filename).eraseDups ∧
      ∀ r ∈ newLifecycleRecords fs time,
        ∃ f, fs.find? (·.filename == r.filename) = some f ∧ r = f.toActiveLifecycle time :=
  ⟨validateBatch_eq_ok_iff, validateBatch_eq_error_iff, validateBatch_eq_ok_iff,
    validateBatch_eq_error_iff, newLifecycleRecords_spec fs time⟩

example : validateExisting [{ (default : FileRecord) with filename := "a", partitionId := "root" },
    { (default : FileRecord) with filename := "b", partitionId := "root" },
    { (default : FileRecord) with filename := "a", partitionId := "root" }] =
    .error (.duplicateFileInPartition "a" "root") := by rfl

example : validateNew [{ (default : FileRecord) with filename := "a", partitionId := "left" },
    { (default : FileRecord) with filename := "a", partitionId := "right" }] = .ok () := by decide

end FileRecord

end TableState
