import TableState.Partition.Split
import TableState.Proofs.Partition.Cover

/-!
# Splitting a leaf

`Partition.split` cuts a leaf at a point of one dimension. Its checks come in a fixed order; when
they pass it gives the parent in its split form and two leaves under it, one below the point and
one from it on (`SplitResult.IsSplitOf`). Two facts make such a split a good one:

* the children cut the parent's region, for every key (`SplitResult.IsSplitOf.cutInto`): the
  point has the type of the range's start and lies strictly inside the range, so the upper child
  holds a value and does not start at its type's minimum;
* the split passes the checks that the stores make before they store it
  (`SplitResult.IsSplitOf.validateSplit`), when no id holds NUL and the children's ids differ.

`Partition.split_spec` gathers the outcome of a split over every partition, dimension and point.
-/

set_option autoImplicit false

namespace TableState

namespace Range

theorem strictlyContains_iff {r : Range} {v : KeyValue} :
    r.strictlyContains v = true ↔ r.min < v ∧ ∀ m, r.max = some m → v < m := by
  rw [strictlyContains, Bool.and_eq_true, decide_eq_true_iff, contains_iff]
  exact ⟨fun ⟨hlt, _, hmax⟩ => ⟨hlt, hmax⟩, fun ⟨hlt, hmax⟩ => ⟨hlt, KeyValue.le_of_lt hlt, hmax⟩⟩

end Range

namespace Partition

/-- Replacing a list's element at `d` leaves it equal to the list at every other position, as
the check on the children's regions reads it. -/
theorem zipIdx_all_set (l : List Range) (d : Nat) (x : Range) :
    (((l.set d x).zip l).zipIdx.all fun q => q.2 == d || q.1.1 == q.1.2) = true := by
  rw [List.all_eq_true]
  rintro ⟨⟨a, b⟩, i⟩ hmem
  rw [List.mem_zipIdx_iff_getElem?, List.getElem?_zip_eq_some] at hmem
  obtain ⟨ha, hb⟩ := hmem
  dsimp only at ha hb
  by_cases hi : i = d
  · simp [hi]
  · rw [List.getElem?_set_ne (Ne.symm hi), hb, Option.some.injEq] at ha
    simp [ha]

/-- Children whose regions replace the parent's range at `d` by two ranges that meet inside it
pass the check on the children's regions. -/
theorem childRegionsCover_of_withRange {parent c₁ c₂ : Partition} {d : Nat} {p lo hi : Range}
    (hp : parent.region.ranges[d]? = some p) (h₁ : c₁.region = parent.region.withRange d lo)
    (h₂ : c₂.region = parent.region.withRange d hi) (hm : p.Meets lo hi) :
    childRegionsCover parent c₁ c₂ d = true := by
  have hd : d < parent.region.ranges.length := (List.getElem?_eq_some_iff.1 hp).1
  obtain ⟨hlo, hmid, hmax, hlt⟩ := hm
  -- the lower child is the first: its range starts at the parent's start, below the other's
  have hlt' : p.min < hi.min := hlo ▸ hlt
  unfold childRegionsCover Region.range?
  simp only [List.all_cons, List.all_nil, Bool.and_true, h₁, h₂, hp,
    Region.getElem?_withRange_self hd, Region.length_withRange]
  simp [KeyValue.le_of_lt hlt', hlt', hlo, hmid, hmax, Region.withRange, zipIdx_all_set]

end Partition

namespace SplitResult

/-- `res` splits `P` at `v` along `d`, whose range there is `r`: the parent is `P` in its split
form, and the children are leaves under `P` that take the range from its start up to `v` and from
`v` on to its end. -/
structure IsSplitOf (res : SplitResult) (P : Partition) (d : Nat) (r : Range) (v : KeyValue) :
    Prop where
  parent : res.parent =
    { P with isLeaf := false, childIds := [res.left.id, res.right.id], splitDimension := some d }
  left_leaf : res.left.isLeaf = true ∧ res.left.childIds = [] ∧ res.left.parentId = some P.id
  right_leaf : res.right.isLeaf = true ∧ res.right.childIds = [] ∧ res.right.parentId = some P.id
  left_region : res.left.region = P.region.withRange d ⟨r.field, r.min, some v⟩
  right_region : res.right.region = P.region.withRange d ⟨r.field, v, r.max⟩

variable {res : SplitResult} {P : Partition} {d : Nat} {r : Range} {v : KeyValue}

/-- Strictly inside the range, the two halves of a split meet inside it. -/
theorem meets_of_strictlyContains (hin : r.strictlyContains v = true) :
    r.Meets ⟨r.field, r.min, some v⟩ ⟨r.field, v, r.max⟩ :=
  ⟨rfl, rfl, rfl, (Range.strictlyContains_iff.1 hin).1⟩

/-- A split at a point of the range's type, strictly inside the range, cuts the parent's region
for every key. -/
theorem IsSplitOf.cutInto (h : res.IsSplitOf P d r v) (hr : P.region.range? d = some r)
    (htype : r.min.keyType = v.keyType) (hin : r.strictlyContains v = true) :
    P.region.CutInto res.left.region res.right.region := by
  have hd : d < P.region.ranges.length := (List.getElem?_eq_some_iff.1 hr).1
  obtain ⟨hlt, hmax⟩ := Range.strictlyContains_iff.1 hin
  rw [h.left_region, h.right_region]
  refine Region.cutInto_of_ranges hr (Region.getElem?_withRange_self hd _)
    (Region.getElem?_withRange_self hd _) (fun i hi => Region.getElem?_withRange_ne hi _)
    (fun i hi => Region.getElem?_withRange_ne hi _)
    ((meets_of_strictlyContains hin).admits_cut hmax ?_)
  -- the point lies above the range's start, in its type, so it is not that type's minimum
  exact KeyValue.ne_minValue_of_lt hlt htype.symm

/-- A split strictly inside the range passes the checks on a split, when no id holds NUL and the
children's ids differ. -/
theorem IsSplitOf.validateSplit (h : res.IsSplitOf P d r v) (hr : P.region.range? d = some r)
    (hin : r.strictlyContains v = true)
    (hids : ∀ id ∈ [P.id, res.left.id, res.right.id], '\x00' ∉ id.toList)
    (hne : res.left.id ≠ res.right.id) :
    Partition.validateSplit res.parent res.left res.right = .ok () := by
  have hparent_id : res.parent.id = P.id := by rw [h.parent]
  have hp : res.parent.region.ranges[d]? = some r := by
    rw [h.parent]
    exact hr
  have hleft : res.left.region = res.parent.region.withRange d ⟨r.field, r.min, some v⟩ := by
    rw [h.left_region, h.parent]
  have hright : res.right.region = res.parent.region.withRange d ⟨r.field, v, r.max⟩ := by
    rw [h.right_region, h.parent]
  have hcover : Partition.childRegionsCover res.parent res.left res.right d = true :=
    Partition.childRegionsCover_of_withRange hp hleft hright (meets_of_strictlyContains hin)
  refine Partition.validateSplit_eq_ok_iff.2 ⟨hparent_id ▸ hids, d, by rw [h.parent], by rw [h.parent],
    by rw [h.parent], hne, ?_, hcover⟩
  simp only [List.mem_cons, List.not_mem_nil, or_false, forall_eq_or_imp, forall_eq,
    hparent_id]
  obtain ⟨hl₁, hl₂, hl₃⟩ := h.left_leaf
  obtain ⟨hr₁, hr₂, hr₃⟩ := h.right_leaf
  exact ⟨⟨hl₃, hl₁, hl₂⟩, hr₃, hr₁, hr₂⟩

end SplitResult

namespace Partition

/-- A split of a leaf strictly inside its range is the split of `IsSplitOf`, with the ids
given. -/
theorem split_eq_ok {P : Partition} {d : Nat} {v : KeyValue} {r : Range} (leftId rightId : String)
    (hleaf : P.isLeaf = true) (hr : P.region.range? d = some r) (htype : r.min.keyType = v.keyType)
    (hin : r.strictlyContains v = true) :
    ∃ res, P.split d v leftId rightId = .ok res ∧ res.IsSplitOf P d r v ∧
      res.left.id = leftId ∧ res.right.id = rightId := by
  refine ⟨⟨P.intoSplit [leftId, rightId] d,
    leaf leftId (P.region.withRange d ⟨r.field, r.min, some v⟩) (some P.id),
    leaf rightId (P.region.withRange d ⟨r.field, v, r.max⟩) (some P.id)⟩, ?_,
    ⟨rfl, ⟨rfl, rfl, rfl⟩, ⟨rfl, rfl, rfl⟩, rfl, rfl⟩, rfl, rfl⟩
  simp [split, hleaf, hr, htype, hin]

/-- A split of `P` at `v` along `d` fails with the first check that fails, in order: `P` is not
a leaf, its region has no range at `d`, `v` has another type than the range's start, `v` does
not lie strictly inside the range. Otherwise it splits `P` there with the children's ids given;
the children cut `P`'s region, so that every key, of any length and with values of any types,
lies in `P`'s region exactly when it lies in one child's; and the split passes the checks on a
split when no id holds NUL and the children's ids differ. -/
theorem split_spec (P : Partition) (d : Nat) (v : KeyValue) (leftId rightId : String) :
    (P.isLeaf = false → P.split d v leftId rightId = .error (.notALeaf P.id)) ∧
    (P.isLeaf = true → P.region.range? d = none →
      P.split d v leftId rightId = .error (.noSuchDimension d)) ∧
    (∀ r, P.isLeaf = true → P.region.range? d = some r → r.min.keyType ≠ v.keyType →
      P.split d v leftId rightId = .error (.keyTypeMismatch r.min.keyType v.keyType)) ∧
    (∀ r, P.isLeaf = true → P.region.range? d = some r → r.min.keyType = v.keyType →
      r.strictlyContains v = false →
      P.split d v leftId rightId = .error (.splitPointOutsidePartition P.id)) ∧
    (∀ r, P.isLeaf = true → P.region.range? d = some r → r.min.keyType = v.keyType →
      r.strictlyContains v = true →
      ∃ res, P.split d v leftId rightId = .ok res ∧ res.IsSplitOf P d r v ∧
        res.left.id = leftId ∧ res.right.id = rightId ∧
        P.region.CutInto res.left.region res.right.region ∧
        ((∀ id ∈ [P.id, leftId, rightId], '\x00' ∉ id.toList) → leftId ≠ rightId →
          validateSplit res.parent res.left res.right = .ok ())) := by
  refine ⟨fun hleaf => by simp [split, hleaf], fun hleaf hr => by simp [split, hleaf, hr],
    fun r hleaf hr htype => by simp [split, hleaf, hr, htype],
    fun r hleaf hr htype hin => by simp [split, hleaf, hr, htype, hin], ?_⟩
  intro r hleaf hr htype hin
  obtain ⟨res, hsplit, h, hl, hr'⟩ := split_eq_ok leftId rightId hleaf hr htype hin
  refine ⟨res, hsplit, h, hl, hr', h.cutInto hr htype hin, fun hids hne => ?_⟩
  subst hl hr'
  exact h.validateSplit hr hin hids hne

/-- The root of a long key split at 50 into leaves named `left` and `right`: the split succeeds,
passes the checks on a split, and cuts the root's region. -/
theorem root_split_at_fifty :
    let root := Partition.root "root" (.single "key" .long)
    ∃ res, root.split 0 (.long 50) "left" "right" = .ok res ∧
      validateSplit res.parent res.left res.right = .ok () ∧
      root.region.CutInto res.left.region res.right.region := by
  intro root
  obtain ⟨res, hsplit, -, -, -, hcut, hcheck⟩ := (split_spec root 0 (.long 50) "left" "right").2.2.2.2
    (Range.full ⟨"key", .long⟩) rfl rfl rfl (by decide)
  exact ⟨res, hsplit, hcheck (by decide) (by decide), hcut⟩

end Partition

end TableState
