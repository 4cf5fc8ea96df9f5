import TableState.Proofs.Partition.Tree

/-!
# Regions cut in two, for keys of every length

`Region.SplitInto` is the law of a split for keys with a value at every dimension. A key may also
be shorter than a region, and its values may have any type: where a key has no value, a region
admits it when its range there starts at the minimum of its type. Two regions *cut* a region
(`Region.CutInto`) when every key, of any length and with values of any types, lies in the region
exactly when it lies in one of the two, and never lies in both.

The checks on a split (`Partition.validateSplit`) compare the children's ranges at the split
dimension by equalities of their bounds and one comparison of their starts. That passes children
that do not cut the parent in two ways. The upper child's range may end below where it starts, so
that the lower child reaches past the parent's end. And the upper child's range may start at the
minimum of a type other than the parent's, so that it admits keys without a value there, which
the lower child admits too when the parent does. When the children's ranges at the split
dimension hold values and start with values of the parent's type (`Partition.SplitRangesTyped`),
the checks make the children cut the parent (`Partition.cutInto_of_validateSplit`).
-/

set_option autoImplicit false

namespace TableState

namespace KeyValue

/-- A value above another value of its type is not its type's minimum. -/
theorem ne_minValue_of_lt {a b : KeyValue} (hlt : a < b) (htype : b.keyType = a.keyType) :
    b ≠ b.keyType.minValue := by
  intro hb
  have hle : b ≤ a := by
    rw [hb, htype]
    exact minValue_le a
  exact not_lt.2 hle hlt

end KeyValue

namespace Range

/-- Ranges that meet inside `p` cut it in two for every value and for a missing one, when the
upper range holds a value and does not start at the minimum of its type. -/
theorem Meets.admits_cut {p lo hi : Range} (h : p.Meets lo hi) (hne : hi.Nonempty)
    (hmin : hi.min ≠ hi.min.keyType.minValue) (o : Option KeyValue) :
    (Region.admits p o = true ↔ Region.admits lo o = true ∨ Region.admits hi o = true) ∧
      ¬(Region.admits lo o = true ∧ Region.admits hi o = true) := by
  obtain ⟨hlo, hmid, hmax, hlt⟩ := h
  cases o with
  | some v => exact contains_split hlo hmid hmax (KeyValue.le_of_lt hlt) hne v
  | none => simp [Region.admits, hlo, hmin]

end Range

namespace Region

/-- Two regions cut a region in two: every key, of any length and with values of any types, lies
in the region exactly when it lies in one of the two, and never lies in both. -/
def CutInto (r r₁ r₂ : Region) : Prop :=
  ∀ k : Key, (r.contains k = true ↔ r₁.contains k = true ∨ r₂.contains k = true) ∧
    ¬(r₁.contains k = true ∧ r₂.contains k = true)

theorem CutInto.symm {r r₁ r₂ : Region} (h : r.CutInto r₁ r₂) : r.CutInto r₂ r₁ :=
  fun k => ⟨(h k).1.trans or_comm, fun h' => (h k).2 h'.symm⟩

/-- Every key lies in as many of the two regions as of the region they cut: one or none. -/
theorem CutInto.count {r r₁ r₂ : Region} (h : r.CutInto r₁ r₂) (k : Key) :
    ((if r₁.contains k = true then 1 else 0) + if r₂.contains k = true then 1 else 0) =
      if r.contains k = true then 1 else 0 := by
  obtain ⟨hiff, hnot⟩ := h k
  by_cases h₁ : r₁.contains k = true <;> by_cases h₂ : r₂.contains k = true <;> simp_all

/-- Regions that agree with `r` away from dimension `d`, and whose ranges there cut `r`'s for
every value and for a missing one, cut `r`. -/
theorem cutInto_of_ranges {r r₁ r₂ : Region} {d : Nat} {p lo hi : Range}
    (hp : r.ranges[d]? = some p) (h₁ : r₁.ranges[d]? = some lo) (h₂ : r₂.ranges[d]? = some hi)
    (haway₁ : ∀ i, i ≠ d → r₁.ranges[i]? = r.ranges[i]?)
    (haway₂ : ∀ i, i ≠ d → r₂.ranges[i]? = r.ranges[i]?)
    (hcut : ∀ o, (admits p o = true ↔ admits lo o = true ∨ admits hi o = true) ∧
      ¬(admits lo o = true ∧ admits hi o = true)) :
    r.CutInto r₁ r₂ := by
  intro k
  rw [contains_iff_at hp, contains_iff_at h₁, contains_iff_at h₂, containsAway_congr haway₁,
    containsAway_congr haway₂]
  obtain ⟨hiff, hnot⟩ := hcut (k.get? d)
  constructor
  · rw [hiff]
    exact and_or_left
  · exact fun ⟨⟨_, h₁⟩, _, h₂⟩ => hnot ⟨h₁, h₂⟩

end Region

namespace Partition

/-- The children's ranges at a split's dimension hold values, and start with values of the type
that the parent's range there starts with. -/
def SplitRangesTyped (parent c₁ c₂ : Partition) : Prop :=
  ∀ d, parent.splitDimension = some d → ∀ p, parent.region.ranges[d]? = some p →
    ∀ c ∈ [c₁, c₂], ∀ r, c.region.ranges[d]? = some r → r.Nonempty ∧ r.min.keyType = p.min.keyType

/-- Children whose regions pass their check, and whose ranges at `d` hold values of the parent's
type, cut the parent's region. -/
theorem cutInto_of_childRegionsCover {parent c₁ c₂ : Partition} {d : Nat}
    (h : childRegionsCover parent c₁ c₂ d = true)
    (htyped : ∀ p, parent.region.ranges[d]? = some p → ∀ c ∈ [c₁, c₂], ∀ r,
      c.region.ranges[d]? = some r → r.Nonempty ∧ r.min.keyType = p.min.keyType) :
    parent.region.CutInto c₁.region c₂.region := by
  obtain ⟨p, r₁, r₂, hp, h₁, h₂, -, -, haway₁, haway₂, hmeet⟩ := childRegionsCover_eq_true h
  obtain ⟨hne₁, htype₁⟩ := htyped p hp c₁ (by simp) r₁ h₁
  obtain ⟨hne₂, htype₂⟩ := htyped p hp c₂ (by simp) r₂ h₂
  -- the upper range starts above the lower, in its type, so not at that type's minimum
  rcases hmeet with ⟨-, hm⟩ | ⟨-, hm⟩
  · refine Region.cutInto_of_ranges hp h₁ h₂ haway₁ haway₂ (hm.admits_cut hne₂ ?_)
    exact KeyValue.ne_minValue_of_lt hm.2.2.2 (htype₂.trans htype₁.symm)
  · refine (Region.cutInto_of_ranges hp h₂ h₁ haway₂ haway₁ (hm.admits_cut hne₁ ?_)).symm
    exact KeyValue.ne_minValue_of_lt hm.2.2.2 (htype₁.trans htype₂.symm)

/-- When a split passes its checks and its children's ranges at the split dimension hold values
of the parent's type, the children cut the parent's region: every key, of any length and with
values of any types, lies in the parent's region exactly when it lies in one child's, and never
in both. -/
theorem cutInto_of_validateSplit {parent c₁ c₂ : Partition} (h : validateSplit parent c₁ c₂ = .ok ())
    (htyped : SplitRangesTyped parent c₁ c₂) : parent.region.CutInto c₁.region c₂.region := by
  obtain ⟨-, d, hsd, -, -, -, -, hcover⟩ := validateSplit_eq_ok_iff.1 h
  exact cutInto_of_childRegionsCover hcover (htyped d hsd)

/-- The root of a long key split at zero passes the checks, its children's ranges are typed, and
they cut the root's region. -/
theorem root_split_cut :
    let root := Partition.root "root" (.single "key" .long)
    let parent := root.intoSplit ["L", "R"] 0
    let c₁ := Partition.leaf "L"
      (root.region.withRange 0 ⟨"key", KeyType.long.minValue, some (.long 0)⟩) (some "root")
    let c₂ := Partition.leaf "R" (root.region.withRange 0 ⟨"key", .long 0, none⟩) (some "root")
    validateSplit parent c₁ c₂ = .ok () ∧ SplitRangesTyped parent c₁ c₂ ∧
      parent.region.CutInto c₁.region c₂.region := by
  intro root parent c₁ c₂
  have hcheck : validateSplit parent c₁ c₂ = .ok () := by
    refine validateSplit_eq_ok_iff.2 ⟨by decide, 0, rfl, rfl, rfl, by decide, ?_, by decide⟩
    simp only [List.mem_cons, List.not_mem_nil, or_false, forall_eq_or_imp, forall_eq]
    exact ⟨⟨rfl, rfl, rfl⟩, rfl, rfl, rfl⟩
  have htyped : SplitRangesTyped parent c₁ c₂ := by
    intro d hd p hp c hc r hr
    cases hd
    cases hp
    simp only [List.mem_cons, List.not_mem_nil, or_false] at hc
    -- the lower child ends at zero and the upper child has no end
    rcases hc with rfl | rfl <;> cases hr
    · exact ⟨fun m hm => by cases hm; decide, rfl⟩
    · exact ⟨fun m hm => (by cases hm), rfl⟩
  exact ⟨hcheck, htyped, cutInto_of_validateSplit hcheck htyped⟩

end Partition

end TableState
