import TableState.Partition.Validate
import TableState.Proofs.Key.Order

/-!
# Regions split in two

A region contains a key when every range admits the key's value at that range's dimension
(`Region.contains_iff`). Two child regions *split* a parent region when a key with a value at
every dimension of the parent lies in the parent exactly when it lies in one of the children, and
never lies in both (`Region.SplitInto`).

The check on a split's children, `Partition.childRegionsCover`, asks that the children keep the
parent's ranges away from the split dimension and that their ranges there meet, the lower one
starting where the parent starts and the upper one ending where the parent ends. It does not ask
that the upper range end above where it starts. With that missing condition, that neither
child's range at the split dimension is empty (`Range.Nonempty`), the children split the parent
(`Partition.splitInto_of_childRegionsCover`).
-/

set_option autoImplicit false

namespace TableState

namespace Range

/-- A range holds a value: its maximum, if it has one, is above its minimum. -/
def Nonempty (r : Range) : Prop :=
  ∀ m, r.max = some m → r.min < m

theorem contains_iff {r : Range} {v : KeyValue} :
    r.contains v = true ↔ r.min ≤ v ∧ ∀ m, r.max = some m → v < m := by
  obtain ⟨field, min, max⟩ := r
  cases max <;> simp [contains]

/-- A range cut at `hi.min`, at or above its minimum, into a lower range `lo` and a non-empty upper
range `hi`: a value is in the range exactly when it is in one of the two, and never in both. -/
theorem contains_split {p lo hi : Range} (hmin : lo.min = p.min) (hmid : lo.max = some hi.min)
    (hmax : hi.max = p.max) (hle : lo.min ≤ hi.min) (hne : hi.Nonempty) (v : KeyValue) :
    (p.contains v = true ↔ lo.contains v = true ∨ hi.contains v = true) ∧
      ¬(lo.contains v = true ∧ hi.contains v = true) := by
  simp only [contains_iff, hmid, Option.some.injEq, forall_eq', hmax]
  refine ⟨⟨fun ⟨hpmin, hpmax⟩ => ?_, fun h => ?_⟩, fun ⟨⟨_, hvlo⟩, ⟨hvhi, _⟩⟩ => ?_⟩
  · -- a value of the range lies below the cut or from it on
    by_cases hv : v < hi.min
    · exact .inl ⟨hmin ▸ hpmin, hv⟩
    · exact .inr ⟨KeyValue.not_lt.1 hv, hpmax⟩
  · rcases h with ⟨hvmin, hvlo⟩ | ⟨hvhi, hvmax⟩
    · refine ⟨hmin ▸ hvmin, fun m hm => ?_⟩
      exact KeyValue.lt_trans hvlo (hne m (hmax ▸ hm))
    · exact ⟨hmin ▸ KeyValue.le_trans hle hvhi, hvmax⟩
  · exact KeyValue.not_lt.2 hvhi hvlo

/-- Two ranges meet inside a range `p`: the lower starts where `p` starts and below the upper,
it ends where the upper starts, and the upper ends where `p` ends. -/
def Meets (p lo hi : Range) : Prop :=
  lo.min = p.min ∧ lo.max = some hi.min ∧ hi.max = p.max ∧ lo.min < hi.min

end Range

namespace Region

theorem contains_iff {r : Region} {k : Key} :
    r.contains k = true ↔ ∀ i R, r.ranges[i]? = some R → admits R (k.get? i) = true := by
  simp only [contains, List.all_eq_true, Prod.forall, List.mem_zipIdx_iff_getElem?]
  exact ⟨fun h i R hR => h R i hR, fun h R i hR => h i R hR⟩

/-- Whether every range of a region but the one at `d` admits a key. -/
def ContainsAway (r : Region) (d : Nat) (k : Key) : Prop :=
  ∀ i R, i ≠ d → r.ranges[i]? = some R → admits R (k.get? i) = true

theorem contains_iff_at {r : Region} {d : Nat} {R : Range} (hR : r.ranges[d]? = some R)
    {k : Key} : r.contains k = true ↔ r.ContainsAway d k ∧ admits R (k.get? d) = true := by
  rw [contains_iff]
  refine ⟨fun h => ⟨fun i R' _ hR' => h i R' hR', h d R hR⟩, fun ⟨haway, hd⟩ i R' hR' => ?_⟩
  by_cases hi : i = d
  · subst hi
    rw [hR] at hR'
    cases hR'
    exact hd
  · exact haway i R' hi hR'

theorem containsAway_congr {r r' : Region} {d : Nat}
    (h : ∀ i, i ≠ d → r'.ranges[i]? = r.ranges[i]?) (k : Key) :
    r'.ContainsAway d k ↔ r.ContainsAway d k := by
  unfold ContainsAway
  exact ⟨fun h' i R hi hR => h' i R hi ((h i hi).trans hR),
    fun h' i R hi hR => h' i R hi ((h i hi).symm.trans hR)⟩

/-- Two regions split a region: a key with a value at each of its dimensions lies in it exactly
when it lies in one of the two, and never lies in both. -/
def SplitInto (r r₁ r₂ : Region) : Prop :=
  ∀ k : Key, r.ranges.length ≤ k.values.length →
    (r.contains k = true ↔ r₁.contains k = true ∨ r₂.contains k = true) ∧
      ¬(r₁.contains k = true ∧ r₂.contains k = true)

/-- A key with a value at each dimension lies in as many of the two regions as of the region they
split: one or none. -/
theorem SplitInto.count {r r₁ r₂ : Region} (h : r.SplitInto r₁ r₂) {k : Key}
    (hk : r.ranges.length ≤ k.values.length) :
    ((if r₁.contains k = true then 1 else 0) + if r₂.contains k = true then 1 else 0) =
      if r.contains k = true then 1 else 0 := by
  obtain ⟨hiff, hnot⟩ := h k hk
  by_cases h₁ : r₁.contains k = true <;> by_cases h₂ : r₂.contains k = true <;> simp_all

theorem SplitInto.symm {r r₁ r₂ : Region} (h : r.SplitInto r₁ r₂) : r.SplitInto r₂ r₁ :=
  fun k hk => ⟨(h k hk).1.trans or_comm, fun h' => (h k hk).2 h'.symm⟩

/-- Regions that agree with `r` away from dimension `d` and whose ranges there split `r`'s
split `r`. -/
theorem splitInto_of_ranges {r r₁ r₂ : Region} {d : Nat} {p lo hi : Range}
    (hp : r.ranges[d]? = some p) (h₁ : r₁.ranges[d]? = some lo) (h₂ : r₂.ranges[d]? = some hi)
    (haway₁ : ∀ i, i ≠ d → r₁.ranges[i]? = r.ranges[i]?)
    (haway₂ : ∀ i, i ≠ d → r₂.ranges[i]? = r.ranges[i]?)
    (hsplit : ∀ v, (p.contains v = true ↔ lo.contains v = true ∨ hi.contains v = true) ∧
      ¬(lo.contains v = true ∧ hi.contains v = true)) :
    r.SplitInto r₁ r₂ := by
  intro k hk
  have hd : d < r.ranges.length := (List.getElem?_eq_some_iff.1 hp).1
  obtain ⟨v, hv⟩ : ∃ v, k.get? d = some v := by
    simp only [Key.get?]
    exact ⟨_, List.getElem?_eq_getElem (by omega)⟩
  rw [contains_iff_at hp, contains_iff_at h₁, contains_iff_at h₂, containsAway_congr haway₁,
    containsAway_congr haway₂, hv]
  simp only [admits]
  obtain ⟨hiff, hnot⟩ := hsplit v
  constructor
  · rw [hiff]
    exact and_or_left
  · exact fun ⟨⟨_, h₁⟩, _, h₂⟩ => hnot ⟨h₁, h₂⟩

@[simp] theorem length_withRange (r : Region) (d : Nat) (R : Range) :
    (r.withRange d R).ranges.length = r.ranges.length :=
  List.length_set

theorem getElem?_withRange_self {r : Region} {d : Nat} (hd : d < r.ranges.length) (R : Range) :
    (r.withRange d R).ranges[d]? = some R :=
  List.getElem?_set_self hd

theorem getElem?_withRange_ne {r : Region} {d i : Nat} (hi : i ≠ d) (R : Range) :
    (r.withRange d R).ranges[i]? = r.ranges[i]? :=
  List.getElem?_set_ne (Ne.symm hi)

/-- A region with its range at `d` replaced holds a key exactly when the other ranges admit it
and the new range holds its value there. -/
theorem contains_withRange {r : Region} {d : Nat} (hd : d < r.ranges.length) (R : Range) {k : Key}
    {v : KeyValue} (hv : k.get? d = some v) :
    (r.withRange d R).contains k = true ↔ r.ContainsAway d k ∧ R.contains v = true := by
  rw [contains_iff_at (getElem?_withRange_self hd R),
    containsAway_congr (fun i hi => getElem?_withRange_ne hi R), hv]
  rfl

/-- Replacing the range at `d` by ranges that split it splits the region. -/
theorem splitInto_withRange {r : Region} {d : Nat} (hd : d < r.ranges.length) {p lo hi : Range}
    (hsplit : ∀ v, (p.contains v = true ↔ lo.contains v = true ∨ hi.contains v = true) ∧
      ¬(lo.contains v = true ∧ hi.contains v = true)) :
    (r.withRange d p).SplitInto (r.withRange d lo) (r.withRange d hi) :=
  splitInto_of_ranges (getElem?_withRange_self hd p) (getElem?_withRange_self hd lo)
    (getElem?_withRange_self hd hi)
    (fun i hi' => by rw [getElem?_withRange_ne hi', getElem?_withRange_ne hi'])
    (fun i hi' => by rw [getElem?_withRange_ne hi', getElem?_withRange_ne hi']) hsplit

/-- The region of a schema holds every key whose values have the types of the schema's fields;
where a key has no value, each range starts at its type's minimum and admits it. -/
theorem full_contains {s : Schema} {k : Key}
    (hk : ∀ i v f, k.get? i = some v → s.rowKeys[i]? = some f → v.keyType = f.keyType) :
    (full s).contains k = true := by
  refine contains_iff.2 fun i R hR => ?_
  simp only [full, List.getElem?_map, Option.map_eq_some_iff] at hR
  obtain ⟨f, hf, rfl⟩ := hR
  cases hv : k.get? i with
  | none => simp [admits, Range.full, KeyType.keyType_minValue]
  | some v =>
    simp only [admits, Range.contains_iff, Range.full]
    refine ⟨?_, fun m hm => by cases hm⟩
    rw [← hk i v f hv hf]
    exact KeyValue.minValue_le v

/-- The first field's whole range, put back at dimension zero, leaves a schema's region as it
is. -/
theorem full_withRange_firstField (s : Schema) :
    (full s).withRange 0 (Range.full s.firstField) = full s := by
  obtain ⟨_ | ⟨f, fs⟩, hne⟩ := s
  · exact absurd rfl hne
  · rfl

end Region

namespace Partition

/-- Lists of one length that agree at every position of their zip but `d` agree at every position
but `d`. -/
theorem getElem?_eq_of_zipIdx {l₁ l₂ : List Range} {d : Nat} (hlen : l₁.length = l₂.length)
    (h : ((l₁.zip l₂).zipIdx.all fun q => q.2 == d || q.1.1 == q.1.2) = true) :
    ∀ i, i ≠ d → l₁[i]? = l₂[i]? := by
  intro i hi
  by_cases hlt : i < l₁.length
  · have hmem : ((l₁[i], l₂[i]), i) ∈ (l₁.zip l₂).zipIdx := by
      rw [List.mem_zipIdx_iff_getElem?, List.getElem?_zip_eq_some]
      simp
    have hq := List.all_eq_true.1 h _ hmem
    simp only [Bool.or_eq_true, beq_iff_eq, hi, false_or] at hq
    rw [List.getElem?_eq_getElem hlt, List.getElem?_eq_getElem (by omega), hq]
  · rw [List.getElem?_eq_none (by omega), List.getElem?_eq_none (by omega)]

/-- What the check on the children's regions says: the three ranges at `d` exist, each child has
as many ranges as the parent and agrees with it away from `d`, and of the children's ranges at
`d` the one that starts first meets the other inside the parent's. -/
theorem childRegionsCover_eq_true {parent c₁ c₂ : Partition} {d : Nat}
    (h : childRegionsCover parent c₁ c₂ d = true) :
    ∃ p r₁ r₂, parent.region.ranges[d]? = some p ∧ c₁.region.ranges[d]? = some r₁ ∧
      c₂.region.ranges[d]? = some r₂ ∧
      c₁.region.ranges.length = parent.region.ranges.length ∧
      c₂.region.ranges.length = parent.region.ranges.length ∧
      (∀ i, i ≠ d → c₁.region.ranges[i]? = parent.region.ranges[i]?) ∧
      (∀ i, i ≠ d → c₂.region.ranges[i]? = parent.region.ranges[i]?) ∧
      (r₁.min ≤ r₂.min ∧ p.Meets r₁ r₂ ∨ ¬r₁.min ≤ r₂.min ∧ p.Meets r₂ r₁) := by
  unfold childRegionsCover Region.range? at h
  split at h
  · rename_i p r₁ r₂ hp h₁ h₂
    simp only [List.all_cons, List.all_nil, Bool.and_true, Bool.and_eq_true, beq_iff_eq] at h
    obtain ⟨hcover, ⟨hlen₁, hz₁⟩, ⟨hlen₂, hz₂⟩⟩ := h
    refine ⟨p, r₁, r₂, hp, h₁, h₂, hlen₁, hlen₂, getElem?_eq_of_zipIdx hlen₁ hz₁,
      getElem?_eq_of_zipIdx hlen₂ hz₂, ?_⟩
    -- the lower range is the one that starts first
    by_cases hle : r₁.min ≤ r₂.min
    · simp only [hle, if_pos, decide_eq_true_eq] at hcover
      obtain ⟨⟨⟨hmin, hmid⟩, hmax⟩, hlt⟩ := hcover
      exact .inl ⟨hle, hmin, hmid, hmax, hlt⟩
    · simp only [hle, if_false, decide_eq_true_eq] at hcover
      obtain ⟨⟨⟨hmin, hmid⟩, hmax⟩, hlt⟩ := hcover
      exact .inr ⟨hle, hmin, hmid, hmax, hlt⟩
  · cases h

/-- The check on the children's regions, with neither child's range at the split dimension
empty, makes the children split the parent's region; both have as many ranges as the parent. -/
theorem splitInto_of_childRegionsCover {parent c₁ c₂ : Partition} {d : Nat}
    (h : childRegionsCover parent c₁ c₂ d = true)
    (hne : ∀ c ∈ [c₁, c₂], ∀ r, c.region.ranges[d]? = some r → r.Nonempty) :
    parent.region.SplitInto c₁.region c₂.region ∧
      c₁.region.ranges.length = parent.region.ranges.length ∧
      c₂.region.ranges.length = parent.region.ranges.length := by
  obtain ⟨p, r₁, r₂, hp, h₁, h₂, hlen₁, hlen₂, haway₁, haway₂, hmeet⟩ :=
    childRegionsCover_eq_true h
  refine ⟨?_, hlen₁, hlen₂⟩
  -- the lower range is the one that starts first
  rcases hmeet with ⟨-, hmin, hmid, hmax, hlt⟩ | ⟨-, hmin, hmid, hmax, hlt⟩
  · exact Region.splitInto_of_ranges hp h₁ h₂ haway₁ haway₂
      (Range.contains_split hmin hmid hmax (KeyValue.le_of_lt hlt) (hne c₂ (by simp) r₂ h₂))
  · refine Region.SplitInto.symm (Region.splitInto_of_ranges hp h₂ h₁ haway₂ haway₁ ?_)
    exact Range.contains_split hmin hmid hmax (KeyValue.le_of_lt hlt) (hne c₁ (by simp) r₁ h₁)

end Partition

end TableState
