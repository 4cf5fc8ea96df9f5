import TableState.Proofs.File.Outcome

/-!
# File outcomes on records read in another order

The two backends read the file records of a table in different orders: the item backend by key,
the snapshot backend in the order of its list. The outcome of a change of the file records
(`FileOutcome`) looks at the records read only through what they hold, with one choice left: the
file that a refusal of an existing file names, which the backends look for in different orders.
So outcomes on records that differ only in order agree up to that name (`FileOutcome.agree`):
both fail with one error, or both refuse an existing file, or both give records that differ only
in order.

Most lookups of an outcome ask whether some record names a file and partition, or a file, and do
not depend on the order. The one that finds the record of a file and partition does not either,
since the records name each file and partition once (`List.find?_key_perm`).
-/

set_option autoImplicit false

namespace TableState

namespace List

/-- On a list whose keys are distinct, the element found by its key does not depend on the order
of the list. -/
theorem find?_key_perm {α β : Type} [BEq β] [LawfulBEq β] (key : α → β) {l l' : List α}
    (hnd : (l.map key).Nodup) (hp : l.Perm l') (k : β) :
    l.find? (key · == k) = l'.find? (key · == k) := by
  cases h : l.find? (key · == k) with
  | none =>
    refine (List.find?_eq_none.2 fun x hx => ?_).symm
    exact List.find?_eq_none.1 h x (hp.mem_iff.2 hx)
  | some x =>
    have hx := List.mem_of_find?_eq_some h
    have hxk : key x = k := by simpa using List.find?_some h
    cases h' : l'.find? (key · == k) with
    | none => exact absurd (List.find?_eq_none.1 h' x (hp.mem_iff.1 hx)) (by simp [hxk])
    | some y =>
      -- both found elements have the key, and only one element has it
      have hy := hp.mem_iff.2 (List.mem_of_find?_eq_some h')
      have hyk : key y = k := by simpa using List.find?_some h'
      rw [List.inj_on_of_nodup_map hnd hx hy (hxk.trans hyk.symm)]

end List

/-- Results of one request that agree up to `R`, or that both refuse a file that already exists,
perhaps naming different files. -/
inductive UpToClash {α γ : Type} (R : α → γ → Prop) : Except Error α → Except Error γ → Prop
  | rel {x : Except Error α} {y : Except Error γ} : Except.Rel R x y → UpToClash R x y
  | clash (n n' : String) :
      UpToClash R (.error (.fileAlreadyExists n)) (.error (.fileAlreadyExists n'))

theorem UpToClash.mono {α γ : Type} {R R' : α → γ → Prop} (hR : ∀ a c, R a c → R' a c)
    {x : Except Error α} {y : Except Error γ} : UpToClash R x y → UpToClash R' x y
  | .rel h => .rel (h.mono hR)
  | .clash n n' => .clash n n'

/-- Two computations that follow two outcomes that agree up to a clash agree so with each
other. -/
theorem UpToClash.follow {α β γ δ : Type} {R₁ : α → γ → Prop} {P : γ → δ → Prop}
    {R₂ : β → δ → Prop} {x : Except Error α} {u : Except Error γ} {v : Except Error δ}
    {y : Except Error β} (h₁ : Except.Rel R₁ x u) (hp : UpToClash P u v)
    (h₂ : Except.Rel R₂ y v) : UpToClash (fun a b => ∃ c d, R₁ a c ∧ P c d ∧ R₂ b d) x y := by
  cases hp with
  | rel hp => exact .rel (h₁.follow hp h₂)
  | clash n n' =>
    -- both sides fail as their outcomes do
    cases h₁
    cases h₂
    exact .clash n n'

namespace FileRecord

variable {F F' L L' : List FileRecord} {now : Int}

theorem hasPair_perm (hF : F.Perm F') (p : String × String) : hasPair F p = hasPair F' p :=
  hF.any_eq

theorem clashes_perm (hF : F.Perm F') (hL : L.Perm L') : clashes F L = clashes F' L' := by
  funext f
  rw [clashes, clashes, hasPair_perm hF, hL.any_eq]

theorem withoutPairs_perm (hF : F.Perm F') (old : List FileRecord) :
    (withoutPairs F old).Perm (withoutPairs F' old) :=
  hF.filter _

theorem firstMissing_perm (hF : F.Perm F') (fs : List FileRecord) :
    firstMissing F fs = firstMissing F' fs := by
  simp only [firstMissing, hasPair_perm hF]

/-- What blocks a job does not depend on the order of records that name each file and partition
once. -/
theorem claimBlocker_perm (hnd : (F.map pair).Nodup) (hF : F.Perm F') :
    claimBlocker F = claimBlocker F' := by
  have hblocker : blocker F = blocker F' := by
    funext f
    rw [blocker, blocker, List.find?_key_perm pair hnd hF]
  funext fs
  rw [claimBlocker, claimBlocker, hblocker]

end FileRecord

namespace FileOutcome

open FileRecord

variable {F F' L L' : List FileRecord} {now : Int} {c : TableChange}
  {r r' : Except Error (List FileRecord × List FileRecord)}

/-- An outcome on records is, with its records reordered, an outcome on the same records in
another order. -/
theorem perm (hnd : (F.map pair).Nodup) (hF : F.Perm F') (hL : L.Perm L')
    (h : FileOutcome F L now c r) :
    ∃ r', FileOutcome F' L' now c r' ∧
      Except.Rel (fun a b => a.1.Perm b.1 ∧ a.2.Perm b.2) r r' := by
  have hcl := clashes_perm hF hL
  have hcl' : ∀ old, clashes (withoutPairs F old) L = clashes (withoutPairs F' old) L' :=
    fun old => clashes_perm (withoutPairs_perm hF old) hL
  have hmiss := firstMissing_perm hF
  have hblock := claimBlocker_perm hnd hF
  cases h with
  | addRefused hv => exact ⟨_, .addRefused hv, .error _⟩
  | addClash hv hf hc => exact ⟨_, .addClash hv hf (hcl ▸ hc), .error _⟩
  | added hv hfree =>
    exact ⟨_, .added hv (hcl ▸ hfree), .ok ⟨hF.append_right _, hL.append_right _⟩⟩
  | replaceRefusedOld hvo => exact ⟨_, .replaceRefusedOld hvo, .error _⟩
  | replaceRefusedNew hvo hvn => exact ⟨_, .replaceRefusedNew hvo hvn, .error _⟩
  | replaceMissing hvo hvn hm => exact ⟨_, .replaceMissing hvo hvn (hmiss _ ▸ hm), .error _⟩
  | @replaceClash old new f hvo hvn hm hf hc =>
    exact ⟨_, .replaceClash hvo hvn (hmiss _ ▸ hm) hf (hcl' old ▸ hc), .error _⟩
  | @replaced old new hvo hvn hm hfree =>
    exact ⟨_, .replaced hvo hvn (hmiss _ ▸ hm) (hcl' old ▸ hfree),
      .ok ⟨(withoutPairs_perm hF old).append_right _, hL.append_right _⟩⟩
  | assignUnnamed hj => exact ⟨_, .assignUnnamed hj, .error _⟩
  | assignRefused hj hv => exact ⟨_, .assignRefused hj hv, .error _⟩
  | assignBlocked hj hv hb => exact ⟨_, .assignBlocked hj hv (hblock ▸ hb), .error _⟩
  | assigned hj hv hb => exact ⟨_, .assigned hj hv (hblock ▸ hb), .ok ⟨hF.map _, hL⟩⟩

/-- A change of the records has one outcome, but for the file that a refusal of an existing file
names. -/
theorem unique (h : FileOutcome F L now c r) (h' : FileOutcome F L now c r') :
    r = r' ∨ ∃ n n', r = .error (.fileAlreadyExists n) ∧ r' = .error (.fileAlreadyExists n') := by
  -- the checks and lookups are functions of the records: equal where both hold, and a
  -- contradiction where they would differ
  cases h <;> cases h' <;> first
    | exact .inl rfl
    | exact .inr ⟨_, _, rfl, rfl⟩
    | simp_all

/-- Outcomes of one change on records that differ only in order agree, but for the file that a
refusal of an existing file names, when the records name each file and partition once. -/
theorem agree (hnd : (F.map pair).Nodup) (hF : F.Perm F') (hL : L.Perm L')
    (h : FileOutcome F L now c r) (h' : FileOutcome F' L' now c r') :
    UpToClash (fun a b => a.1.Perm b.1 ∧ a.2.Perm b.2) r r' := by
  obtain ⟨r₁, h₁, hrel⟩ := h.perm hnd hF hL
  rcases h₁.unique h' with rfl | ⟨n, n', rfl, rfl⟩
  · exact .rel hrel
  · cases hrel
    exact .clash n n'

end FileOutcome

end TableState
