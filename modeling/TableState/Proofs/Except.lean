import TableState.Error
import Mathlib.Data.List.Forall2

/-!
# Inverting computations that can fail

Most operations of the stores are `do` blocks in `Except Error`. A proof about their results
peels such a block apart one bind at a time: a bind that succeeds had a first computation that
succeeded, whose value the rest was run on. These lemmas say so once, for every type.
-/

set_option autoImplicit false

namespace Except

variable {ε α β : Type} {x : Except ε α} {b : β}

@[simp] theorem bind_eq_ok {f : α → Except ε β} :
    x >>= f = .ok b ↔ ∃ a, x = .ok a ∧ f a = .ok b := by
  cases x <;> simp [bind, Except.bind]

@[simp] theorem fmap_eq_ok {f : α → β} : f <$> x = .ok b ↔ ∃ a, x = .ok a ∧ f a = b := by
  cases x <;> simp [Functor.map, Except.map]

@[simp] theorem map_eq_ok {f : α → β} : x.map f = .ok b ↔ ∃ a, x = .ok a ∧ f a = b := by
  cases x <;> simp [Except.map]

@[simp] theorem throw_ne_ok {e : ε} {a : α} : (throw e : Except ε α) ≠ .ok a :=
  fun h => nomatch h

@[simp] theorem pure_eq_ok {a a' : α} : (pure a : Except ε α) = .ok a' ↔ a = a' := by
  simp [pure, Except.pure]

/-- A computation that succeeds gives its value, which a default does not change. Concrete runs
name their states this way, so that each state is a term that evaluates. -/
theorem eq_ok_getD (d : α) (h : x.toOption.isSome = true) : x = .ok (x.toOption.getD d) := by
  cases x <;> simp_all [Except.toOption]

/-- Two computations agree up to `R` when they fail with the same error, or both succeed with
values that `R` relates. Two implementations of one operation agree so with its reference
outcome. -/
inductive Rel {γ : Type} (R : α → γ → Prop) : Except ε α → Except ε γ → Prop
  | error (e : ε) : Rel R (.error e) (.error e)
  | ok {a : α} {c : γ} : R a c → Rel R (.ok a) (.ok c)

theorem Rel.mono {γ : Type} {R R' : α → γ → Prop} (hR : ∀ a c, R a c → R' a c)
    {x : Except ε α} {y : Except ε γ} : Rel R x y → Rel R' x y
  | .error e => .error e
  | .ok h => .ok (hR _ _ h)

/-- Agreements compose through a middle computation. -/
theorem Rel.trans {γ δ : Type} {R : α → γ → Prop} {R' : γ → δ → Prop} {x : Except ε α}
    {y : Except ε γ} {z : Except ε δ} :
    Rel R x y → Rel R' y z → Rel (fun a d => ∃ c, R a c ∧ R' c d) x z
  | .error e, .error _ => .error e
  | .ok h, .ok h' => .ok ⟨_, h, h'⟩

theorem Rel.map {γ δ : Type} {R : α → γ → Prop} {R' : δ → γ → Prop} {f : α → δ}
    (hf : ∀ a c, R a c → R' (f a) c) {x : Except ε α} {y : Except ε γ} :
    Rel R x y → Rel R' (x.map f) y
  | .error e => .error e
  | .ok h => .ok (hf _ _ h)

/-- Agreeing computations agree after maps that carry related values to related values. -/
theorem Rel.map₂ {β γ δ : Type} {R : α → β → Prop} {R' : γ → δ → Prop} {f : α → γ} {g : β → δ}
    (hfg : ∀ a b, R a b → R' (f a) (g b)) :
    ∀ {x : Except ε α} {y : Except ε β}, Rel R x y → Rel R' (x.map f) (y.map g)
  | _, _, .error e => .error e
  | _, _, .ok h => .ok (hfg _ _ h)

/-- An agreement with a mapped computation is one with the computation, through the map. -/
theorem Rel.of_map_right {γ δ : Type} {R : α → δ → Prop} {g : γ → δ} :
    ∀ {x : Except ε α} {y : Except ε γ}, Rel R x (y.map g) → Rel (fun a c => R a (g c)) x y
  | _, .error _, .error e => .error e
  | _, .ok _, .ok h => .ok h

/-- An agreement with a computation, through a map, is one with the mapped computation. -/
theorem Rel.map_right {γ δ : Type} {R : α → δ → Prop} {g : γ → δ} :
    ∀ {x : Except ε α} {y : Except ε γ}, Rel (fun a c => R a (g c)) x y → Rel R x (y.map g)
  | _, _, .error e => .error e
  | _, _, .ok h => .ok h

/-- An agreement carries what holds of every value the left side succeeds with. -/
theorem Rel.and_left {γ : Type} {R : α → γ → Prop} {P : α → Prop} :
    ∀ {x : Except ε α} {y : Except ε γ}, Rel R x y → (∀ a, x = .ok a → P a) →
      Rel (fun a c => R a c ∧ P a) x y
  | _, _, .error e, _ => .error e
  | _, _, .ok h, hP => .ok ⟨h, hP _ rfl⟩

/-- An agreement carries what holds of every value the right side succeeds with. -/
theorem Rel.and_right {γ : Type} {R : α → γ → Prop} {P : γ → Prop} :
    ∀ {x : Except ε α} {y : Except ε γ}, Rel R x y → (∀ c, y = .ok c → P c) →
      Rel (fun a c => R a c ∧ P c) x y
  | _, _, .error e, _ => .error e
  | _, _, .ok h, hP => .ok ⟨h, hP _ rfl⟩

/-- Two computations that follow two outcomes that agree agree with each other. -/
theorem Rel.follow {γ δ θ : Type} {R₁ : α → γ → Prop} {P : γ → δ → Prop} {R₂ : θ → δ → Prop} :
    ∀ {x : Except ε α} {u : Except ε γ} {v : Except ε δ} {y : Except ε θ},
      Rel R₁ x u → Rel P u v → Rel R₂ y v → Rel (fun a b => ∃ c d, R₁ a c ∧ P c d ∧ R₂ b d) x y
  | _, _, _, _, .error e, .error _, .error _ => .error e
  | _, _, _, _, .ok h₁, .ok hp, .ok h₂ => .ok ⟨_, _, h₁, hp, h₂⟩

/-- A computation that runs a check first and succeeds gives what the rest gives. -/
theorem eq_ok_of_check {c : Except ε Unit} {y : Except ε β} (h : (c >>= fun _ => y) = .ok b) :
    y = .ok b := by
  obtain ⟨_, -, h⟩ := bind_eq_ok.1 h
  exact h

/-- A computation that runs a check first agrees as the rest does once the check passes. -/
theorem Rel.bind_left {γ : Type} {R : α → γ → Prop} {c : Except ε Unit}
    {f : Unit → Except ε α} {g : Unit → Except ε γ} (h : ∀ u, c = .ok u → Rel R (f u) (g u)) :
    Rel R (c >>= f) (c >>= g) := by
  cases c with
  | error e => exact .error e
  | ok u => exact h u rfl

/-! ## Calls that return the state they leave

A call of a store returns the state it leaves with its result, so that a call that fails still
says what it left. `committed` reads such a call as a computation of the state it commits, and
`Atomic` says that the call leaves the state as it was whenever it fails. -/

section Calls

variable {σ : Type}

/-- The state a call commits, or the error it fails with. -/
def committed : σ × Except ε Unit → Except ε σ
  | (s, .ok ()) => .ok s
  | (_, .error e) => .error e

@[simp] theorem committed_ok (s : σ) : committed (s, (.ok () : Except ε Unit)) = .ok s := rfl

@[simp] theorem committed_error (s : σ) (e : ε) : committed (s, (.error e : Except ε Unit)) = .error e :=
  rfl

@[simp] theorem committed_eq_ok {r : σ × Except ε Unit} {s : σ} :
    committed r = .ok s ↔ r = (s, .ok ()) := by
  obtain ⟨s', _ | ⟨⟩⟩ := r <;> simp [committed]

@[simp] theorem committed_eq_error {r : σ × Except ε Unit} {e : ε} :
    committed r = .error e ↔ r.2 = .error e := by
  obtain ⟨s', _ | ⟨⟩⟩ := r <;> simp [committed]

/-- A call whose state is carried into a larger one commits the carried state. -/
theorem committed_map {τ : Type} (f : σ → τ) (r : σ × Except ε Unit) :
    committed (f r.1, r.2) = (committed r).map f := by
  obtain ⟨s, _ | ⟨⟩⟩ := r <;> rfl

/-- A call leaves the state `s` as it was whenever it fails. -/
def Atomic (s : σ) (r : σ × Except ε Unit) : Prop :=
  ∀ e, r.2 = .error e → r.1 = s

theorem atomic_error (s : σ) (e : ε) : Atomic s (s, .error e) :=
  fun _ _ => rfl

theorem atomic_ok (s s' : σ) : Atomic s (s', (.ok () : Except ε Unit)) :=
  fun _ h => nomatch h

/-- An atomic call that fails is its error with the state as it was. -/
theorem Atomic.eq_of_error {s : σ} {r : σ × Except ε Unit} (h : Atomic s r) {e : ε}
    (he : r.2 = .error e) : r = (s, .error e) := by
  obtain ⟨s', r'⟩ := r
  obtain rfl : r' = .error e := he
  obtain rfl : s' = s := h e rfl
  rfl

/-- Two calls run alike under `R`: they have one result, and leave states that `R` relates. -/
def RunAlike (R : σ → σ → Prop) (r₁ r₂ : σ × Except ε Unit) : Prop :=
  r₁.2 = r₂.2 ∧ R r₁.1 r₂.1

/-- Two atomic calls from related states run alike when they fail alike or commit related
states. -/
theorem Atomic.runAlike {R : σ → σ → Prop} {s₁ s₂ : σ} {r₁ r₂ : σ × Except ε Unit}
    (h : R s₁ s₂) (h₁ : Atomic s₁ r₁) (h₂ : Atomic s₂ r₂)
    (hrel : Rel R (committed r₁) (committed r₂)) : RunAlike R r₁ r₂ := by
  obtain ⟨s₁', e₁ | ⟨⟩⟩ := r₁ <;> obtain ⟨s₂', e₂ | ⟨⟩⟩ := r₂ <;> cases hrel
  · -- both failed with one error, and left their states
    rw [RunAlike, h₁ e₁ rfl, h₂ e₁ rfl]
    exact ⟨rfl, h⟩
  · rename_i hR
    exact ⟨rfl, hR⟩

/-- What holds of the state before an atomic call, and of every state it commits, holds of the
state it leaves. -/
theorem Atomic.keeps {P : σ → Prop} {s : σ} {r : σ × Except ε Unit} (h : Atomic s r) (hs : P s)
    (hok : ∀ s', r = (s', .ok ()) → P s') : P r.1 := by
  obtain ⟨s', _ | ⟨⟩⟩ := r
  · rw [h _ rfl]
    exact hs
  · exact hok s' rfl

end Calls

end Except

namespace List

variable {ε α : Type}

/-- A loop over a list whose body checks each element, failing or going on to the next, succeeds
only when the check passes on every element. -/
theorem forIn_checks_ok {l : List α} {body : α → Unit → Except ε (ForInStep Unit)}
    (hbody : ∀ a u, body a () ≠ .ok (.done u)) {u : Unit}
    (h : forIn l () body = .ok u) : ∀ a ∈ l, body a () = .ok (.yield ()) := by
  induction l with
  | nil => simp
  | cons a l ih =>
    rw [List.forIn_cons] at h
    obtain ⟨step, hstep, hrest⟩ := Except.bind_eq_ok.1 h
    cases step with
    | done u' => exact absurd hstep (hbody a u')
    | yield u' =>
      intro b hb
      rcases List.mem_cons.1 hb with rfl | hb
      · exact hstep
      · exact ih hrest b hb

/-- A map over a list that succeeds relates each element to its result. -/
theorem forall₂_of_mapM_eq_ok {β : Type} {f : α → Except ε β} :
    ∀ {l : List α} {rs : List β}, l.mapM f = .ok rs → List.Forall₂ (fun a b => f a = .ok b) l rs
  | [], rs, h => by
    cases Except.pure_eq_ok.1 h
    exact .nil
  | a :: l, rs, h => by
    rw [List.mapM_cons] at h
    obtain ⟨b, hb, h⟩ := Except.bind_eq_ok.1 h
    obtain ⟨bs, hbs, h⟩ := Except.bind_eq_ok.1 h
    cases Except.pure_eq_ok.1 h
    exact .cons hb (forall₂_of_mapM_eq_ok hbs)

/-- A map over a list succeeds when it succeeds on every element. -/
theorem mapM_eq_ok_of_forall {β : Type} {f : α → Except ε β} :
    ∀ {l : List α}, (∀ a ∈ l, ∃ b, f a = .ok b) → ∃ bs, l.mapM f = .ok bs
  | [], _ => ⟨[], rfl⟩
  | a :: l, h => by
    obtain ⟨b, hb⟩ := h a List.mem_cons_self
    obtain ⟨bs, hbs⟩ := mapM_eq_ok_of_forall fun a ha => h a (List.mem_cons_of_mem _ ha)
    exact ⟨b :: bs, by rw [List.mapM_cons, hb, hbs]; rfl⟩

/-- A loop of checks over a list succeeds when the check succeeds on every element. -/
theorem forM_eq_ok_of_forall {f : α → Except ε Unit} :
    ∀ {l : List α}, (∀ a ∈ l, f a = .ok ()) → l.forM f = .ok ()
  | [], _ => rfl
  | a :: l, h => by
    show (f a >>= fun _ => l.forM f) = .ok ()
    rw [h a List.mem_cons_self]
    exact forM_eq_ok_of_forall fun b hb => h b (List.mem_cons_of_mem _ hb)

/-- A loop of checks over a list that succeeds succeeded on every element. -/
theorem forall_of_forM_eq_ok {f : α → Except ε Unit} :
    ∀ {l : List α}, l.forM f = .ok () → ∀ a ∈ l, f a = .ok ()
  | [], _, a, ha => absurd ha List.not_mem_nil
  | b :: l, h, a, ha => by
    change (f b >>= fun _ => l.forM f) = .ok () at h
    obtain ⟨u, hb, hl⟩ := Except.bind_eq_ok.1 h
    rcases List.mem_cons.1 ha with rfl | ha
    · exact hb
    · exact forall_of_forM_eq_ok hl a ha

variable {β : Type} {R : α → β → Prop}

theorem Forall₂.exists_of_mem_right :
    ∀ {l₁ : List α} {l₂ : List β}, List.Forall₂ R l₁ l₂ → ∀ {b}, b ∈ l₂ → ∃ a ∈ l₁, R a b
  | _, _, .nil, _, hb => absurd hb List.not_mem_nil
  | a :: _, _ :: _, .cons hab hrest, _, hb => by
    rcases List.mem_cons.1 hb with rfl | hb
    · exact ⟨a, List.mem_cons_self, hab⟩
    · obtain ⟨a', ha', h⟩ := hrest.exists_of_mem_right hb
      exact ⟨a', List.mem_cons_of_mem _ ha', h⟩

theorem Forall₂.exists_of_mem_left :
    ∀ {l₁ : List α} {l₂ : List β}, List.Forall₂ R l₁ l₂ → ∀ {a}, a ∈ l₁ → ∃ b ∈ l₂, R a b
  | _, _, .nil, _, ha => absurd ha List.not_mem_nil
  | _ :: _, b :: _, .cons hab hrest, _, ha => by
    rcases List.mem_cons.1 ha with rfl | ha
    · exact ⟨b, List.mem_cons_self, hab⟩
    · obtain ⟨b', hb', h⟩ := hrest.exists_of_mem_left ha
      exact ⟨b', List.mem_cons_of_mem _ hb', h⟩

/-- Related lists have the same image under maps that agree on related elements. -/
theorem Forall₂.map_eq {γ : Type} {f : α → γ} {g : β → γ} :
    ∀ {l₁ : List α} {l₂ : List β}, List.Forall₂ R l₁ l₂ → (∀ a ∈ l₁, ∀ b, R a b → f a = g b) →
      l₁.map f = l₂.map g
  | _, _, .nil, _ => rfl
  | _, _, .cons hab hrest, hfg => by
    rw [List.map_cons, List.map_cons, hfg _ List.mem_cons_self _ hab,
      hrest.map_eq fun a ha => hfg a (List.mem_cons_of_mem _ ha)]

end List
