import TableState.Proofs.Session.Reachable
import Mathlib.Data.List.Dedup
import Mathlib.Data.List.Induction

/-!
# The provider's cache of state stores

A provider answers a request for a table's state store with the store it keeps under the table's
name, or builds one from the request's properties and keeps it when the build succeeds. Over any
sequence of requests (`Provider.requestAll`):

* the answer to a request is the store kept for its name before the sequence, or the one built
  by the first earlier request for the name whose build succeeded (`Provider.firstBuilt`),
  whatever properties the request passes; with neither, the build of its own properties
  (`Provider.requestAll_snoc`);
* a request whose build fails keeps nothing (`Provider.find?_requestAll`), so the provider keeps
  one store per name with a request that succeeded (`Provider.size_requestAll`).

The database trees of distinct tables and roles have distinct names (`Provider.treeName_inj`).
-/

set_option autoImplicit false

namespace TableState

namespace Provider

variable {p p' q : Provider} {props : TableProperties} {t : TableStore}

/-! ## One request -/

/-- Building depends on the provider only through the attempts of its snapshot updates. -/
theorem build_congr (h : p.maxAttempts = q.maxAttempts) : p.build = q.build := by
  funext props
  simp only [build, h]

/-- The answer to a request for a name whose kept store, if any, is `kept`: that store, or the
build of the request's properties. -/
def answer (p : Provider) (kept : Option TableStore) (props : TableProperties) :
    Except Error TableStore :=
  match kept with
  | some t => .ok t
  | none => p.build props

theorem answer_congr (h : p.maxAttempts = q.maxAttempts) : p.answer = q.answer := by
  funext kept props
  simp only [answer, build_congr h]

theorem isOk_answer {kept : Option TableStore} :
    (p.answer kept props).isOk = true ↔ kept.isSome = true ∨ (p.build props).isOk = true := by
  cases kept <;> simp [answer, Except.isOk, Except.toBool]

/-- The answer to one request: the kept store of its name, or the build of its properties. -/
theorem stateStore_map_fst (p : Provider) (props : TableProperties) :
    (p.stateStore props).map Prod.fst = p.answer (p.find? props.tableName) props := by
  unfold stateStore answer
  cases p.find? props.tableName with
  | some t => rfl
  | none => cases p.build props <;> rfl

/-- After a request that succeeds, a name keeps its store, or gets the store the request built
when it had none. -/
theorem find?_stateStore (h : p.stateStore props = .ok (t, p')) (n : String) :
    p'.find? n = (p.find? n).or (if props.tableName = n then (p.build props).toOption else none) := by
  unfold stateStore at h
  split at h
  · rename_i u hu
    cases h
    by_cases hn : props.tableName = n
    · subst hn
      simp [hu]
    · simp [hn]
  · rename_i hnone
    obtain ⟨u, hb, hu⟩ := Except.map_eq_ok.1 h
    cases hu
    have hname := build_name hb
    simp only [find?, List.find?_append, List.find?_singleton, hname, hb, Except.toOption]
    by_cases hn : props.tableName = n
    · subst hn
      simp [find?] at hnone
      simp
    · simp [hn]

/-- A request that fails found no store for its name, and its build failed. -/
theorem stateStore_eq_error {e : Error} (h : p.stateStore props = .error e) :
    p.find? props.tableName = none ∧ p.build props = .error e := by
  unfold stateStore at h
  split at h
  · cases h
  · rename_i hnone
    refine ⟨hnone, ?_⟩
    cases hb : p.build props with
    | error e' =>
      rw [hb] at h
      cases h
      rfl
    | ok u =>
      rw [hb] at h
      cases h

/-! ## Requests one after another -/

/-- The answers to requests for state stores made one after another, and the provider after
them. -/
def requestAll (p : Provider) : List TableProperties → List (Except Error TableStore) × Provider
  | [] => ([], p)
  | props :: rest =>
    match p.stateStore props with
    | .ok (t, p') => (.ok t :: (p'.requestAll rest).1, (p'.requestAll rest).2)
    | .error e => (.error e :: (p.requestAll rest).1, (p.requestAll rest).2)

/-- The store built by the first request for `n` among `cs` whose build succeeds. -/
def firstBuilt (p : Provider) (n : String) (cs : List TableProperties) : Option TableStore :=
  cs.findSome? fun c => if c.tableName = n then (p.build c).toOption else none

theorem firstBuilt_congr (h : p.maxAttempts = q.maxAttempts) : p.firstBuilt = q.firstBuilt := by
  funext n cs
  simp only [firstBuilt, build_congr h]

theorem requestAll_maxAttempts (p : Provider) (cs : List TableProperties) :
    (p.requestAll cs).2.maxAttempts = p.maxAttempts := by
  induction cs generalizing p with
  | nil => rfl
  | cons c rest ih =>
    simp only [requestAll]
    split
    · rename_i t p' h
      exact (ih p').trans (stateStore_maxAttempts h)
    · exact ih p

theorem requestAll_append (p : Provider) (cs ds : List TableProperties) :
    p.requestAll (cs ++ ds) = ((p.requestAll cs).1 ++ ((p.requestAll cs).2.requestAll ds).1,
      ((p.requestAll cs).2.requestAll ds).2) := by
  induction cs generalizing p with
  | nil => rfl
  | cons c rest ih =>
    simp only [List.cons_append, requestAll]
    split <;> simp only [ih, List.cons_append]

/-- After requests one after another, a name keeps the store it had, or gets the store built by
the first request for it whose build succeeded. -/
theorem find?_requestAll (p : Provider) (cs : List TableProperties) (n : String) :
    (p.requestAll cs).2.find? n = (p.find? n).or (p.firstBuilt n cs) := by
  induction cs generalizing p with
  | nil => simp [requestAll, firstBuilt]
  | cons c rest ih =>
    simp only [requestAll, firstBuilt, List.findSome?_cons]
    split
    · rename_i t p' h
      rw [ih p', find?_stateStore h, firstBuilt_congr (stateStore_maxAttempts h)]
      -- a name kept before keeps its store; otherwise this request's build comes first
      cases hp : p.find? n with
      | some u => rfl
      | none => cases (if c.tableName = n then (p.build c).toOption else none) <;> rfl
    · rename_i e h
      obtain ⟨-, hb⟩ := stateStore_eq_error h
      rw [ih p]
      by_cases hn : c.tableName = n <;> simp [hn, hb, Except.toOption, firstBuilt]

/-- The answer to a request, after others: the store kept for its name before them, or the one
built by the first earlier request for the name whose build succeeded, whatever properties the
request passes; with neither, the build of its own properties. -/
theorem requestAll_snoc (p : Provider) (cs : List TableProperties) (c : TableProperties) :
    (p.requestAll (cs ++ [c])).1 = (p.requestAll cs).1 ++
      [p.answer ((p.find? c.tableName).or (p.firstBuilt c.tableName cs)) c] := by
  generalize hq : (p.requestAll cs).2 = q
  have hfind : q.find? c.tableName = (p.find? c.tableName).or (p.firstBuilt c.tableName cs) := by
    rw [← hq, find?_requestAll]
  have hanswer : q.answer = p.answer := by
    rw [← hq]
    exact answer_congr (requestAll_maxAttempts p cs)
  -- the last request is one request on the provider the others leave
  have hlast : (q.requestAll [c]).1 =
      [p.answer ((p.find? c.tableName).or (p.firstBuilt c.tableName cs)) c] := by
    have hone := stateStore_map_fst q c
    rw [hfind, hanswer] at hone
    simp only [requestAll]
    split
    · rename_i t q' h
      rw [h] at hone
      exact congrArg (· :: []) hone
    · rename_i e h
      rw [h] at hone
      exact congrArg (· :: []) hone
  rw [requestAll_append, hq, hlast]

/-! ## The number of kept stores -/

theorem mem_names_iff_find? {n : String} : n ∈ p.tables.map (·.name) ↔ (p.find? n).isSome := by
  simp [find?, List.find?_isSome]

theorem isSome_firstBuilt {n : String} {cs : List TableProperties} :
    (p.firstBuilt n cs).isSome ↔ ∃ c ∈ cs, (p.build c).isOk ∧ c.tableName = n := by
  simp only [firstBuilt, List.findSome?_isSome_iff]
  refine exists_congr fun c => and_congr_right fun _ => ?_
  by_cases hn : c.tableName = n <;> cases p.build c <;> simp [hn, Except.toOption, Except.isOk,
    Except.toBool]

theorem namesDistinct_requestAll (hd : p.NamesDistinct) (cs : List TableProperties) :
    (p.requestAll cs).2.NamesDistinct := by
  induction cs generalizing p with
  | nil => exact hd
  | cons c rest ih =>
    simp only [requestAll]
    split
    · rename_i t p' h
      exact ih (hd.stateStore h)
    · exact ih hd

/-- A provider that keeps stores of distinct names keeps, after requests one after another, one
store for each name it kept before or whose request built a store. -/
theorem size_requestAll (hd : p.NamesDistinct) (cs : List TableProperties) :
    (p.requestAll cs).2.size =
      (p.tables.map (·.name) ++ (cs.filter fun c => (p.build c).isOk).map (·.tableName)).dedup.length := by
  have hperm : ((p.requestAll cs).2.tables.map (·.name)).Perm
      (p.tables.map (·.name) ++ (cs.filter fun c => (p.build c).isOk).map (·.tableName)).dedup := by
    refine (List.perm_ext_iff_of_nodup (namesDistinct_requestAll hd cs) (List.nodup_dedup _)).2
      fun n => ?_
    rw [mem_names_iff_find?, find?_requestAll, Option.isSome_or, Bool.or_eq_true,
      ← mem_names_iff_find?, isSome_firstBuilt, List.mem_dedup, List.mem_append]
    simp [and_assoc]
  simpa [size] using hperm.length_eq

theorem length_requestAll (p : Provider) (cs : List TableProperties) :
    (p.requestAll cs).1.length = cs.length := by
  induction cs generalizing p with
  | nil => rfl
  | cons c rest ih =>
    simp only [requestAll]
    split <;> simp [ih]

/-- The names whose requests were answered with a store. -/
def answeredNames (p : Provider) (cs : List TableProperties) : List String :=
  ((cs.zip (p.requestAll cs).1).filter (·.2.isOk)).map (·.1.tableName)

/-- A name is answered with a store when it was requested with a store kept for it, or some
request for it built one. -/
theorem mem_answeredNames (p : Provider) (cs : List TableProperties) (n : String) :
    n ∈ p.answeredNames cs ↔ (n ∈ cs.map (·.tableName) ∧ (p.find? n).isSome) ∨
      ∃ c ∈ cs, (p.build c).isOk ∧ c.tableName = n := by
  induction cs using List.reverseRecOn with
  | nil => simp [answeredNames, requestAll]
  | append_singleton cs c ih =>
    have hzip : (cs ++ [c]).zip (p.requestAll (cs ++ [c])).1 =
        cs.zip (p.requestAll cs).1 ++
          [(c, p.answer ((p.find? c.tableName).or (p.firstBuilt c.tableName cs)) c)] := by
      rw [requestAll_snoc, List.zip_append (length_requestAll p cs).symm]
      rfl
    -- the last answer is a store when the name had one, or when its build succeeds
    have hlast : (p.answer ((p.find? c.tableName).or (p.firstBuilt c.tableName cs)) c).isOk = true ↔
        (p.find? c.tableName).isSome ∨ (p.firstBuilt c.tableName cs).isSome ∨ (p.build c).isOk := by
      rw [isOk_answer, Option.isSome_or, Bool.or_eq_true, or_assoc]
    have hone : ∀ a : Except Error TableStore,
        n ∈ (([(c, a)].filter (·.2.isOk)).map (·.1.tableName)) ↔ c.tableName = n ∧ a.isOk = true := by
      intro a
      cases a <;> simp [Except.isOk, Except.toBool, eq_comm]
    have hmem : n ∈ p.answeredNames (cs ++ [c]) ↔ n ∈ p.answeredNames cs ∨
        (c.tableName = n ∧ ((p.find? c.tableName).isSome ∨ (p.firstBuilt c.tableName cs).isSome ∨
          (p.build c).isOk)) := by
      rw [answeredNames, hzip, List.filter_append, List.map_append, List.mem_append,
        ← answeredNames, hone, hlast]
    rw [hmem, ih, isSome_firstBuilt]
    constructor
    · rintro ((⟨hn, hs⟩ | ⟨c', hc', hb', rfl⟩) | ⟨rfl, hs | ⟨c', hc', hb', hn'⟩ | hb⟩)
      · exact .inl ⟨by simp [hn], hs⟩
      · exact .inr ⟨c', by simp [hc'], hb', rfl⟩
      · exact .inl ⟨by simp, hs⟩
      · exact .inr ⟨c', by simp [hc'], hb', hn'⟩
      · exact .inr ⟨c, by simp, hb, rfl⟩
    · rintro (⟨hn, hs⟩ | ⟨c', hc', hb', rfl⟩)
      · simp only [List.map_append, List.mem_append, List.map_cons, List.map_nil,
          List.mem_singleton] at hn
        rcases hn with hn | rfl
        · exact .inl (.inl ⟨hn, hs⟩)
        · exact .inr ⟨rfl, .inl hs⟩
      · rcases List.mem_append.1 hc' with hc' | hc'
        · exact .inl (.inr ⟨c', hc', hb', rfl⟩)
        · obtain rfl := List.mem_singleton.1 hc'
          exact .inr ⟨rfl, .inr (.inr hb')⟩

/-- From a provider without stores, the provider keeps one store for each name answered with a
store. -/
theorem size_requestAll_empty (m : Nat) (cs : List TableProperties) :
    ((empty m).requestAll cs).2.size = ((empty m).answeredNames cs).dedup.length := by
  have hd : (empty m).NamesDistinct := List.nodup_nil
  rw [size_requestAll hd]
  refine List.Perm.length_eq ((List.perm_ext_iff_of_nodup (List.nodup_dedup _)
    (List.nodup_dedup _)).2 fun n => ?_)
  rw [List.mem_dedup, List.mem_dedup, mem_answeredNames]
  simp [empty, find?, and_assoc]

/-! ## Database trees -/

/-- Distinct tables, or distinct roles, have distinct trees: read backwards, the names of the
three roles differ within their first characters, and the rest gives back the table's name. -/
theorem treeName_inj {t t' : String} {r r' : TreeRole} (h : treeName t r = treeName t' r') :
    t = t' ∧ r = r' := by
  have hl := congrArg (fun s : String => s.toList.reverse) h
  cases r <;> cases r' <;> simp [treeName, String.toList_append, List.reverse_append] at hl ⊢ <;>
    exact String.toList_inj.1 hl

end Provider

end TableState
