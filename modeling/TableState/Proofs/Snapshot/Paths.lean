import TableState.Proofs.Url.Library
import TableState.Proofs.Revision.Text

/-!
# Snapshot paths never collide

A snapshot series keeps the snapshot of revision `r` of kind `k` at its base location joined with
the name `<k>/<r>.parquet`, read by the series' URL parser, and at the object path that its object
path parser reads from the URL's path. Under a URL parser that appends names to the base
(`UrlLibrary.Appends`), the joined URL has the base's path text without its trailing slashes, then
a slash and the name (`snapshotUrl_pathText`); names of different kinds or revisions differ
(`snapshotName_inj`); and an object path parser that keeps paths (`UrlLibrary.KeepsPaths`) keeps the
name whole at the end of the object path (`objectPath_toText`). So two different snapshots never
share an object path (`snapshotPath_inj`), and every snapshot of a revision with a plain token has
a URL (`snapshot_paths_apart`).

The standard libraries append names to a base read from text without query and fragment
(`UrlLibrary.standard_appends`). A query or a fragment in the base location breaks this: the name
is then joined to the query or the fragment, and every snapshot of the series has the base's path.
-/

set_option autoImplicit false

namespace TableState

open Url

/-! ## Revision texts and snapshot names -/

namespace RevisionId

/-- Different revisions have different texts, whatever their numbers: the digits of the padded
number hold no dash, so the first dash ends them. -/
theorem toText_inj {a b : RevisionId} (h : a.toText = b.toText) : a = b := by
  have hdigits : ∀ r : RevisionId, ∀ c ∈ (padded 12 r.revision).toList, (c != '-') = true := by
    intro r c hc
    have hc := padded_digits 12 r.revision c hc
    have : c ≠ '-' := by
      rintro rfl
      exact absurd hc.1 (by decide)
    simpa using this
  have hl := congrArg String.toList h
  rw [toText_toList, toText_toList] at hl
  have htake := congrArg (List.takeWhile (· != '-')) hl
  rw [takeWhile_of_stop (hdigits a) (c := '-') rfl, takeWhile_of_stop (hdigits b) (c := '-') rfl]
    at htake
  have hdrop := congrArg (List.dropWhile (· != '-')) hl
  rw [dropWhile_of_stop (hdigits a) (c := '-') rfl, dropWhile_of_stop (hdigits b) (c := '-') rfl]
    at hdrop
  have hrev : a.revision = b.revision := by
    rw [← ofDigitChars_padded 12 a.revision, htake, ofDigitChars_padded]
  have htok : a.token = b.token := String.toList_inj.1 (List.cons.inj hdrop).2
  cases a
  cases b
  simp_all

end RevisionId

/-- The name of the snapshot of a revision of a kind, as characters. -/
def snapshotName (k : RevisionKind) (r : RevisionId) : List Char :=
  (k.name ++ "/" ++ r.toText ++ ".parquet").toList

theorem snapshotName_eq (k : RevisionKind) (r : RevisionId) :
    snapshotName k r = k.name.toList ++ '/' :: (r.toText ++ ".parquet").toList := by
  simp [snapshotName, String.toList_append]

theorem kindName_no_slash (k : RevisionKind) : ∀ c ∈ k.name.toList, (c == '/') = false := by
  have h : k.name.toList.all (fun c => !(c == '/')) = true := by
    cases k <;> decide
  intro c hc
  simpa using List.all_eq_true.1 h c hc

/-- The name of a snapshot is a path of two plain segments when the revision's token is plain. -/
theorem pathName_snapshotName (k : RevisionKind) {r : RevisionId} (hr : PlainToken r.token) :
    pathName (snapshotName k r) = true := by
  have hB := plainName_snapshotName hr
  have hlen := hB.long
  rw [snapshotName_eq, pathName, splitWhen_append_sep (by rfl), splitWhen_of_none
    (kindName_no_slash k), hB.splitWhen_slash]
  -- the kind's name, then the revision's file name
  have hkind : (!k.name.toList.isEmpty && k.name.toList != ['.'] && k.name.toList != ['.', '.'] &&
      k.name.toList.all nameChar) = true := by
    cases k <;> decide
  have hfile : (r.toText ++ ".parquet").toList.all nameChar = true :=
    List.all_eq_true.2 (hB.all (by decide))
  have hne : ∀ l : List Char, l.length ≤ 2 → (r.toText ++ ".parquet").toList ≠ l :=
    fun l hl he => by rw [he] at hlen; omega
  simp only [List.singleton_append, List.all_cons, List.all_nil, Bool.and_true, hkind,
    Bool.true_and, hfile, bne_iff_ne, ne_eq, Bool.and_eq_true, Bool.not_eq_eq_eq_not,
    Bool.not_true, List.isEmpty_eq_false_iff]
  exact ⟨⟨hne [] (by simp), hne ['.'] (by simp)⟩, hne ['.', '.'] (by simp)⟩

/-- Snapshots of different kinds or revisions have different names. -/
theorem snapshotName_inj {k k' : RevisionKind} {r r' : RevisionId}
    (h : snapshotName k r = snapshotName k' r') : k = k' ∧ r = r' := by
  rw [snapshotName_eq, snapshotName_eq] at h
  have hkind := kindName_no_slash
  have htake := congrArg (List.takeWhile (· != '/')) h
  have hdrop := congrArg (List.dropWhile (· != '/')) h
  have hstop : ∀ k : RevisionKind, ∀ c ∈ k.name.toList, (c != '/') = true := fun k c hc => by
    simpa using hkind k c hc
  rw [takeWhile_of_stop (hstop k) (c := '/') rfl, takeWhile_of_stop (hstop k') (c := '/') rfl]
    at htake
  rw [dropWhile_of_stop (hstop k) (c := '/') rfl, dropWhile_of_stop (hstop k') (c := '/') rfl]
    at hdrop
  have hk : k = k' := by
    cases k <;> cases k' <;> first | rfl | exact absurd htake (by decide)
  have hfile := (List.cons.inj hdrop).2
  simp only [String.toList_append, List.append_cancel_right_eq] at hfile
  exact ⟨hk, RevisionId.toText_inj (String.toList_inj.1 hfile)⟩

/-! ## Object paths of joined names -/

theorem dropSlash_append {P n : List Char} :
    ∃ Q, dropSlash (P ++ '/' :: n) = Q ++ n := by
  cases P with
  | nil => exact ⟨[], by simp [dropSlash]⟩
  | cons c P =>
    by_cases hc : c = '/'
    · exact ⟨P ++ ['/'], by simp [dropSlash, hc]⟩
    · exact ⟨c :: P ++ ['/'], by simp [dropSlash, hc]⟩

/-- Text ending in a name, without its leading slash, determines the name. -/
theorem dropSlash_append_inj {P n n' : List Char}
    (h : dropSlash (P ++ '/' :: n) = dropSlash (P ++ '/' :: n')) : n = n' := by
  cases P with
  | nil => simpa [dropSlash] using h
  | cons c P =>
    by_cases hc : c = '/' <;> simpa [dropSlash, hc] using h

/-- The object path that a library keeping paths reads for a URL whose path text ends in a name:
that text without its leading slash. -/
theorem objectPath_toText {L : UrlLibrary} (hkeep : L.KeepsPaths) {u : Url} {P n : List Char}
    (hpath : u.pathText.toList = P ++ '/' :: n) (hn : pathName n = true) {p : ObjectPath}
    (hp : L.objectPath u = .ok p) : p.toText.toList = dropSlash (P ++ '/' :: n) := by
  have hparse : L.parsePath u.pathText = some p := by
    unfold UrlLibrary.objectPath at hp
    split at hp
    · rename_i q hq
      cases hp
      exact hq
    · cases hp
  obtain ⟨c, cs, rfl, -⟩ := pathName_head hn
  obtain ⟨Q, hQ⟩ := dropSlash_append (P := P) (n := c :: cs)
  rw [← hpath]
  refine hkeep _ _ hparse ?_ ?_
  · rw [hpath, hQ]
    simp
  · rw [hpath, hQ, List.getLast?_append_of_ne_nil _ (List.cons_ne_nil c cs)]
    intro hl
    have := pathName_getLast hn '/' hl
    exact absurd this (by decide)

/-! ## Snapshot locations -/

section Laws

variable {L : UrlLibrary} {b : Url} (happ : L.Appends b)
include happ

/-- Every snapshot of a revision with a plain token has a URL, whose path text is the base's
without its trailing slashes, then a slash and the snapshot's name. -/
theorem snapshotUrl_pathText (k : RevisionKind) {r : RevisionId} (hr : PlainToken r.token) :
    ∃ u, snapshotUrl L b k r = .ok u ∧
      u.pathText.toList = b.pathText.toList.rdropWhile (· == '/') ++ '/' :: snapshotName k r := by
  obtain ⟨u, hu, hpath⟩ := happ _ (pathName_snapshotName k hr)
  have hjoin := UrlLibrary.join_eq_ok hu
  rw [snapshotName, String.ofList_toList] at hjoin
  exact ⟨u, by rw [snapshotUrl, hjoin], hpath⟩

/-- Snapshots of different kinds or revisions, with plain tokens, have different object paths. -/
theorem snapshotPath_inj (hkeep : L.KeepsPaths) {k k' : RevisionKind} {r r' : RevisionId}
    (hr : PlainToken r.token) (hr' : PlainToken r'.token) {u u' : Url}
    (hu : snapshotUrl L b k r = .ok u) (hu' : snapshotUrl L b k' r' = .ok u') {p p' : ObjectPath}
    (hp : L.objectPath u = .ok p) (hp' : L.objectPath u' = .ok p') (h : p.toText = p'.toText) :
    k = k' ∧ r = r' := by
  obtain ⟨v, hv, hpath⟩ := snapshotUrl_pathText happ k hr
  obtain ⟨v', hv', hpath'⟩ := snapshotUrl_pathText happ k' hr'
  cases hu.symm.trans hv
  cases hu'.symm.trans hv'
  have htext := objectPath_toText hkeep hpath (pathName_snapshotName k hr) hp
  have htext' := objectPath_toText hkeep hpath' (pathName_snapshotName k' hr') hp'
  rw [h, htext'] at htext
  exact snapshotName_inj (dropSlash_append_inj htext.symm)

end Laws

/-- **Snapshot paths never collide**, under libraries that append names and keep paths. For a URL
parser that reads a name of plain segments after a base location's text into the base's path,
and an object path parser that keeps the text of a path: joining a name of plain segments keeps
it in the path, after the base's path without its trailing slashes; every snapshot of a revision
with a plain token (lowercase letters, digits, `-` and `.`, as in a UUID) has a URL; and snapshots
of different kinds or revisions have different paths, and different object paths where both
read. -/
theorem snapshot_paths_apart (L : UrlLibrary) (hkeep : L.KeepsPaths) (b : Url)
    (happ : L.Appends b) :
    (∀ n : List Char, pathName n = true → ∃ u, L.join b (String.ofList n) = .ok u ∧
      u.pathText.toList = b.pathText.toList.rdropWhile (· == '/') ++ '/' :: n) ∧
    (∀ (k : RevisionKind) (r : RevisionId), PlainToken r.token →
      ∃ u, snapshotUrl L b k r = .ok u) ∧
    (∀ (k k' : RevisionKind) (r r' : RevisionId) (u u' : Url), PlainToken r.token →
      PlainToken r'.token → (k, r) ≠ (k', r') → snapshotUrl L b k r = .ok u →
      snapshotUrl L b k' r' = .ok u' →
      u.pathText ≠ u'.pathText ∧
        ∀ p p', L.objectPath u = .ok p → L.objectPath u' = .ok p' → p ≠ p') := by
  refine ⟨fun n hn => ?_, fun k r hr => ?_, fun k k' r r' u u' hr hr' hne hu hu' => ⟨?_, ?_⟩⟩
  · obtain ⟨u, hu, hpath⟩ := happ n hn
    exact ⟨u, UrlLibrary.join_eq_ok hu, hpath⟩
  · obtain ⟨u, hu, -⟩ := snapshotUrl_pathText happ k hr
    exact ⟨u, hu⟩
  · -- the path texts end in the two names, after the same text
    intro htext
    obtain ⟨v, hv, hpath⟩ := snapshotUrl_pathText happ k hr
    obtain ⟨v', hv', hpath'⟩ := snapshotUrl_pathText happ k' hr'
    cases hu.symm.trans hv
    cases hu'.symm.trans hv'
    rw [htext, hpath'] at hpath
    obtain ⟨rfl, rfl⟩ := snapshotName_inj (List.cons.inj (List.append_cancel_left hpath)).2.symm
    exact hne rfl
  · rintro p p' hp hp' rfl
    obtain ⟨rfl, rfl⟩ := snapshotPath_inj happ hkeep hr hr' hu hu' hp hp' rfl
    exact hne rfl

/-- Under `mem:///t`, the standard libraries keep paths and append names, and the partition and
file snapshots of the first revision have URLs with different paths. -/
theorem memory_snapshot_paths_apart :
    UrlLibrary.standard.ofText "mem:///t" =
        .ok ⟨"mem", "", "", some "", none, .segments ["t"], none, none⟩ ∧
      UrlLibrary.standard.KeepsPaths ∧
      UrlLibrary.standard.Appends ⟨"mem", "", "", some "", none, .segments ["t"], none, none⟩ ∧
      ∃ u u', snapshotUrl .standard ⟨"mem", "", "", some "", none, .segments ["t"], none, none⟩
          .partitions ⟨1, "rev" ++ toString 0⟩ = .ok u ∧
        snapshotUrl .standard ⟨"mem", "", "", some "", none, .segments ["t"], none, none⟩ .files
          ⟨1, "rev" ++ toString 0⟩ = .ok u' ∧ u.pathText ≠ u'.pathText := by
  have hb : UrlLibrary.standard.ofText "mem:///t" =
      .ok ⟨"mem", "", "", some "", none, .segments ["t"], none, none⟩ := by rfl
  have happ := UrlLibrary.standard_appends_mem hb rfl rfl rfl rfl
  obtain ⟨-, hurl, happart⟩ :=
    snapshot_paths_apart .standard UrlLibrary.standard_keepsPaths _ happ
  obtain ⟨u, hu⟩ := hurl .partitions ⟨1, "rev" ++ toString 0⟩ (plainToken_rev 0)
  obtain ⟨u', hu'⟩ := hurl .files ⟨1, "rev" ++ toString 0⟩ (plainToken_rev 0)
  exact ⟨hb, UrlLibrary.standard_keepsPaths, happ, u, u', hu, hu',
    (happart _ _ _ _ u u' (plainToken_rev 0) (plainToken_rev 0) (by simp) hu hu').1⟩

end TableState
