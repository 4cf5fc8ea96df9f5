import TableState.Proofs.Url.JoinedText

/-!
# What a snapshot series takes of its URL libraries

A snapshot series reads its locations with the libraries it is given (`UrlLibrary`): the URL
parser reads the base location's text with a snapshot's name joined to it (`snapshotUrl`), and the
object path parser reads the path of the URL that gives (`objectLocation`). What the proofs about
series take of these libraries is stated here as three laws, each of which the libraries the
stores are built with (`UrlLibrary.standard`) satisfy:

* `UrlLibrary.ReadsNamesAlike`: texts that differ only in a last name of plain characters read
  alike, into locations of one scheme and one host whose paths both read or both do not. The
  snapshots of two revisions with plain tokens then have locations alike
  (`snapshotLocation_alike`). The standard libraries read names alike after every `mem` location
  (`UrlLibrary.standard_readsNamesAlike`).
* `UrlLibrary.Appends`: a name of plain segments read after a location's text lands in its path,
  after the location's path without its trailing slashes. The standard libraries append to every
  location they read without query and fragment whose host reads back and whose `file` drive
  letters are written with a colon (`UrlLibrary.standard_appends`), so to every `mem` location
  with an empty host (`UrlLibrary.standard_appends_mem`).
* `UrlLibrary.KeepsPaths`: the object path parser reads a path as its own text without the leading
  slash (`UrlLibrary.standard_keepsPaths`).
-/

set_option autoImplicit false

namespace TableState

open Url

/-- The text before the name of a revision's snapshot of kind `k` under `base`, as `snapshotUrl`
joins it: the base's text without its trailing slashes, a slash, the kind's name and a slash. -/
def snapshotPrefix (base : Url) (k : RevisionKind) : List Char :=
  (base.toText.toList.reverse.dropWhile (· == '/')).reverse ++ '/' :: (k.name.toList ++ ['/'])

/-- Text without one leading slash, as an object path is read. -/
def dropSlash : List Char → List Char
  | c :: rest => if c = '/' then rest else c :: rest
  | [] => []

namespace UrlLibrary

/-- The URL parser reads two texts that differ only in a last name of plain characters alike:
both or neither, into locations of one scheme and one host whose paths the object path parser
reads both or neither. -/
def ReadsNamesAlike (L : UrlLibrary) (X : List Char) : Prop :=
  ∀ n n' : List Char, PlainName n → PlainName n' →
    Option.Rel (fun u u' => u.scheme = u'.scheme ∧ u.host = u'.host ∧
        (L.parsePath u.pathText).isSome = (L.parsePath u'.pathText).isSome)
      (L.parse (String.ofList (X ++ n))) (L.parse (String.ofList (X ++ n')))

/-- The URL parser appends names to a location: the location's text without its trailing
slashes, then a slash and a name of plain segments, reads as a location whose path text is the
location's without its trailing slashes, then the slash and the name. -/
def Appends (L : UrlLibrary) (b : Url) : Prop :=
  ∀ n : List Char, pathName n = true →
    ∃ u, L.parse (String.ofList (b.toText.toList.rdropWhile (· == '/') ++ '/' :: n)) = some u ∧
      u.pathText.toList = b.pathText.toList.rdropWhile (· == '/') ++ '/' :: n

/-- The object path parser keeps a path's text: a path that reads, and that without its leading
slash is not empty and does not end in a slash, reads as that text. -/
def KeepsPaths (L : UrlLibrary) : Prop :=
  ∀ (s : String) (p : ObjectPath), L.parsePath s = some p → dropSlash s.toList ≠ [] →
    (dropSlash s.toList).getLast? ≠ some '/' → p.toText.toList = dropSlash s.toList

end UrlLibrary

/-! ## Locations under a library -/

section Locations

variable {L : UrlLibrary} {b u u' : Url} {k : RevisionKind} {r r' : RevisionId}

/-- A revision's snapshot has the URL that the parser reads from the snapshot's name after the
prefix of its kind. -/
theorem snapshotUrl_eq_ok :
    snapshotUrl L b k r = .ok u ↔
      L.parse (String.ofList (snapshotPrefix b k ++ (r.toText ++ ".parquet").toList)) = some u := by
  have htext : String.ofList (b.toText.toList.reverse.dropWhile (· == '/')).reverse ++ "/" ++
      (k.name ++ "/" ++ r.toText ++ ".parquet") =
        String.ofList (snapshotPrefix b k ++ (r.toText ++ ".parquet").toList) := by
    rw [← String.toList_inj]
    simp [snapshotPrefix, String.toList_append]
  unfold snapshotUrl UrlLibrary.join UrlLibrary.ofText
  rw [htext]
  cases L.parse (String.ofList (snapshotPrefix b k ++ (r.toText ++ ".parquet").toList)) <;> simp

/-- A location has an object location exactly when its path reads and its store is known. -/
theorem objectLocation_exists_iff {op : String} :
    (∃ loc, objectLocation L u op = .ok loc) ↔
      (L.parsePath u.pathText).isSome = true ∧ ∃ key, u.storeKey = .ok key := by
  unfold objectLocation UrlLibrary.objectPath
  cases L.parsePath u.pathText <;> cases u.storeKey <;> simp

/-- The store of a location depends only on its scheme and its host. -/
theorem storeKey_exists_congr (hs : u.scheme = u'.scheme) (hh : u.host = u'.host) :
    (∃ key, u.storeKey = .ok key) ↔ ∃ key, u'.storeKey = .ok key := by
  have hname : u.hostName? = u'.hostName? := by
    rw [hostName?, hostName?, hh]
  unfold storeKey
  rw [hs, hname]
  -- the store is chosen by the scheme and the host alone; only the errors name the location
  repeat' split
  all_goals simp

/-- Under a library that reads names alike after the prefix of a kind, the snapshots of two
revisions with plain tokens have URLs alike, and then locations alike: both are found or both are
missing. -/
theorem snapshotLocation_alike (hL : L.ReadsNamesAlike (snapshotPrefix b k))
    (hr : PlainToken r.token) (hr' : PlainToken r'.token) :
    ((∃ u, snapshotUrl L b k r = .ok u) ↔ ∃ u', snapshotUrl L b k r' = .ok u') ∧
      ∀ u u', snapshotUrl L b k r = .ok u → snapshotUrl L b k r' = .ok u' → ∀ op,
        ((∃ loc, objectLocation L u op = .ok loc) ↔ ∃ loc', objectLocation L u' op = .ok loc') := by
  have hrel := hL _ _ (plainName_snapshotName hr) (plainName_snapshotName hr')
  simp only [snapshotUrl_eq_ok]
  generalize L.parse (String.ofList (snapshotPrefix b k ++ (r.toText ++ ".parquet").toList)) = o
    at hrel
  generalize L.parse (String.ofList (snapshotPrefix b k ++ (r'.toText ++ ".parquet").toList)) = o'
    at hrel
  -- both names read, into locations of one scheme and host with paths alike, or neither does
  cases hrel with
  | none => simp
  | some hsame =>
    rename_i v v'
    obtain ⟨hs, hh, hp⟩ := hsame
    refine ⟨by simp, fun u u' hu hu' op => ?_⟩
    cases Option.some.inj hu
    cases Option.some.inj hu'
    rw [objectLocation_exists_iff, objectLocation_exists_iff, hp, storeKey_exists_congr hs hh]

/-- Under a library that reads names alike after the prefix of a kind, a revision's snapshot has
an object location when that of any other revision with a plain token has. -/
theorem snapshotLocation_uniform (hL : L.ReadsNamesAlike (snapshotPrefix b k))
    (hr : PlainToken r.token) (hr' : PlainToken r'.token) {op : String} {loc : ObjectLocation}
    (hu : snapshotUrl L b k r = .ok u) (hloc : objectLocation L u op = .ok loc) (op' : String) :
    ∃ u' loc', snapshotUrl L b k r' = .ok u' ∧ objectLocation L u' op' = .ok loc' := by
  obtain ⟨hurl, hlocs⟩ := snapshotLocation_alike hL hr hr'
  obtain ⟨u', hu'⟩ := hurl.1 ⟨u, hu⟩
  -- a location found for one operation is found for every other
  have hfound : ∃ loc, objectLocation L u op' = .ok loc :=
    objectLocation_exists_iff.2 (objectLocation_exists_iff.1 ⟨loc, hloc⟩)
  obtain ⟨loc', hloc'⟩ := (hlocs u u' hu hu' op').1 hfound
  exact ⟨u', loc', hu', hloc'⟩

end Locations

/-! ## The standard libraries -/

/-- The text of a name read after a location's text by joining it. -/
theorem UrlLibrary.join_eq_ok {L : UrlLibrary} {b u : Url} {n : List Char}
    (h : L.parse (String.ofList (b.toText.toList.rdropWhile (· == '/') ++ '/' :: n)) = some u) :
    L.join b (String.ofList n) = .ok u := by
  have htext : String.ofList (b.toText.toList.reverse.dropWhile (· == '/')).reverse ++ "/" ++
      String.ofList n = String.ofList (b.toText.toList.rdropWhile (· == '/') ++ '/' :: n) := by
    rw [← String.toList_inj]
    simp [String.toList_append, List.rdropWhile]
  rw [UrlLibrary.join, htext, UrlLibrary.ofText, h]

theorem canonical_of_ofText {t : String} {b : Url} (hb : UrlLibrary.standard.ofText t = .ok b) :
    b.Canonical := by
  unfold UrlLibrary.ofText at hb
  split at hb
  · rename_i u hu
    cases hb
    exact parse_canonical hu
  · cases hb

/-- Under a `mem` location, the text of a plain name after the prefix of a kind is read as a URL
of the `mem` scheme from the location's text after its colon, cleaned, then a slash, the kind's
name, a slash and the name. -/
theorem parse_snapshotPrefix_mem {b : Url} (hmem : b.scheme = "mem") :
    ∃ Y, ∀ (k : RevisionKind) {m : List Char}, PlainName m →
      parse (String.ofList (snapshotPrefix b k ++ m)) =
        parseOther "mem" ((Y ++ '/' :: k.name.toList) ++ '/' :: m) := by
  obtain ⟨Y, hY⟩ := join_text_mem hmem
  refine ⟨Y.filter (fun c => c != '\t' && c != '\n' && c != '\r'), fun k m hm => ?_⟩
  have hkind : ∀ c ∈ k.name.toList, c ∈ plainChars := by
    cases k <;> exact fun c hc => mem_plainChars_of_mem (by decide) hc
  obtain ⟨x, hx⟩ : ∃ x, m.getLast? = some x :=
    Option.isSome_iff_exists.1 (List.getLast?_isSome.2 hm.ne_nil)
  have hclean := clean_mem Y (N := '/' :: (k.name.toList ++ '/' :: m))
    (fun c hc => by
      simp only [List.mem_cons, List.mem_append] at hc
      rcases hc with rfl | hc | rfl | hc
      · exact .inr rfl
      · exact .inl (hkind c hc)
      · exact .inr rfl
      · exact .inl (hm.plain c hc))
    (hm.plain x (List.mem_of_getLast? hx))
    (by rw [List.getLast?_cons, getLast?_append_cons _ _ hm.ne_nil, hx]; rfl)
  -- the prefix is the scheme, a colon, the rest of the location's text, a slash and the kind
  have htext : snapshotPrefix b k ++ m = 'm' :: 'e' :: 'm' :: ':' ::
      (Y ++ '/' :: (k.name.toList ++ '/' :: m)) := by
    simp [snapshotPrefix, hY]
  rw [htext, parse_mem hclean]
  simp only [List.append_assoc, List.cons_append]

/-- The standard libraries read plain names alike after the prefix of every kind under a `mem`
location. -/
theorem UrlLibrary.standard_readsNamesAlike {b : Url} (hmem : b.scheme = "mem")
    (k : RevisionKind) : UrlLibrary.standard.ReadsNamesAlike (snapshotPrefix b k) := by
  intro n n' hn hn'
  obtain ⟨Y, hY⟩ := parse_snapshotPrefix_mem hmem
  have hlast : (Y ++ '/' :: k.name.toList).getLast? ≠ some '/' := by
    rw [getLast?_append_cons _ _ (by cases k <;> decide)]
    cases k <;> decide
  have hrel := parseOther_sameButLast (by simp) hlast hn hn'
  change Option.Rel _ (Url.parse _) (Url.parse _)
  rw [hY k hn, hY k hn']
  generalize parseOther "mem" ((Y ++ '/' :: k.name.toList) ++ '/' :: n) = o at hrel ⊢
  generalize parseOther "mem" ((Y ++ '/' :: k.name.toList) ++ '/' :: n') = o' at hrel ⊢
  cases hrel with
  | none => exact .none
  | some h => exact .some ⟨h.1, h.2.1, h.2.2.objectPath_isSome hn hn'⟩

/-- The standard libraries append names to every location they read without query and fragment
whose host reads back and whose `file` drive letters under a host are written with a colon. -/
theorem UrlLibrary.standard_appends {t : String} {b : Url}
    (hb : UrlLibrary.standard.ofText t = .ok b) (hq : b.query = none) (hf : b.fragment = none)
    (hback : b.HostReadsBack) (hdrive : b.DriveWithColon) : UrlLibrary.standard.Appends b :=
  fun _ hn =>
    (parse_appended (canonical_of_ofText hb) hq hf hback hdrive hn).imp fun _ h => ⟨h.1, h.2.2⟩

/-- The standard libraries append names to every `mem` location they read with an empty host and
without query and fragment: such a host has nothing to read back, and no drive letter. -/
theorem UrlLibrary.standard_appends_mem {t : String} {b : Url}
    (hb : UrlLibrary.standard.ofText t = .ok b) (hmem : b.scheme = "mem") (hhost : b.host = some "")
    (hq : b.query = none) (hf : b.fragment = none) : UrlLibrary.standard.Appends b := by
  have hback : b.HostReadsBack := by
    intro h hh hne
    rw [hhost, Option.some_inj] at hh
    exact absurd hh.symm hne
  have hdrive : b.DriveWithColon := fun hfile => absurd (hmem.symm.trans hfile) (by decide)
  exact UrlLibrary.standard_appends hb hq hf hback hdrive

theorem splitWhen_intercalate (c : Char) (cs : List Char) :
    [c].intercalate (splitWhen (· == c) cs) = cs := by
  induction cs with
  | nil => simp [splitWhen]
  | cons x xs ih =>
    obtain ⟨s, ss, hs⟩ := List.exists_cons_of_ne_nil (splitWhen_ne_nil (· == c) xs)
    rw [hs] at ih
    by_cases hx : x = c
    · subst hx
      simp [splitWhen, hs, ih]
    · have hxc : (x == c) = false := by simpa using hx
      simp only [splitWhen, hxc, Bool.false_eq_true, if_false, hs, List.intercalate_cons_cons_left,
        ih]

/-- The text of an object path read from text that is not empty after its leading slash and does
not end in one: that text itself. -/
theorem ObjectPath.toText_of_parse {s : String} {p : ObjectPath}
    (h : ObjectPath.parse s = some p) (hne : dropSlash s.toList ≠ [])
    (hlast : (dropSlash s.toList).getLast? ≠ some '/') :
    p.toText.toList = dropSlash s.toList := by
  -- the parts read are the pieces of the text between its slashes
  have hparts : p.parts = (splitWhen (· == '/') (dropSlash s.toList)).map String.ofList := by
    have hempty : (dropSlash s.toList).isEmpty = false := List.isEmpty_eq_false_iff.2 hne
    have hnot : ((dropSlash s.toList).getLast? == some '/') = false := by simpa using hlast
    unfold ObjectPath.parse at h
    split at h
    · rename_i rest hrest
      have hd : dropSlash s.toList = rest := by simp [hrest, dropSlash]
      rw [hd] at hempty hnot ⊢
      simp only [hempty, hnot, Bool.false_eq_true, if_false] at h
      split at h
      · exact (Option.some.inj h).symm ▸ rfl
      · cases h
    · rename_i cs hcs
      have hd : dropSlash s.toList = s.toList := by
        cases hs : s.toList with
        | nil => rfl
        | cons c rest =>
          have hc : c ≠ '/' := by
            rintro rfl
            exact hcs rest hs
          simp [dropSlash, hc]
      rw [hd] at hempty hnot ⊢
      simp only [hempty, hnot, Bool.false_eq_true, if_false] at h
      split at h
      · exact (Option.some.inj h).symm ▸ rfl
      · cases h
  rw [ObjectPath.toText, String.toList_intercalate, hparts, List.map_map]
  simp only [Function.comp_def, String.toList_ofList, List.map_id']
  exact splitWhen_intercalate '/' _

/-- The standard object path parser keeps paths. -/
theorem UrlLibrary.standard_keepsPaths : UrlLibrary.standard.KeepsPaths :=
  fun _ _ h hne hlast => ObjectPath.toText_of_parse h hne hlast

end TableState
