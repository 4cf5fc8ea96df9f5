import TableState.Store.Snapshot
import TableState.Proofs.Text.Json
import Mathlib.Data.List.TakeWhile

/-!
# Names read after a `mem` location

A snapshot series names the snapshot of a revision by joining `<kind>/<revision>.parquet` to its
base location (`snapshotUrl`), and keeps the object at the path of the URL that gives. The tables
of a session keep their objects in memory, so their base locations have the `mem` scheme, which
is not special: `Url.parse` reads the joined text with `Url.parseOther`.

Only the last segment of the joined text depends on the revision, and its characters are plain:
lowercase ASCII letters, digits, dashes and dots, which no part of a URL reads specially and no
encode set changes. So the URL read from the joined text has the scheme and the host of any other
such text, and has the snapshot's name as the last segment of its path, after segments that do not
depend on it, or carries the name in its query or fragment and has a path that does not depend on
it (`Url.parseOther_sameButLast`). Either way the path is a valid object path for every revision or
for none (`Url.SameButLast.objectPath_isSome`). Every token a store issues is plain
(`plainToken_rev`), and so is the name of its snapshot (`plainName_snapshotName`).
-/

set_option autoImplicit false

namespace TableState.Url

/-! ## Lists cut at a separator -/

theorem takeWhile_append_sep {p : Char → Bool} {c : Char} (hc : p c = false) (xs ys : List Char) :
    (xs ++ c :: ys).takeWhile p = xs.takeWhile p := by
  induction xs with
  | nil => simp [hc]
  | cons x xs ih => by_cases hx : p x <;> simp [hx, ih]

theorem dropWhile_append_sep {p : Char → Bool} {c : Char} (hc : p c = false) (xs ys : List Char) :
    (xs ++ c :: ys).dropWhile p = xs.dropWhile p ++ c :: ys := by
  induction xs with
  | nil => simp [hc]
  | cons x xs ih => by_cases hx : p x <;> simp [hx, ih]

theorem takeWhile_append_of_not_all {p : Char → Bool} {C : List Char} (h : C.all p = false)
    (ys : List Char) : (C ++ ys).takeWhile p = C.takeWhile p := by
  induction C with
  | nil => simp at h
  | cons x C ih =>
    by_cases hx : p x
    · simp only [List.all_cons, hx, Bool.true_and] at h
      simp [hx, ih h]
    · simp [hx]

theorem dropWhile_append_of_stop {p : Char → Bool} (L : List Char) {M : List Char}
    (hM : M.dropWhile p = M) : (L ++ M).dropWhile p = L.dropWhile p ++ M := by
  rw [List.dropWhile_append]
  split
  · rename_i h
    rw [List.isEmpty_iff.1 h, hM]
    rfl
  · rfl

theorem getLast?_append_cons {α : Type} (Z : List α) (c : α) {C : List α} (hC : C ≠ []) :
    (Z ++ c :: C).getLast? = C.getLast? := by
  obtain ⟨C₀, d, rfl⟩ := List.eq_nil_or_concat C |>.resolve_left hC
  rw [List.concat_eq_append, show Z ++ c :: (C₀ ++ [d]) = (Z ++ c :: C₀) ++ [d] by simp,
    List.getLast?_concat, List.getLast?_concat]

theorem splitWhen_ne_nil {α : Type} (p : α → Bool) (xs : List α) : splitWhen p xs ≠ [] := by
  cases xs with
  | nil => simp [splitWhen]
  | cons x xs =>
    unfold splitWhen
    split
    · simp
    · split <;> simp

theorem splitWhen_append_sep {α : Type} {p : α → Bool} {c : α} (hc : p c = true) (xs ys : List α) :
    splitWhen p (xs ++ c :: ys) = splitWhen p xs ++ splitWhen p ys := by
  induction xs with
  | nil => simp [splitWhen, hc]
  | cons x xs ih =>
    obtain ⟨s, ss, hs⟩ := List.exists_cons_of_ne_nil (splitWhen_ne_nil p xs)
    by_cases hx : p x
    · simp [splitWhen, hx, ih]
    · simp [splitWhen, hx, ih, hs]

theorem splitWhen_of_none {α : Type} {p : α → Bool} {xs : List α} (h : ∀ x ∈ xs, p x = false) :
    splitWhen p xs = [xs] := by
  induction xs with
  | nil => rfl
  | cons x xs ih =>
    simp only [List.mem_cons, forall_eq_or_imp] at h
    simp [splitWhen, h.1, ih h.2]

theorem encodeAll_of_forall {inSet : Char → Bool} {cs : List Char} (h : ∀ c ∈ cs, inSet c = false) :
    encodeAll inSet cs = cs := by
  induction cs with
  | nil => rfl
  | cons c cs ih =>
    simp only [List.mem_cons, forall_eq_or_imp] at h
    simp [encodeAll, percentEncode, h.1] at ih ⊢
    exact ih h.2

theorem encodeAll_append (inSet : Char → Bool) (xs ys : List Char) :
    encodeAll inSet (xs ++ ys) = encodeAll inSet xs ++ encodeAll inSet ys :=
  List.flatMap_append

/-! ## Plain names -/

/-- The characters of snapshot names: lowercase ASCII letters, digits, dashes and dots. -/
def plainChars : List Char := "abcdefghijklmnopqrstuvwxyz0123456789-.".toList

/-- A name of plain characters, too long to be a dot segment, also one spelled with `%2e`. -/
structure PlainName (cs : List Char) : Prop where
  plain : ∀ c ∈ cs, c ∈ plainChars
  long : 6 < cs.length

/-- Whether a character goes on the path text, before a query or a fragment. -/
abbrev inPath (c : Char) : Bool := c != '?' && c != '#'

namespace PlainName

variable {B : List Char} (hB : PlainName B)
include hB

theorem all {P : Char → Bool} (hP : plainChars.all P = true) : ∀ c ∈ B, P c = true :=
  fun c hc => List.all_eq_true.1 hP c (hB.plain c hc)

theorem ne_nil : B ≠ [] := by
  intro h
  have := hB.long
  simp [h] at this

theorem ne_of_length_le {s : String} (hs : s.length ≤ 6) : String.ofList B ≠ s := by
  intro he
  have hlen : (String.ofList B).length = B.length := by simp
  have := hB.long
  rw [he] at hlen
  omega

theorem getLast?_ne_slash : (B.getLast? == some '/') = false := by
  obtain ⟨c, hc⟩ := Option.isSome_iff_exists.1 (List.getLast?_isSome.2 hB.ne_nil)
  have := hB.all (P := (· != '/')) (by decide) c (List.mem_of_getLast? hc)
  simp_all

theorem splitWhen_slash : splitWhen (· == '/') B = [B] :=
  splitWhen_of_none fun c hc => by simpa using hB.all (P := (· != '/')) (by decide) c hc

theorem validPart : ObjectPath.validPart (String.ofList B) = true := by
  have hlen : (String.ofList B).length = B.length := by simp
  have hne : ∀ s : String, s.length ≤ 2 → String.ofList B ≠ s := fun s hs he => by
    have := hB.long
    rw [he] at hlen
    omega
  simp only [ObjectPath.validPart, String.toList_ofList, Bool.and_eq_true, Bool.not_eq_eq_eq_not,
    Bool.not_true, bne_iff_ne, ne_eq]
  exact ⟨⟨⟨Bool.eq_false_iff.2 fun h => hne "" (by decide) (String.isEmpty_iff.1 h),
    hne "." (by decide)⟩, hne ".." (by decide)⟩, List.all_eq_true.2 (hB.all (by decide))⟩

theorem asciiLower_eq : asciiLower (String.ofList B) = String.ofList B := by
  simp only [asciiLower, String.toList_ofList]
  congr 1
  refine (List.map_congr_left fun c hc => ?_).trans (List.map_id B)
  have h := hB.all (P := fun c => decide ¬('A' ≤ c ∧ c ≤ 'Z')) (by decide) c hc
  rw [if_neg (of_decide_eq_true h)]
  rfl

/-- A plain name is a segment of its own, as it is. -/
theorem addSegment (path : List String) :
    addSegment false false path B = (path ++ [String.ofList B], false) := by
  have henc : encodeAll inPathSet B = B := encodeAll_of_forall fun c hc => by
    simpa using hB.all (P := (!inPathSet ·)) (by decide) c hc
  have hdd : isDoubleDot (String.ofList B) = false := by
    simp only [isDoubleDot, hB.asciiLower_eq]
    simp [hB.ne_of_length_le (s := "..") (by decide), hB.ne_of_length_le (s := ".%2e") (by decide),
      hB.ne_of_length_le (s := "%2e.") (by decide), hB.ne_of_length_le (s := "%2e%2e") (by decide)]
  have hsd : isSingleDot (String.ofList B) = false := by
    simp only [isSingleDot, hB.asciiLower_eq]
    simp [hB.ne_of_length_le (s := ".") (by decide), hB.ne_of_length_le (s := "%2e") (by decide)]
  simp [Url.addSegment, henc, hdd, hsd]

theorem takeWhile_inPath : ('/' :: B).takeWhile inPath = '/' :: B :=
  List.takeWhile_eq_self_iff.2 fun c hc => by
    rcases List.mem_cons.1 hc with rfl | hc
    · rfl
    · exact hB.all (P := inPath) (by decide) c hc

end PlainName

/-! ## Object paths -/

/-- Reading an object path strips one leading slash; when what is left is not empty and does not
end in a slash, the path is valid when every segment of it is. -/
theorem objectPath_parse_isSome {s : String} {cs : List Char}
    (hstrip : s.toList = '/' :: cs ∨ (s.toList = cs ∧ cs.head? ≠ some '/')) (hne : cs ≠ [])
    (hlast : (cs.getLast? == some '/') = false) :
    (ObjectPath.parse s).isSome = ((splitWhen (· == '/') cs).map String.ofList).all
      ObjectPath.validPart := by
  have hempty : cs.isEmpty = false := List.isEmpty_eq_false_iff.2 hne
  unfold ObjectPath.parse
  split
  · rename_i rest hrest
    obtain rfl : rest = cs := by
      rcases hstrip with h | ⟨h, hhead⟩
      · exact (List.cons.inj (hrest.symm.trans h)).2
      · rw [h] at hrest
        simp [hrest] at hhead
    simp only [hempty, hlast, Bool.false_eq_true, ↓reduceIte]
    split
    · rename_i h
      rw [h]
      rfl
    · rename_i h
      exact (Bool.eq_false_iff.2 h).symm
  · rename_i cs' hcs'
    obtain rfl : s.toList = cs := by
      rcases hstrip with h | ⟨h, -⟩
      · exact absurd h (hcs' cs)
      · exact h
    simp only [hempty, hlast, Bool.false_eq_true, ↓reduceIte]
    split
    · rename_i h
      rw [h]
      rfl
    · rename_i h
      exact (Bool.eq_false_iff.2 h).symm

/-- Texts that differ only in a last plain segment are valid object paths or not alike. -/
theorem objectPath_parse_uniform {X B B' : List Char} (hB : PlainName B) (hB' : PlainName B')
    {s s' : String} (hs : s.toList = X ++ '/' :: B) (hs' : s'.toList = X ++ '/' :: B') :
    (ObjectPath.parse s).isSome = (ObjectPath.parse s').isSome := by
  have hlast : ∀ {C} (Z : List Char), PlainName C → ((Z ++ '/' :: C).getLast? == some '/') = false := by
    intro C Z hC
    rw [getLast?_append_cons Z '/' hC.ne_nil]
    exact hC.getLast?_ne_slash
  have hparts : ∀ {C} (Z : List Char), PlainName C → ((splitWhen (· == '/') (Z ++ '/' :: C)).map String.ofList).all
      ObjectPath.validPart = ((splitWhen (· == '/') Z).map String.ofList).all ObjectPath.validPart := by
    intro C Z hC
    rw [splitWhen_append_sep (by rfl), hC.splitWhen_slash]
    simp [hC.validPart]
  cases X with
  | nil =>
    rw [objectPath_parse_isSome (.inl hs) hB.ne_nil hB.getLast?_ne_slash,
      objectPath_parse_isSome (.inl hs') hB'.ne_nil hB'.getLast?_ne_slash, hB.splitWhen_slash,
      hB'.splitWhen_slash]
    simp [hB.validPart, hB'.validPart]
  | cons x X =>
    by_cases hx : x = '/'
    · subst hx
      rw [@objectPath_parse_isSome _ (X ++ '/' :: B) (.inl hs) (by simp) (hlast X hB),
        @objectPath_parse_isSome _ (X ++ '/' :: B') (.inl hs') (by simp) (hlast X hB'),
        hparts X hB, hparts X hB']
    · rw [@objectPath_parse_isSome _ (x :: X ++ '/' :: B) (.inr ⟨hs, by simpa⟩) (by simp)
          (hlast (x :: X) hB),
        @objectPath_parse_isSome _ (x :: X ++ '/' :: B') (.inr ⟨hs', by simpa⟩) (by simp)
          (hlast (x :: X) hB'),
        hparts (x :: X) hB, hparts (x :: X) hB']

/-- Two path texts that agree up to a last segment: equal, or the same text followed by a slash
and each segment. -/
def SameButLast (B B' : List Char) (s s' : String) : Prop :=
  s = s' ∨ ∃ X, s.toList = X ++ '/' :: B ∧ s'.toList = X ++ '/' :: B'

theorem SameButLast.objectPath_isSome {B B' : List Char} {s s' : String}
    (h : SameButLast B B' s s') (hB : PlainName B) (hB' : PlainName B') :
    (ObjectPath.parse s).isSome = (ObjectPath.parse s').isSome := by
  rcases h with rfl | ⟨X, hs, hs'⟩
  · rfl
  · exact objectPath_parse_uniform hB hB' hs hs'

/-! ## Paths of segments -/

section Segments

variable {B B' : List Char}

/-- The segments of path text that ends in a slash and a plain name: those of the text before,
and the name. -/
theorem addSegments_append_plain (C : List Char) :
    ∃ G : List String, ∀ {B : List Char}, PlainName B →
      (addSegments false false [] (C ++ '/' :: B)).1 = G ++ [String.ofList B] := by
  let q := fun c : Char => c == '/' || (false && c == '\\')
  refine ⟨((splitWhen q C).zipIdx.foldl (fun acc r =>
    let added := addSegment false (r.2 + 1 < (splitWhen q C).length + 1) acc.1 r.1
    (added.1, acc.2 || added.2)) ([], false)).1, fun {B} hB => ?_⟩
  have hsplit : splitWhen (fun c => c == '/' || (false && c == '\\')) (C ++ '/' :: B) =
      splitWhen (fun c => c == '/' || (false && c == '\\')) C ++ [B] := by
    rw [splitWhen_append_sep (by rfl), @splitWhen_of_none _ _ B fun c hc => by
      simpa using hB.all (P := (· != '/')) (by decide) c hc]
  simp only [addSegments, hsplit, List.length_append, List.length_singleton, List.zipIdx_append,
    List.foldl_append, List.zipIdx_singleton, List.foldl_cons, List.foldl_nil, Nat.zero_add,
    Nat.lt_irrefl, decide_false, hB.addSegment]
  exact rfl

/-- Path text of segments read from text ending in a slash and a plain name: the name is the last
segment, or it follows a query or fragment and the path does not depend on it. -/
theorem segmentsText_sameButLast (C : List Char) (hB : PlainName B) (hB' : PlainName B') :
    SameButLast B B'
      (String.join ((addSegments false false [] (splitPath (C ++ '/' :: B)).1).1.map ("/" ++ ·)))
      (String.join ((addSegments false false [] (splitPath (C ++ '/' :: B')).1).1.map ("/" ++ ·))) := by
  cases hC : C.all inPath
  · -- a query or a fragment starts within `C`, so the name is not on the path
    left
    simp only [splitPath, takeWhile_append_of_not_all hC]
  · right
    obtain ⟨G, hG⟩ := addSegments_append_plain C
    have hpos : ∀ c ∈ C, inPath c = true := by simpa using hC
    simp only [splitPath, List.takeWhile_append_of_pos hpos, hB.takeWhile_inPath,
      hB'.takeWhile_inPath, hG hB, hG hB']
    exact ⟨(String.join (G.map ("/" ++ ·))).toList, by simp, by simp⟩

theorem PlainName.segmentsText (hB : PlainName B) :
    (String.join ((addSegments false false [] (splitPath B).1).1.map ("/" ++ ·))).toList =
      [] ++ '/' :: B := by
  have hpath : B.takeWhile inPath = B :=
    List.takeWhile_eq_self_iff.2 (hB.all (P := inPath) (by decide))
  have hsplit : splitWhen (fun c => c == '/' || (false && c == '\\')) B = [B] :=
    splitWhen_of_none fun c hc => by simpa using hB.all (P := (· != '/')) (by decide) c hc
  simp only [splitPath, hpath, addSegments, hsplit, List.zipIdx_singleton, List.foldl_cons,
    List.foldl_nil, List.length_singleton, Nat.zero_add, Nat.lt_irrefl, decide_false,
    hB.addSegment]
  simp

end Segments

/-! ## Reading a `mem` location with a name joined -/

/-- A URL of a scheme that is not special, read from text that ends in a slash and a plain
name, has a path that agrees up to its last segment with the URL read with another plain name:
the name is the path's last segment, or it lies in the query or fragment. -/
theorem parseOther_sameButLast {P B B' : List Char} (hP : P ≠ []) (hlast : P.getLast? ≠ some '/')
    (hB : PlainName B) (hB' : PlainName B') :
    Option.Rel (fun u u' => u.scheme = u'.scheme ∧ u.host = u'.host ∧
        SameButLast B B' u.pathText u'.pathText)
      (parseOther "mem" (P ++ '/' :: B)) (parseOther "mem" (P ++ '/' :: B')) := by
  obtain ⟨c, R, rfl⟩ := List.exists_cons_of_ne_nil hP
  by_cases hc : c = '/'
  · subst hc
    cases R with
    | nil => simp at hlast
    | cons d R =>
      by_cases hd : d = '/'
      · subst hd
        -- an authority, up to the first slash, query or fragment
        simp only [List.cons_append, parseOther]
        rw [takeWhile_append_sep rfl, takeWhile_append_sep rfl, dropWhile_append_sep rfl,
          dropWhile_append_sep rfl]
        cases hauth : parseAuthority "mem" (R.takeWhile fun x => !(x == '/' || x == '?' || x == '#')) with
        | none => exact .none
        | some ah =>
          obtain ⟨a, pathHead⟩ := ah
          refine .some ⟨rfl, rfl, ?_⟩
          simp only [Url.pathText]
          generalize R.dropWhile (fun x => !(x == '/' || x == '?' || x == '#')) = D
          cases pathHead with
          | nil =>
            cases D with
            | nil => exact .inr ⟨[], hB.segmentsText, hB'.segmentsText⟩
            | cons d D =>
              by_cases hd : d = '/'
              · subst hd
                exact segmentsText_sameButLast D hB hB'
              · -- the authority ends at a query or a fragment: the path is empty
                left
                simp only [List.cons_append]
                split <;> simp_all
          | cons h hs =>
            simp only [← List.append_assoc]
            exact segmentsText_sameButLast _ hB hB'
      · -- a path of segments from the first slash
        have hpath : ∀ {N}, parseOther "mem" ('/' :: d :: R ++ '/' :: N) =
            some ⟨"mem", "", "", none, none,
              .segments (addSegments false false [] (splitPath (d :: R ++ '/' :: N)).1).1,
              (queryAndFragment false (splitPath (d :: R ++ '/' :: N)).2).1,
              (queryAndFragment false (splitPath (d :: R ++ '/' :: N)).2).2⟩ := by
          intro N
          simp only [List.cons_append, parseOther]
          split <;> simp_all
        rw [hpath, hpath]
        exact .some ⟨rfl, rfl, segmentsText_sameButLast (d :: R) hB hB'⟩
  · -- a path that is one piece of text
    have hpath : ∀ {N}, parseOther "mem" (c :: R ++ '/' :: N) =
        some ⟨"mem", "", "", none, none,
          .whole (String.ofList (encodeAll inC0Set (splitPath (c :: R ++ '/' :: N)).1)),
          (queryAndFragment false (splitPath (c :: R ++ '/' :: N)).2).1,
          (queryAndFragment false (splitPath (c :: R ++ '/' :: N)).2).2⟩ := by
      intro N
      simp only [List.cons_append, parseOther]
      split <;> simp_all
    have henc : ∀ {N}, PlainName N → encodeAll inC0Set ('/' :: N) = '/' :: N := fun hN =>
      encodeAll_of_forall fun x hx => by
        rcases List.mem_cons.1 hx with rfl | hx
        · rfl
        · simpa using hN.all (P := (!inC0Set ·)) (by decide) x hx
    rw [hpath, hpath]
    refine .some ⟨rfl, rfl, ?_⟩
    simp only [Url.pathText]
    cases hC : (c :: R).all inPath
    · left
      simp only [splitPath, takeWhile_append_of_not_all hC]
    · have hpos : ∀ x ∈ c :: R, inPath x = true := by simpa using hC
      simp only [splitPath, List.takeWhile_append_of_pos hpos, hB.takeWhile_inPath,
        hB'.takeWhile_inPath]
      refine .inr ⟨encodeAll inC0Set (c :: R), ?_, ?_⟩
      · rw [String.toList_ofList, encodeAll_append, henc hB]
      · rw [String.toList_ofList, encodeAll_append, henc hB']

theorem parseOther_scheme {scheme : String} {cs : List Char} {u : Url}
    (h : parseOther scheme cs = some u) : u.scheme = scheme := by
  unfold parseOther at h
  split at h
  · obtain ⟨_, -, h⟩ := Option.bind_eq_some_iff.1 h
    cases h
    rfl
  all_goals
    cases h
    rfl

/-- The text a name is joined to: a location's text without its trailing slashes. For a location
of the `mem` scheme it starts with the scheme and its colon. -/
theorem join_text_mem {u : Url} (hmem : u.scheme = "mem") :
    ∃ Y, (u.toText.toList.reverse.dropWhile (· == '/')).reverse = 'm' :: 'e' :: 'm' :: ':' :: Y := by
  obtain ⟨rest, hrest⟩ : ∃ rest, u.toText.toList = ['m', 'e', 'm', ':'] ++ rest :=
    ⟨_, by simp only [Url.toText, hmem, String.toList_append]; rfl⟩
  refine ⟨(rest.reverse.dropWhile (· == '/')).reverse, ?_⟩
  rw [hrest, List.reverse_append,
    dropWhile_append_of_stop _ (M := ['m', 'e', 'm', ':'].reverse) rfl, List.reverse_append]
  rfl

/-- Cleaning text that starts with the `mem` scheme and ends in plain characters and slashes
removes only the tabs and line breaks before them. -/
theorem clean_mem (Y : List Char) {N : List Char} (hN : ∀ c ∈ N, c ∈ plainChars ∨ c = '/')
    {x : Char} (hx : x ∈ plainChars) (hlast : N.getLast? = some x) :
    clean (String.ofList ('m' :: 'e' :: 'm' :: ':' :: (Y ++ N))) =
      'm' :: 'e' :: 'm' :: ':' :: (Y.filter (fun c => c != '\t' && c != '\n' && c != '\r') ++
        N) := by
  obtain ⟨N₀, y, rfl⟩ := List.eq_nil_or_concat N |>.resolve_left (by rintro rfl; cases hlast)
  obtain rfl : y = x := by simpa using hlast
  -- the checks over the plain characters are decided as one `all` each
  have hspace : plainChars.all (fun c => !decide (c.toNat ≤ 0x20)) = true := by decide
  have hfilter : ∀ c ∈ N₀.concat y, (c != '\t' && c != '\n' && c != '\r') = true := by
    have hplain : plainChars.all (fun c => c != '\t' && c != '\n' && c != '\r') = true := by
      decide
    intro c hc
    rcases hN c hc with hc | rfl
    · exact List.all_eq_true.1 hplain c hc
    · rfl
  have hrev : ('m' :: 'e' :: 'm' :: ':' :: (Y ++ N₀.concat y)).reverse =
      y :: ('m' :: 'e' :: 'm' :: ':' :: (Y ++ N₀)).reverse := by
    simp
  have hback : (('m' :: 'e' :: 'm' :: ':' :: (Y ++ N₀)).reverse).reverse ++ [y] =
      'm' :: 'e' :: 'm' :: ':' :: (Y ++ N₀.concat y) := by
    simp
  simp only [clean, String.toList_ofList]
  rw [List.dropWhile_cons_of_neg (by decide), hrev,
    List.dropWhile_cons_of_neg (by simpa using List.all_eq_true.1 hspace y hx), List.reverse_cons,
    hback,
    List.filter_cons_of_pos (by decide), List.filter_cons_of_pos (by decide),
    List.filter_cons_of_pos (by decide), List.filter_cons_of_pos (by decide), List.filter_append,
    List.filter_eq_self.2 hfilter]

theorem parse_mem {s : String} {Z : List Char} (h : clean s = 'm' :: 'e' :: 'm' :: ':' :: Z) :
    parse s = parseOther "mem" Z := by
  have hscheme : readScheme ('m' :: 'e' :: 'm' :: ':' :: Z) = some ("mem", Z) := by
    simp only [readScheme]
    simp
    decide
  simp only [parse, h, hscheme]
  rfl

end TableState.Url

namespace TableState

open Url

/-! ## Snapshot locations -/

theorem mem_plainChars_of_digit {c : Char} (h : '0' ≤ c ∧ c ≤ '9') : c ∈ plainChars := by
  have h1 : 48 ≤ c.toNat ∧ c.toNat ≤ 57 := by
    simp only [Char.le_def, UInt32.le_iff_toNat_le] at h
    exact h
  have hdigits : ∀ n < 10, Char.ofNat (48 + n) ∈ plainChars := by decide
  rw [← Char.ofNat_toNat c, ← Nat.add_sub_cancel' h1.1]
  exact hdigits _ (by omega)

theorem mem_plainChars_of_mem {s : List Char}
    (hs : s.all (fun c => decide (c ∈ plainChars)) = true) {c : Char} (hc : c ∈ s) :
    c ∈ plainChars :=
  of_decide_eq_true (List.all_eq_true.1 hs c hc)

/-- A revision token of plain characters. -/
def PlainToken (token : String) : Prop :=
  ∀ c ∈ token.toList, c ∈ plainChars

/-- The tokens a store issues are plain. -/
theorem plainToken_rev (n : Nat) : PlainToken ("rev" ++ toString n) := by
  intro c hc
  simp only [String.toList_append] at hc
  rcases List.mem_append.1 hc with hc | hc
  · exact mem_plainChars_of_mem (by decide) hc
  · exact mem_plainChars_of_digit (Text.digit_of_mem_toDigits (by simpa [Nat.toList_repr] using hc))

/-- The name of a revision's snapshot is plain when its token is. -/
theorem plainName_snapshotName {r : RevisionId} (hr : PlainToken r.token) :
    PlainName (r.toText ++ ".parquet").toList := by
  constructor
  · intro c hc
    simp only [RevisionId.toText, RevisionId.padded, String.toList_append, String.toList_ofList,
      List.mem_append] at hc
    rcases hc with ((((hc | hc) | hc) | hc) | hc)
    · rw [List.eq_of_mem_replicate hc]
      decide
    · exact mem_plainChars_of_digit (Text.digit_of_mem_toDigits (by simpa [Nat.toList_repr] using hc))
    · exact mem_plainChars_of_mem (by decide) hc
    · exact hr c hc
    · exact mem_plainChars_of_mem (by decide) hc
  · simp only [String.toList_append, List.length_append]
    have : ".parquet".toList.length = 8 := rfl
    omega

end TableState
