import TableState.Proofs.Url.CanonicalText
import Mathlib.Data.List.DropRight

/-!
# Joining a name to a canonical URL

Joining a name to a location drops the trailing slashes of the location's text, appends a slash
and the name, and reads the result. For a canonical URL without query and fragment, and a name of
segments of ASCII letters, digits, `-`, `.` and `_` (`pathName`), `Url.parse` reads that text as a
URL of the same scheme whose path text is the URL's without its trailing slashes, followed by a
slash and the name (`parse_appended`).

The text of such a URL is its scheme, a colon, and then either `//`, the authority and the path
text (`toText_of_host`), or the path text after a `/.` that keeps a first empty segment apart from
an authority (`toText_of_no_host`). Dropping the trailing slashes drops the trailing empty segments
(`rdropWhile_segmentsChars`), and everything after the colon when nothing else is left. Each branch
of the reader then reads the joined text back (`parseOther_host`, `parseOther_slash`,
`parseOther_slash_dot`, `parseOther_whole`, `parseSpecial_host`, `parseFile_name`,
`parseFile_empty_host`, `parseFile_host`): the authority as itself (`parseAuthority_text`), and
the segments and the pieces of the name as themselves, since none of them is a dot segment or holds
a character the path set encodes (`addSegments_segmentsChars`).

Two assumptions remain. The host reader must give back a non-empty host it wrote
(`HostReadsBack`); for domain names this is the idempotence of the IDNA processing of hosts, which
is not proved here. And a `file` URL with a host must not start its path with a drive letter
written with a bar, as the text `file://h//C|` reads: joined, that segment becomes the first of the
path read, is written with a colon and drops the host (`DriveWithColon`).
-/

set_option autoImplicit false

namespace TableState.Url

/-! ## Trailing slashes of segments -/

theorem rdropWhile_append {α : Type} (p : α → Bool) (xs ys : List α) :
    (xs ++ ys).rdropWhile p = if ys.all p then xs.rdropWhile p else xs ++ ys.rdropWhile p := by
  simp only [List.rdropWhile, List.reverse_append, List.dropWhile_append]
  by_cases hys : ys.all p = true
  · have hnil : ys.reverse.dropWhile p = [] :=
      List.dropWhile_eq_nil_iff.2 fun x hx => List.all_eq_true.1 hys x (List.mem_reverse.1 hx)
    simp [hnil, hys]
  · have hne : ys.reverse.dropWhile p ≠ [] := by
      intro hnil
      apply hys
      exact List.all_eq_true.2 fun x hx =>
        List.dropWhile_eq_nil_iff.1 hnil x (List.mem_reverse.2 hx)
    simp [hne, hys]

/-- Trailing slashes of the text of segments are its trailing empty segments. -/
theorem rdropWhile_segmentsChars {ss : List String} (hss : ∀ s ∈ ss, '/' ∉ s.toList) :
    (segmentsChars ss).rdropWhile (· == '/') = segmentsChars (ss.rdropWhile (· == "")) := by
  induction ss using List.reverseRecOn with
  | nil => rfl
  | append_singleton ss s ih =>
    have hs : '/' ∉ s.toList := hss s (by simp)
    have ih := ih fun t ht => hss t (by simp [ht])
    rw [segmentsChars_append, rdropWhile_append]
    by_cases he : s = ""
    · subst he
      rw [if_pos (by simp [segmentsChars]), ih,
        List.rdropWhile_concat_pos (· == "") ss "" (by simp)]
    · obtain ⟨init, x, hsx⟩ := List.eq_nil_or_concat s.toList |>.resolve_left (by simpa using he)
      rw [List.concat_eq_append] at hsx
      have hx : x ≠ '/' := fun h => hs (by simp [hsx, h])
      have hlast : (segmentsChars [s]).rdropWhile (· == '/') = segmentsChars [s] := by
        simp only [segmentsChars, List.flatMap_cons, List.flatMap_nil, List.append_nil, hsx]
        rw [← List.cons_append, List.rdropWhile_concat_neg _ _ _ (by simpa using hx)]
      rw [if_neg (by simp [segmentsChars, hsx, hx]), hlast,
        List.rdropWhile_concat_neg (· == "") ss s (by simpa using he), segmentsChars_append]

/-! ## Names -/

def nameChar (c : Char) : Bool :=
  c.isAlphanum || c == '-' || c == '.' || c == '_'

def pathName (n : List Char) : Bool :=
  (splitWhen (· == '/') n).all fun seg =>
    !seg.isEmpty && seg != ['.'] && seg != ['.', '.'] && seg.all nameChar

def nameSegments (n : List Char) : List String :=
  (splitWhen (· == '/') n).map String.ofList

theorem splitWhen_flatMap (c : Char) (cs : List Char) :
    (splitWhen (· == c) cs).flatMap (c :: ·) = c :: cs := by
  induction cs with
  | nil => rfl
  | cons x xs ih =>
    by_cases hx : x = c
    · subst hx
      simp [splitWhen, ih]
    · have hxc : (x == c) = false := by simpa using hx
      obtain ⟨s, ss, hs⟩ := List.exists_cons_of_ne_nil (splitWhen_ne_nil (· == c) xs)
      rw [hs, List.flatMap_cons] at ih
      simp only [splitWhen, hxc, Bool.false_eq_true, if_false, hs, List.flatMap_cons]
      obtain ⟨-, ih⟩ := List.cons.inj ih
      rw [← ih]
      rfl

theorem segmentsChars_nameSegments (n : List Char) : segmentsChars (nameSegments n) = '/' :: n := by
  simp only [segmentsChars, nameSegments, List.flatMap_map, String.toList_ofList]
  exact splitWhen_flatMap '/' n


theorem segmentsChars_append_slash (ss : List String) (n : List Char) :
    segmentsChars ss ++ '/' :: n = '/' :: (segmentsChars ss ++ '/' :: n).tail := by
  cases ss <;> simp [segmentsChars]

theorem splitWhen_segmentsChars {sep : Char → Bool} (hsep : sep '/' = true) {ss : List String}
    (hss : ∀ s ∈ ss, ∀ c ∈ s.toList, sep c = false) (n : List Char) :
    splitWhen sep (segmentsChars ss ++ '/' :: n).tail = ss.map String.toList ++ splitWhen sep n := by
  induction ss with
  | nil => rfl
  | cons s ss ih =>
    simp only [List.mem_cons, forall_eq_or_imp] at hss
    have htail : (segmentsChars (s :: ss) ++ '/' :: n).tail =
        s.toList ++ '/' :: (segmentsChars ss ++ '/' :: n).tail := by
      have h := segmentsChars_append_slash ss n
      simp only [segmentsChars] at h ⊢
      simp only [List.flatMap_cons, List.cons_append, List.tail_cons, List.append_assoc]
      rw [← h]
    rw [htail, splitWhen_append_sep hsep, splitWhen_of_none hss.1, ih hss.2]
    rfl

theorem splitWhen_congr {α : Type} {p q : α → Bool} {cs : List α} (h : ∀ c ∈ cs, p c = q c) :
    splitWhen p cs = splitWhen q cs := by
  induction cs with
  | nil => rfl
  | cons c cs ih =>
    simp only [List.mem_cons, forall_eq_or_imp] at h
    simp only [splitWhen, h.1, ih h.2]

/-- A good segment is added to a path as it is; a drive letter that would start a `file` path is
added as it is when written with a colon. -/
theorem addSegment_of_good {special file slashAfter : Bool} {path : List String} {raw : List Char}
    (hgood : goodSegment special (String.ofList raw) = true)
    (hdrive : file = true → path = [] → isDriveLetter raw = true → raw.getLast? = some ':') :
    (addSegment file slashAfter path raw).1 = path ++ [String.ofList raw] := by
  simp only [goodSegment, String.toList_ofList, Bool.and_eq_true, Bool.not_eq_eq_eq_not,
    Bool.not_true, List.all_eq_true] at hgood
  obtain ⟨⟨hchars, hsd⟩, hdd⟩ := hgood
  have henc : encodeAll inPathSet raw = raw := encodeAll_of_forall fun c hc => by
    have := hchars c hc
    simp only [segmentChar, Bool.and_eq_true, Bool.not_eq_eq_eq_not, Bool.not_true] at this
    exact this.1.1
  unfold addSegment
  rw [henc, if_neg (by simp [hdd]), if_neg (by simp [hsd])]
  split
  · rename_i hd
    simp only [Bool.and_eq_true, List.isEmpty_iff] at hd
    obtain ⟨⟨hf, hp⟩, hdl⟩ := hd
    have hcolon := hdrive hf hp hdl
    rcases raw with _ | ⟨a, _ | ⟨b, _ | ⟨c, rest⟩⟩⟩
    · cases hdl
    · cases hdl
    · obtain rfl : b = ':' := by simpa using hcolon
      rfl
    · cases hdl
  · rfl

theorem foldl_addSegment_of_good {special file : Bool} {n : Nat} :
    ∀ (raws : List (List Char)) (i : Nat) (path : List String) (d : Bool),
      (∀ raw ∈ raws, goodSegment special (String.ofList raw) = true) →
      (file = true → path = [] → ∀ raw, raws.head? = some raw → isDriveLetter raw = true →
        raw.getLast? = some ':') →
      ((raws.zipIdx i).foldl (fun acc r =>
        let (p, drive) := addSegment file (r.2 + 1 < n) acc.1 r.1
        (p, acc.2 || drive)) (path, d)).1 = path ++ raws.map String.ofList := by
  intro raws
  induction raws with
  | nil => intro i path d _ _; simp
  | cons raw raws ih =>
    intro i path d hgood hdrive
    simp only [List.mem_cons, forall_eq_or_imp] at hgood
    rw [List.zipIdx_cons, List.foldl_cons]
    have hstep : (addSegment file (decide (i + 1 < n)) path raw).1 = path ++ [String.ofList raw] :=
      addSegment_of_good hgood.1 fun hf hp => hdrive hf hp raw rfl
    generalize hA : addSegment file (decide (i + 1 < n)) path raw = A at hstep
    obtain ⟨p, d'⟩ := A
    dsimp only at hstep ⊢
    subst hstep
    rw [ih (i + 1) _ _ hgood.2 (fun _ hp => by simp at hp)]
    simp


theorem addSegments_of_good {special file : Bool} {cs : List Char} {raws : List (List Char)}
    (hsplit : splitWhen (fun c => c == '/' || (special && c == '\\')) cs = raws)
    (hgood : ∀ raw ∈ raws, goodSegment special (String.ofList raw) = true)
    (hdrive : file = true → ∀ raw, raws.head? = some raw → isDriveLetter raw = true →
      raw.getLast? = some ':') :
    (addSegments special file [] cs).1 = raws.map String.ofList := by
  subst hsplit
  exact foldl_addSegment_of_good _ 0 [] false hgood fun hf _ => hdrive hf

theorem toNat_lt_of_nameChar {c : Char} (h : nameChar c = true) : c.toNat < 128 := by
  simp only [nameChar, Char.isAlphanum, Bool.or_eq_true, beq_iff_eq] at h
  rcases h with (((h | h) | rfl) | rfl) | rfl
  · exact toNat_lt_of_isAlpha h
  · simp only [Char.isDigit, Bool.and_eq_true, decide_eq_true_eq] at h
    have : c.toNat = c.val.toNat := rfl
    simp [UInt32.le_iff_toNat_le] at h
    omega
  all_goals decide

/-- A character of a name stands as it is in a path and in text, and lowers to a dot only from a
dot. -/
theorem nameChar_ascii : ∀ k < 128, nameChar (Char.ofNat k) = true →
    (segmentChar true (Char.ofNat k) = true ∧ segmentChar false (Char.ofNat k) = true) ∧
      ((lowerChar (Char.ofNat k) = '.' → Char.ofNat k = '.') ∧ lowerChar (Char.ofNat k) ≠ '%') ∧
      (inC0Set (Char.ofNat k) = false ∧ 0x20 < (Char.ofNat k).toNat) ∧
      (Char.ofNat k ≠ '/' ∧ Char.ofNat k ≠ ':' ∧ Char.ofNat k ≠ '|') := by
  decide

structure NameCharFacts (c : Char) : Prop where
  segment : segmentChar true c = true ∧ segmentChar false c = true
  lower : (lowerChar c = '.' → c = '.') ∧ lowerChar c ≠ '%'
  text : inC0Set c = false ∧ 0x20 < c.toNat
  separators : c ≠ '/' ∧ c ≠ ':' ∧ c ≠ '|'

theorem nameCharFacts {c : Char} (h : nameChar c = true) : NameCharFacts c := by
  obtain ⟨h1, h2, h3, h4⟩ := ascii_forall (P := fun c => nameChar c = true →
    (segmentChar true c = true ∧ segmentChar false c = true) ∧
      ((lowerChar c = '.' → c = '.') ∧ lowerChar c ≠ '%') ∧ (inC0Set c = false ∧ 0x20 < c.toNat) ∧
      (c ≠ '/' ∧ c ≠ ':' ∧ c ≠ '|')) nameChar_ascii (toNat_lt_of_nameChar h) h
  exact ⟨h1, h2, h3, h4⟩

theorem goodSegment_of_name (special : Bool) {seg : List Char} (h1 : seg ≠ ['.'])
    (h2 : seg ≠ ['.', '.']) (hc : ∀ c ∈ seg, nameChar c = true) :
    goodSegment special (String.ofList seg) = true := by
  -- lowering leaves no percent sign, and dots only where there were dots
  have hpct : '%' ∉ seg.map lowerChar := by
    intro hm
    obtain ⟨c, hc', he⟩ := List.mem_map.1 hm
    exact (nameCharFacts (hc c hc')).lower.2 he
  have hdots : ∀ T : List Char, (∀ x ∈ T, x = '.') → seg.map lowerChar = T → seg = T := by
    intro T hT hmap
    have hid : seg.map lowerChar = seg := by
      refine (List.map_congr_left fun c hcs => ?_).trans (List.map_id seg)
      have hdot : lowerChar c = '.' := hT _ (hmap ▸ List.mem_map_of_mem hcs)
      rw [hdot, (nameCharFacts (hc c hcs)).lower.1 hdot]
      rfl
    rw [← hid, hmap]
  have hlow : (asciiLower (String.ofList seg)).toList = seg.map lowerChar := by
    rw [asciiLower_toList, String.toList_ofList]
  have hne : ∀ t : String, (t.toList = ['.'] ∨ t.toList = ['.', '.'] ∨ '%' ∈ t.toList) →
      asciiLower (String.ofList seg) ≠ t := by
    intro t ht he
    rw [he] at hlow
    rcases ht with ht | ht | ht
    · exact h1 (hdots _ (by simp) (hlow ▸ ht))
    · exact h2 (hdots _ (by simp) (hlow ▸ ht))
    · exact hpct (hlow ▸ ht)
  have hsd : isSingleDot (String.ofList seg) = false := by
    unfold isSingleDot
    simp only [List.contains_cons, List.contains_nil, Bool.or_false, Bool.or_eq_false_iff,
      beq_eq_false_iff_ne]
    exact ⟨hne "." (by simp), hne "%2e" (by simp)⟩
  have hdd : isDoubleDot (String.ofList seg) = false := by
    unfold isDoubleDot
    simp only [List.contains_cons, List.contains_nil, Bool.or_false, Bool.or_eq_false_iff,
      beq_eq_false_iff_ne]
    exact ⟨hne ".." (by simp), hne ".%2e" (by simp), hne "%2e." (by simp), hne "%2e%2e" (by simp)⟩
  simp only [goodSegment, String.toList_ofList, hsd, hdd, Bool.not_false, Bool.and_true,
    List.all_eq_true]
  intro c hcs
  cases special
  · exact (nameCharFacts (hc c hcs)).segment.2
  · exact (nameCharFacts (hc c hcs)).segment.1

/-! ## Joined path text read again -/

theorem pathName_pieces {n : List Char} (hn : pathName n = true) {seg : List Char}
    (hseg : seg ∈ splitWhen (· == '/') n) :
    seg ≠ [] ∧ seg ≠ ['.'] ∧ seg ≠ ['.', '.'] ∧ ∀ c ∈ seg, nameChar c = true := by
  have := List.all_eq_true.1 hn seg hseg
  simp only [Bool.and_eq_true, Bool.not_eq_eq_eq_not, Bool.not_true, List.isEmpty_eq_false_iff,
    bne_iff_ne, ne_eq, List.all_eq_true] at this
  exact ⟨this.1.1.1, this.1.1.2, this.1.2, this.2⟩

theorem pathName_chars {n : List Char} (hn : pathName n = true) :
    ∀ c ∈ n, c = '/' ∨ nameChar c = true := by
  intro c hc
  have hmem : c ∈ (splitWhen (· == '/') n).flatMap ('/' :: ·) := by
    rw [splitWhen_flatMap]
    exact List.mem_cons_of_mem _ hc
  obtain ⟨seg, hseg, hc⟩ := List.mem_flatMap.1 hmem
  rcases List.mem_cons.1 hc with rfl | hc
  · exact .inl rfl
  · exact .inr ((pathName_pieces hn hseg).2.2.2 c hc)

theorem isDriveLetter_of_name {seg : List Char} (hseg : ∀ c ∈ seg, nameChar c = true) :
    isDriveLetter seg = false := by
  rcases seg with _ | ⟨a, _ | ⟨b, _ | ⟨c, rest⟩⟩⟩
  · rfl
  · rfl
  · have hb := (nameCharFacts (hseg b (by simp))).separators
    simp [isDriveLetter, hb.2.1, hb.2.2]
  · rfl

/-- Characters of path text of good segments followed by a slash and a name. -/
theorem mem_segmentsChars_name {special : Bool} {ss : List String}
    (hss : ∀ s ∈ ss, goodSegment special s = true) {n : List Char} (hn : pathName n = true)
    {c : Char} (hc : c ∈ segmentsChars ss ++ '/' :: n) :
    c = '/' ∨ segmentChar special c = true ∨ nameChar c = true := by
  rcases List.mem_append.1 hc with hc | hc
  · obtain ⟨s, hs, hc⟩ := List.mem_flatMap.1 hc
    rcases List.mem_cons.1 hc with rfl | hc
    · exact .inl rfl
    · have := hss s hs
      simp only [goodSegment, Bool.and_eq_true, List.all_eq_true] at this
      exact .inr (.inl (this.1.1 c hc))
  · rcases List.mem_cons.1 hc with rfl | hc
    · exact .inl rfl
    · rcases pathName_chars hn c hc with rfl | h
      · exact .inl rfl
      · exact .inr (.inr h)

theorem inPath_segmentsChars {special : Bool} {ss : List String}
    (hss : ∀ s ∈ ss, goodSegment special s = true) {n : List Char} (hn : pathName n = true) :
    ∀ c ∈ segmentsChars ss ++ '/' :: n, (c != '?' && c != '#') = true := by
  intro c hc
  rcases mem_segmentsChars_name hss hn hc with rfl | h | h
  · decide
  · cases special <;>
      simp only [segmentChar, Bool.and_eq_true, Bool.not_eq_eq_eq_not, Bool.not_true] at h <;>
      simp only [bne_iff_ne, ne_eq, Bool.and_eq_true] <;>
      refine ⟨?_, ?_⟩ <;> rintro rfl <;> exact absurd h.1.1 (by decide)
  · simp only [bne_iff_ne, ne_eq, Bool.and_eq_true]
    refine ⟨?_, ?_⟩ <;> rintro rfl <;> exact absurd h (by decide)

theorem splitPath_segmentsChars {special : Bool} {ss : List String}
    (hss : ∀ s ∈ ss, goodSegment special s = true) {n : List Char} (hn : pathName n = true) :
    splitPath (segmentsChars ss ++ '/' :: n).tail = ((segmentsChars ss ++ '/' :: n).tail, []) := by
  have hpath : ∀ c ∈ (segmentsChars ss ++ '/' :: n).tail, (c != '?' && c != '#') = true :=
    fun c hc => inPath_segmentsChars hss hn c (List.mem_of_mem_tail hc)
  simp only [splitPath, List.takeWhile_eq_self_iff.2 hpath, List.dropWhile_eq_nil_iff.2 hpath]

/-- The raw segments of path text of segments followed by a slash and a name. -/
def pathRaws (ss : List String) (n : List Char) : List (List Char) :=
  ss.map String.toList ++ splitWhen (· == '/') n

theorem splitWhen_pathTail (special : Bool) {ss : List String}
    (hss : ∀ s ∈ ss, goodSegment special s = true) {n : List Char} (hn : pathName n = true) :
    splitWhen (fun c => c == '/' || (special && c == '\\')) (segmentsChars ss ++ '/' :: n).tail =
      pathRaws ss n := by
  -- no backslash stands in the text, so the separators are the slashes
  have hsep : ∀ c ∈ (segmentsChars ss ++ '/' :: n).tail,
      (c == '/' || (special && c == '\\')) = (c == '/') := by
    intro c hc
    rcases mem_segmentsChars_name hss hn (List.mem_of_mem_tail hc) with rfl | h | h
    · simp
    · cases special
      · simp
      · simp only [segmentChar, Bool.and_eq_true, Bool.not_eq_eq_eq_not, Bool.not_true,
          Bool.true_and, bne_iff_ne, ne_eq] at h
        simp [h.2]
    · have : c ≠ '\\' := by rintro rfl; exact absurd h (by decide)
      simp [this]
  have hnosep : ∀ s ∈ ss, ∀ c ∈ s.toList, (c == '/') = false := by
    intro s hs c hc
    have := hss s hs
    simp only [goodSegment, Bool.and_eq_true, List.all_eq_true] at this
    have h := this.1.1 c hc
    simp only [segmentChar, Bool.and_eq_true, bne_iff_ne, ne_eq] at h
    simpa using h.1.2
  exact (splitWhen_congr hsep).trans (splitWhen_segmentsChars rfl hnosep n)

theorem goodSegment_pathRaws (special : Bool) {ss : List String}
    (hss : ∀ s ∈ ss, goodSegment special s = true) {n : List Char} (hn : pathName n = true) :
    ∀ raw ∈ pathRaws ss n, goodSegment special (String.ofList raw) = true := by
  intro raw hraw
  rcases List.mem_append.1 hraw with hraw | hraw
  · obtain ⟨s, hs, rfl⟩ := List.mem_map.1 hraw
    rw [String.ofList_toList]
    exact hss s hs
  · obtain ⟨-, h1, h2, hc⟩ := pathName_pieces hn hraw
    exact goodSegment_of_name special h1 h2 hc

/-- The first raw segment is a drive letter only as the first segment, never as a piece of a
name. -/
theorem drive_pathRaws {file : Bool} {ss : List String} {n : List Char} (hn : pathName n = true)
    (hdrive : file = true → ∀ s, ss.head? = some s → isDriveLetter s.toList = true →
      s.toList.getLast? = some ':') :
    file = true → ∀ raw, (pathRaws ss n).head? = some raw → isDriveLetter raw = true →
      raw.getLast? = some ':' := by
  intro hf raw hhead hdl
  cases ss with
  | cons s ss =>
    simp only [pathRaws, List.map_cons, List.cons_append, List.head?_cons,
      Option.some.injEq] at hhead
    subst hhead
    exact hdrive hf s rfl hdl
  | nil =>
    simp only [pathRaws, List.map_nil, List.nil_append] at hhead
    obtain ⟨seg, segs, hsplit⟩ := List.exists_cons_of_ne_nil (splitWhen_ne_nil (· == '/') n)
    rw [hsplit, List.head?_cons, Option.some.injEq] at hhead
    subst hhead
    have hc := (pathName_pieces hn (hsplit ▸ List.mem_cons_self)).2.2.2
    rw [isDriveLetter_of_name hc] at hdl
    cases hdl

theorem map_ofList_pathRaws (ss : List String) (n : List Char) :
    (pathRaws ss n).map String.ofList = ss ++ nameSegments n := by
  simp [pathRaws, nameSegments]

theorem pathRaws_ne_nil (ss : List String) (n : List Char) : pathRaws ss n ≠ [] := by
  simp [pathRaws, splitWhen_ne_nil]

/-- Path text of good segments and a name, after the slash that starts it, is read as the
segments and the pieces of the name. -/
theorem addSegments_segmentsChars {special file : Bool} {ss : List String}
    (hss : ∀ s ∈ ss, goodSegment special s = true) {n : List Char} (hn : pathName n = true)
    (hdrive : file = true → ∀ s, ss.head? = some s → isDriveLetter s.toList = true →
      s.toList.getLast? = some ':') :
    (addSegments special file [] (segmentsChars ss ++ '/' :: n).tail).1 = ss ++ nameSegments n := by
  rw [addSegments_of_good (splitWhen_pathTail special hss hn) (goodSegment_pathRaws special hss hn)
    (drive_pathRaws hn hdrive), map_ofList_pathRaws]

/-- With the slash that starts it, the same text is read with an empty segment first; a drive
letter is then never the first segment. -/
theorem addSegments_slash_segmentsChars {special file : Bool} {ss : List String}
    (hss : ∀ s ∈ ss, goodSegment special s = true) {n : List Char} (hn : pathName n = true) :
    (addSegments special file [] (segmentsChars ss ++ '/' :: n)).1 = "" :: (ss ++ nameSegments n) := by
  have hsplit : splitWhen (fun c => c == '/' || (special && c == '\\'))
      (segmentsChars ss ++ '/' :: n) = [] :: pathRaws ss n := by
    rw [segmentsChars_append_slash, ← List.nil_append ('/' :: _), splitWhen_append_sep (by simp),
      splitWhen_pathTail special hss hn]
    rfl
  have hgood : ∀ raw ∈ [] :: pathRaws ss n, goodSegment special (String.ofList raw) = true := by
    simp only [List.mem_cons, forall_eq_or_imp]
    exact ⟨goodSegment_empty special, goodSegment_pathRaws special hss hn⟩
  rw [addSegments_of_good hsplit hgood (fun _ raw hraw hdl => by
      cases Option.some.inj hraw.symm
      cases hdl), List.map_cons, map_ofList_pathRaws]

/-- After a `.` segment, which is dropped, the text is read as without it. -/
theorem addSegments_dot_segmentsChars {special file : Bool} {ss : List String}
    (hss : ∀ s ∈ ss, goodSegment special s = true) {n : List Char} (hn : pathName n = true)
    (hdrive : file = true → ∀ s, ss.head? = some s → isDriveLetter s.toList = true →
      s.toList.getLast? = some ':') :
    (addSegments special file [] ('.' :: (segmentsChars ss ++ '/' :: n))).1 =
      ss ++ nameSegments n := by
  have hsplit : splitWhen (fun c => c == '/' || (special && c == '\\'))
      ('.' :: (segmentsChars ss ++ '/' :: n)) = ['.'] :: pathRaws ss n := by
    rw [segmentsChars_append_slash, ← List.singleton_append, splitWhen_append_sep (by simp),
      splitWhen_pathTail special hss hn]
    simp [splitWhen]
  -- the dot is followed by a slash, so it leaves the path empty
  have hdot : addSegment file (decide (0 + 1 < (pathRaws ss n).length + 1)) [] ['.'] = ([], false) := by
    have hlen : 0 + 1 < (pathRaws ss n).length + 1 :=
      Nat.succ_lt_succ (List.length_pos_iff.2 (pathRaws_ne_nil ss n))
    have hdd : isDoubleDot (String.ofList (encodeAll inPathSet ['.'])) = false := by decide
    have hsd : isSingleDot (String.ofList (encodeAll inPathSet ['.'])) = true := by decide
    simp only [addSegment, hdd, hsd, hlen, decide_true, if_true, Bool.false_eq_true, if_false]
  unfold addSegments
  simp only [hsplit, List.length_cons, List.zipIdx_cons, List.foldl_cons, hdot, Bool.or_false]
  rw [foldl_addSegment_of_good _ 1 [] false (goodSegment_pathRaws special hss hn)
    (fun hf _ => drive_pathRaws hn hdrive hf), List.nil_append, map_ofList_pathRaws]

theorem takeWhile_of_stop {p : Char → Bool} {xs : List Char} {c : Char}
    (hxs : ∀ x ∈ xs, p x = true) (hc : p c = false) (ys : List Char) :
    (xs ++ c :: ys).takeWhile p = xs := by
  rw [takeWhile_append_sep hc, List.takeWhile_eq_self_iff.2 hxs]

theorem dropWhile_of_stop {p : Char → Bool} {xs : List Char} {c : Char}
    (hxs : ∀ x ∈ xs, p x = true) (hc : p c = false) (ys : List Char) :
    (xs ++ c :: ys).dropWhile p = c :: ys := by
  rw [dropWhile_append_sep hc, List.dropWhile_eq_nil_iff.2 hxs, List.nil_append]

theorem authorityChar_authority {u : Url} (hu : u.Canonical) {h : String} (hh : u.host = some h) :
    ∀ c ∈ credentialsChars u ++ h.toList ++ portChars u, authorityChar c = true := by
  intro c hc
  simp only [List.mem_append] at hc
  rcases hc with (hc | hc) | hc
  · exact authorityChar_credentialsChars hu c hc
  · exact authorityChar_hostText (hu.host h hh) c hc
  · exact authorityChar_portChars u c hc

/-- A URL of a scheme that is not special, with a host, read from its authority and path text
followed by a slash and a name. -/
theorem parseOther_host {u : Url} (hu : u.Canonical) {h : String} (hh : u.host = some h)
    (hsp : isSpecial u.scheme = false) (hback : h ≠ "" → parseHost false h.toList = some h)
    {ss : List String} (hss : ∀ s ∈ ss, goodSegment false s = true) {n : List Char}
    (hn : pathName n = true) :
    parseOther u.scheme ('/' :: '/' :: (credentialsChars u ++ h.toList ++ portChars u ++
      (segmentsChars ss ++ '/' :: n))) =
      some ⟨u.scheme, u.username, u.password, some h, u.port, .segments (ss ++ nameSegments n),
        none, none⟩ := by
  have hA := authorityChar_authority hu hh
  have hauth := parseAuthority_text hu hh (by simp [hsp]) (by rwa [hsp])
  have hend : ∀ c ∈ credentialsChars u ++ h.toList ++ portChars u,
      (!(c == '/' || c == '?' || c == '#')) = true := by
    intro c hc
    have := hA c hc
    simp only [authorityChar, Bool.and_eq_true, bne_iff_ne, ne_eq] at this
    simp [this.1.1.1.1, this.1.1.1.2, this.1.1.2]
  have hpath : (addSegments false false [] (segmentsChars ss ++ '/' :: n).tail).1 =
      ss ++ nameSegments n := addSegments_segmentsChars hss hn (by simp)
  rw [segmentsChars_append_slash]
  unfold parseOther
  simp only [takeWhile_of_stop hend (c := '/') rfl, dropWhile_of_stop hend (c := '/') rfl, hauth,
    Option.bind_eq_bind, Option.bind_some, splitPath_segmentsChars hss hn, hpath]
  rfl


theorem pathName_head {n : List Char} (hn : pathName n = true) :
    ∃ c cs, n = c :: cs ∧ nameChar c = true := by
  cases n with
  | nil =>
    exact absurd rfl (pathName_pieces hn (by simp [splitWhen] : [] ∈ splitWhen (· == '/') [])).1
  | cons c cs =>
    rcases pathName_chars hn c List.mem_cons_self with rfl | hc
    · exact absurd rfl
        (pathName_pieces hn (by simp [splitWhen] : [] ∈ splitWhen (· == '/') ('/' :: cs))).1
    · exact ⟨c, cs, rfl, hc⟩

/-- Path text whose first segment is not empty goes on, after its first slash, with a character
other than a slash. -/
theorem pathTail_head {special : Bool} {ss : List String}
    (hss : ∀ s ∈ ss, goodSegment special s = true) {n : List Char} (hn : pathName n = true)
    (hhead : ∀ s, ss.head? = some s → s ≠ "") :
    ∃ c cs, (segmentsChars ss ++ '/' :: n).tail = c :: cs ∧ c ≠ '/' := by
  cases ss with
  | nil =>
    obtain ⟨c, cs, rfl, hc⟩ := pathName_head hn
    exact ⟨c, cs, rfl, fun h => absurd (h ▸ hc) (by decide)⟩
  | cons s ss =>
    obtain ⟨c, cs, hs⟩ := List.exists_cons_of_ne_nil
      (by simpa [← String.toList_eq_nil_iff] using hhead s rfl : s.toList ≠ [])
    refine ⟨c, cs ++ segmentsChars ss ++ '/' :: n, by simp [segmentsChars, hs], ?_⟩
    have := hss s List.mem_cons_self
    simp only [goodSegment, Bool.and_eq_true, List.all_eq_true] at this
    have hc := this.1.1 c (hs ▸ List.mem_cons_self)
    simp only [segmentChar, Bool.and_eq_true, bne_iff_ne, ne_eq] at hc
    exact hc.1.2

/-- The branch of a URL without a host whose path starts with a single slash. -/
theorem parseOther_single_slash (scheme : String) {rest : List Char} (h : rest.head? ≠ some '/') :
    parseOther scheme ('/' :: rest) =
      some ⟨scheme, "", "", none, none, .segments (addSegments false false [] (splitPath rest).1).1,
        (queryAndFragment false (splitPath rest).2).1, (queryAndFragment false (splitPath rest).2).2⟩ := by
  unfold parseOther
  split
  · rename_i r heq
    simp only [List.cons.injEq, true_and] at heq
    simp [heq] at h
  · rename_i r heq
    simp only [List.cons.injEq, true_and] at heq
    subst heq
    rfl
  · rename_i _ hne
    exact absurd rfl (hne rest)

/-- A URL without a host, of a scheme that is not special, read from path text whose first
segment is not empty, followed by a slash and a name. -/
theorem parseOther_slash (scheme : String) {ss : List String}
    (hss : ∀ s ∈ ss, goodSegment false s = true) {n : List Char} (hn : pathName n = true)
    (hhead : ∀ s, ss.head? = some s → s ≠ "") :
    parseOther scheme ('/' :: (segmentsChars ss ++ '/' :: n).tail) =
      some ⟨scheme, "", "", none, none, .segments (ss ++ nameSegments n), none, none⟩ := by
  obtain ⟨c, cs, htail, hc⟩ := pathTail_head hss hn hhead
  have hpath : (addSegments false false [] (segmentsChars ss ++ '/' :: n).tail).1 =
      ss ++ nameSegments n := addSegments_segmentsChars hss hn (by simp)
  rw [parseOther_single_slash scheme (by simp [htail, hc]), splitPath_segmentsChars hss hn, hpath]
  rfl

/-- The same, after a `.` segment, which keeps a first empty segment from reading as the start of
an authority. -/
theorem parseOther_slash_dot (scheme : String) {ss : List String}
    (hss : ∀ s ∈ ss, goodSegment false s = true) {n : List Char} (hn : pathName n = true) :
    parseOther scheme ('/' :: '.' :: (segmentsChars ss ++ '/' :: n)) =
      some ⟨scheme, "", "", none, none, .segments (ss ++ nameSegments n), none, none⟩ := by
  have hpath : (addSegments false false [] ('.' :: (segmentsChars ss ++ '/' :: n))).1 =
      ss ++ nameSegments n := addSegments_dot_segmentsChars hss hn (by simp)
  have hsplit : splitPath ('.' :: (segmentsChars ss ++ '/' :: n)) =
      ('.' :: (segmentsChars ss ++ '/' :: n), []) := by
    have hpath : ∀ c ∈ '.' :: (segmentsChars ss ++ '/' :: n), (c != '?' && c != '#') = true := by
      simp only [List.mem_cons, forall_eq_or_imp]
      exact ⟨rfl, inPath_segmentsChars hss hn⟩
    simp only [splitPath, List.takeWhile_eq_self_iff.2 hpath, List.dropWhile_eq_nil_iff.2 hpath]
  rw [parseOther_single_slash scheme (by simp), hsplit, hpath]
  rfl

/-- A URL whose path is one piece of text, read from that text. -/
theorem parseOther_whole (scheme : String) {w : List Char}
    (hw : ∀ c ∈ w, inC0Set c = false ∧ c ≠ '?' ∧ c ≠ '#') (hhead : w.head? ≠ some '/') :
    parseOther scheme w =
      some ⟨scheme, "", "", none, none, .whole (String.ofList w), none, none⟩ := by
  have hpath : ∀ c ∈ w, (c != '?' && c != '#') = true := by
    intro c hc
    simp [(hw c hc).2.1, (hw c hc).2.2]
  have hsplit : splitPath w = (w, []) := by
    simp only [splitPath, List.takeWhile_eq_self_iff.2 hpath, List.dropWhile_eq_nil_iff.2 hpath]
  have henc : encodeAll inC0Set w = w := encodeAll_of_forall fun c hc => (hw c hc).1
  unfold parseOther
  split
  · simp at hhead
  · simp at hhead
  · simp only [hsplit, henc]
    rfl


theorem authorityChars_ne_nil (u : Url) {h : String} (hne : h ≠ "") :
    credentialsChars u ++ h.toList ++ portChars u ≠ [] := by
  simp [hne]

/-- A URL of a special scheme other than `file`, read from its authority and path text followed
by a slash and a name. -/
theorem parseSpecial_host {u : Url} (hu : u.Canonical) {h : String} (hh : u.host = some h)
    (hne : h ≠ "") (hback : parseHost (isSpecial u.scheme) h.toList = some h)
    {ss : List String} (hss : ∀ s ∈ ss, goodSegment true s = true) {n : List Char}
    (hn : pathName n = true) :
    parseSpecial u.scheme ('/' :: '/' :: (credentialsChars u ++ h.toList ++ portChars u ++
      (segmentsChars ss ++ '/' :: n))) =
      some ⟨u.scheme, u.username, u.password, some h, u.port, .segments (ss ++ nameSegments n),
        none, none⟩ := by
  have hA := authorityChar_authority hu hh
  have hauth := parseAuthority_text hu hh (fun _ => hne) (fun _ => hback)
  have hend : ∀ c ∈ credentialsChars u ++ h.toList ++ portChars u,
      (!(c == '/' || c == '\\' || c == '?' || c == '#')) = true := by
    intro c hc
    have := hA c hc
    simp only [authorityChar, Bool.and_eq_true, bne_iff_ne, ne_eq] at this
    simp [this.1.1.1.1, this.1.1.1.2, this.1.1.2, this.1.2]
  -- the slashes before the authority are dropped up to its first character
  obtain ⟨c, A, hcA⟩ := List.exists_cons_of_ne_nil (authorityChars_ne_nil u hne)
  have hc : (c == '/' || c == '\\') = false := by
    have := hend c (hcA ▸ List.mem_cons_self)
    simp only [Bool.not_or, Bool.and_eq_true, Bool.not_eq_eq_eq_not, Bool.not_true] at this
    simp [this.1.1.1, this.1.1.2]
  have hslashes : ('/' :: '/' :: (credentialsChars u ++ h.toList ++ portChars u ++
      (segmentsChars ss ++ '/' :: n))).dropWhile (fun c => c == '/' || c == '\\') =
      credentialsChars u ++ h.toList ++ portChars u ++ (segmentsChars ss ++ '/' :: n) := by
    rw [hcA]
    simp [hc]
  have hpath : (addSegments true false [] (segmentsChars ss ++ '/' :: n).tail).1 =
      ss ++ nameSegments n := addSegments_segmentsChars hss hn (by simp)
  unfold parseSpecial
  rw [hslashes, segmentsChars_append_slash]
  simp only [takeWhile_of_stop hend (c := '/') rfl, dropWhile_of_stop hend (c := '/') rfl, hauth,
    Option.bind_eq_bind, Option.bind_some]
  simp only [beq_self_eq_true, Bool.true_or, if_true, ← segmentsChars_append_slash,
    splitPath_segmentsChars hss hn, hpath]
  rfl


/-! ## `file` URLs read again -/

theorem dropLeadingEmpty_of_head {path : List String} (h : ∀ s, path.head? = some s → s ≠ "") :
    dropLeadingEmpty path = path := by
  unfold dropLeadingEmpty
  split
  · exact absurd rfl (h "" rfl)
  · rfl

theorem head_append_nameSegments {ss : List String} (hhead : ∀ s, ss.head? = some s → s ≠ "")
    {n : List Char} (hn : pathName n = true) :
    ∀ s, (ss ++ nameSegments n).head? = some s → s ≠ "" := by
  intro s hs
  cases ss with
  | cons t ts =>
    simp only [List.cons_append, List.head?_cons, Option.some.injEq] at hs
    exact hs ▸ hhead t rfl
  | nil =>
    obtain ⟨seg, segs, hsplit⟩ := List.exists_cons_of_ne_nil (splitWhen_ne_nil (· == '/') n)
    simp only [List.nil_append, nameSegments, hsplit, List.map_cons, List.head?_cons,
      Option.some.injEq] at hs
    subst hs
    have hseg := (pathName_pieces hn (hsplit ▸ List.mem_cons_self)).1
    simpa [← String.toList_eq_nil_iff] using hseg

theorem nameSegments_ne_nil (n : List Char) : nameSegments n ≠ [] := by
  simp [nameSegments, splitWhen_ne_nil]

theorem goodSegment_nil : ∀ s ∈ ([] : List String), goodSegment true s = true := by
  simp

/-- A `file` URL with an empty host read from a slash and a name. -/
theorem parseFile_name {n : List Char} (hn : pathName n = true) :
    parseFile ('/' :: n) =
      some ⟨"file", "", "", some "", none, .segments (nameSegments n), none, none⟩ := by
  obtain ⟨c, cs, rfl, hc⟩ := pathName_head hn
  have hslash : (c == '/' || c == '\\') = false := by
    have := (nameCharFacts hc).separators.1
    have : c ≠ '\\' := by rintro rfl; exact absurd hc (by decide)
    simp [*]
  have hfh : fileHostAndPath ('/' :: c :: cs) = some ("", c :: cs) := by
    unfold fileHostAndPath
    simp [hslash]
  have hsplit : splitPath (c :: cs) = (c :: cs, []) := splitPath_segmentsChars goodSegment_nil hn
  have hpath : (addSegments true true [] (c :: cs)).1 = nameSegments (c :: cs) :=
    addSegments_segmentsChars goodSegment_nil hn (by simp)
  unfold parseFile
  simp only [hfh, Option.bind_eq_bind, Option.bind_some, hsplit]
  generalize addSegments true true [] (c :: cs) = A at hpath
  obtain ⟨segs, drive⟩ := A
  subst hpath
  have hhead := head_append_nameSegments (by simp : ∀ s, ([] : List String).head? = some s → s ≠ "") hn
  rw [List.nil_append] at hhead
  dsimp only
  rw [dropLeadingEmpty_of_head hhead]
  cases drive <;> rfl


/-- A `file` URL with an empty host read from two slashes and path text followed by a slash and
a name: the path text starts with an empty segment, which is dropped. -/
theorem parseFile_empty_host {ss : List String} (hss : ∀ s ∈ ss, goodSegment true s = true)
    {n : List Char} (hn : pathName n = true) (hhead : ∀ s, ss.head? = some s → s ≠ "") :
    parseFile ('/' :: '/' :: (segmentsChars ss ++ '/' :: n)) =
      some ⟨"file", "", "", some "", none, .segments (ss ++ nameSegments n), none, none⟩ := by
  have hfh : fileHostAndPath ('/' :: '/' :: (segmentsChars ss ++ '/' :: n)) =
      some ("", segmentsChars ss ++ '/' :: n) := by
    unfold fileHostAndPath
    rw [segmentsChars_append_slash]
    simp [isDriveLetter]
  have hpath : ∀ c ∈ segmentsChars ss ++ '/' :: n, (c != '?' && c != '#') = true :=
    inPath_segmentsChars hss hn
  have hsplit : splitPath (segmentsChars ss ++ '/' :: n) = (segmentsChars ss ++ '/' :: n, []) := by
    simp only [splitPath, List.takeWhile_eq_self_iff.2 hpath, List.dropWhile_eq_nil_iff.2 hpath]
  have hsegs : (addSegments true true [] (segmentsChars ss ++ '/' :: n)).1 =
      "" :: (ss ++ nameSegments n) := addSegments_slash_segmentsChars hss hn
  -- the empty segment is dropped, since segments of the name follow it
  have hdrop : dropLeadingEmpty ("" :: (ss ++ nameSegments n)) = ss ++ nameSegments n := by
    obtain ⟨t, ts, hts⟩ := List.exists_cons_of_ne_nil
      (List.append_ne_nil_of_right_ne_nil ss (nameSegments_ne_nil n))
    rw [hts, dropLeadingEmpty, ← hts]
    exact dropLeadingEmpty_of_head (head_append_nameSegments hhead hn)
  unfold parseFile
  simp only [hfh, Option.bind_eq_bind, Option.bind_some, hsplit]
  generalize addSegments true true [] (segmentsChars ss ++ '/' :: n) = A at hsegs
  obtain ⟨segs, drive⟩ := A
  subst hsegs
  dsimp only
  rw [hdrop]
  cases drive <;> rfl


/-- A host is never a drive letter: a colon and a bar are forbidden in hosts. -/
theorem isDriveLetter_hostText {h : List Char} (hh : HostText h) : isDriveLetter h = false := by
  rcases h with _ | ⟨a, _ | ⟨b, _ | ⟨c, rest⟩⟩⟩
  · rfl
  · rfl
  · rcases hh with hh | ⟨m, hm, -⟩
    · have hb := hh b (by simp)
      have h1 : b ≠ ':' := by rintro rfl; exact absurd hb (by decide)
      have h2 : b ≠ '|' := by rintro rfl; exact absurd hb (by decide)
      simp [isDriveLetter, h1, h2]
    · -- a host in brackets has at least the two brackets, and `]` is no colon or bar
      cases m with
      | nil =>
        obtain ⟨rfl, rfl⟩ : a = '[' ∧ b = ']' := by simpa using hm
        decide
      | cons x xs => simp at hm
  · rfl

/-- A `file` URL with a host read from two slashes, the host and path text followed by a slash and
a name. The host stays unless a drive letter starts the path. -/
theorem parseFile_host {h : String} (hh : HostText h.toList) (hne : h ≠ "")
    (hlocal : h ≠ "localhost") (hback : parseHost true h.toList = some h) {ss : List String}
    (hss : ∀ s ∈ ss, goodSegment true s = true) {n : List Char} (hn : pathName n = true)
    (hhead : ∀ s, ss.head? = some s → s ≠ "")
    (hdrive : ∀ s, ss.head? = some s → isDriveLetter s.toList = true →
      s.toList.getLast? = some ':') :
    ∃ host, parseFile ('/' :: '/' :: (h.toList ++ (segmentsChars ss ++ '/' :: n))) =
      some ⟨"file", "", "", some host, none, .segments (ss ++ nameSegments n), none, none⟩ := by
  have hend : ∀ c ∈ h.toList, (!((c == '/' || c == '\\') || c == '?' || c == '#')) = true := by
    intro c hc
    have := authorityChar_hostText hh c hc
    simp only [authorityChar, Bool.and_eq_true, bne_iff_ne, ne_eq] at this
    simp [this.1.1.1.1, this.1.1.1.2, this.1.1.2, this.1.2]
  have hnil : h.toList.isEmpty = false := by simpa [← String.toList_eq_nil_iff] using hne
  have hfh : fileHostAndPath ('/' :: '/' :: (h.toList ++ (segmentsChars ss ++ '/' :: n))) =
      some (h, (segmentsChars ss ++ '/' :: n).tail) := by
    unfold fileHostAndPath
    rw [segmentsChars_append_slash]
    dsimp only
    simp only [beq_self_eq_true, Bool.true_or, Bool.and_self, if_true,
      takeWhile_of_stop hend (c := '/') rfl, dropWhile_of_stop hend (c := '/') rfl,
      isDriveLetter_hostText hh, Bool.false_eq_true, if_false, hnil, hback]
    simp [hne, hlocal]
  have hsplit := splitPath_segmentsChars hss hn
  have hsegs : (addSegments true true [] (segmentsChars ss ++ '/' :: n).tail).1 =
      ss ++ nameSegments n := addSegments_segmentsChars hss hn fun _ => hdrive
  unfold parseFile
  simp only [hfh, Option.bind_eq_bind, Option.bind_some, hsplit]
  generalize addSegments true true [] (segmentsChars ss ++ '/' :: n).tail = A at hsegs
  obtain ⟨segs, drive⟩ := A
  subst hsegs
  refine ⟨if drive then "" else h, ?_⟩
  dsimp only
  rw [dropLeadingEmpty_of_head (head_append_nameSegments hhead hn)]
  rfl


/-! ## Trailing slashes of canonical text -/

theorem rdropWhile_append_stop {α : Type} {p : α → Bool} (xs : List α) {x : α} (hx : p x = false)
    (ys : List α) : (xs ++ x :: ys).rdropWhile p = xs ++ x :: ys.rdropWhile p := by
  rw [← List.singleton_append, ← List.append_assoc, rdropWhile_append,
    List.rdropWhile_concat_neg _ _ _ (by simp [hx])]
  split
  · rename_i hys
    rw [List.rdropWhile_eq_nil_iff.2 (by simpa using hys)]
  · simp

/-- Segments with their trailing empty ones dropped. -/
def trimmed (ss : List String) : List String := ss.rdropWhile (· == "")

theorem segmentsChars_eq_nil {ss : List String} : segmentsChars ss = [] ↔ ss = [] := by
  cases ss <;> simp [segmentsChars]

theorem mem_trimmed {ss : List String} {s : String} (h : s ∈ trimmed ss) : s ∈ ss :=
  (List.rdropWhile_prefix (· == "") ss).subset h

theorem head?_trimmed {ss : List String} {s : String} (h : (trimmed ss).head? = some s) :
    ss.head? = some s := by
  obtain ⟨t, ht⟩ := List.rdropWhile_prefix (· == "") ss
  rw [← ht]
  change (trimmed ss ++ t).head? = some s
  rw [List.head?_append, h]
  rfl

theorem getLast?_trimmed {ss : List String} : ∀ s, (trimmed ss).getLast? = some s → s ≠ "" := by
  intro s hs
  have hne : trimmed ss ≠ [] := by
    rintro h
    simp [h] at hs
  rw [List.getLast?_eq_some_getLast hne] at hs
  obtain rfl := Option.some.inj hs
  unfold trimmed at hne ⊢
  simpa using List.rdropWhile_last_not (· == "") ss hne

/-- Trimmed segments start with an empty one only when the segments start with an empty one and
go on. -/
theorem trimmed_head {ss : List String} (h : ∀ x rest, ss ≠ "" :: x :: rest) :
    ∀ s, (trimmed ss).head? = some s → s ≠ "" := by
  rintro s hs rfl
  obtain ⟨t, ht⟩ := List.rdropWhile_prefix (· == "") ss
  change trimmed ss ++ t = ss at ht
  cases htr : trimmed ss with
  | nil => simp [htr] at hs
  | cons a ts =>
    obtain rfl : a = "" := by simpa [htr] using hs
    cases ts with
    | nil => exact getLast?_trimmed "" (show (trimmed ss).getLast? = some "" by simp [htr]) rfl
    | cons y ts => exact h y (ts ++ t) (by rw [← ht, htr]; rfl)

theorem noSlash_of_good {special : Bool} {ss : List String}
    (hss : ∀ s ∈ ss, goodSegment special s = true) : ∀ s ∈ ss, '/' ∉ s.toList := by
  intro s hs hc
  have := hss s hs
  simp only [goodSegment, Bool.and_eq_true, List.all_eq_true] at this
  have h := this.1.1 '/' hc
  simp [segmentChar] at h

/-- The text of an authority and segments without its trailing slashes: that of the authority and
the trimmed segments, or nothing when both are empty. -/
theorem rdropWhile_authority {A : List Char} (hA : ∀ c ∈ A, c ≠ '/') {ss : List String}
    (hss : ∀ s ∈ ss, '/' ∉ s.toList) :
    ('/' :: '/' :: (A ++ segmentsChars ss)).rdropWhile (· == '/') =
      if trimmed ss = [] ∧ A = [] then [] else '/' :: '/' :: (A ++ segmentsChars (trimmed ss)) := by
  have htrim := rdropWhile_segmentsChars hss
  rw [← List.cons_append, ← List.cons_append, rdropWhile_append, htrim]
  by_cases hall : (segmentsChars ss).all (· == '/') = true
  · have hnil : trimmed ss = [] := by
      rw [← segmentsChars_eq_nil, trimmed, ← htrim]
      exact List.rdropWhile_eq_nil_iff.2 (by simpa using hall)
    rw [if_pos hall, hnil]
    rcases List.eq_nil_or_concat A with rfl | ⟨A', x, rfl⟩
    · simp
    · have hx : x ≠ '/' := hA x (by simp)
      rw [List.concat_eq_append, ← List.cons_append, ← List.cons_append,
        List.rdropWhile_concat_neg _ _ _ (by simpa using hx)]
      simp [segmentsChars]
  · have hne : trimmed ss ≠ [] := by
      intro hnil
      apply hall
      have := congrArg segmentsChars hnil
      rw [trimmed, ← htrim] at this
      simpa using List.rdropWhile_eq_nil_iff.1 this
    rw [if_neg hall, if_neg (fun h => hne h.1)]
    rfl

/-- The path text of a URL without a host, without its trailing slashes. -/
theorem rdropWhile_noHost {ss : List String} (hss : ∀ s ∈ ss, '/' ∉ s.toList) :
    (noHostPrefix (.segments ss) ++ segmentsChars ss).rdropWhile (· == '/') =
      noHostPrefix (.segments ss) ++ segmentsChars (trimmed ss) := by
  have htrim := rdropWhile_segmentsChars hss
  unfold noHostPrefix
  split
  · rw [show ['/', '.'] ++ segmentsChars ss = ['/'] ++ '.' :: segmentsChars ss from rfl,
      rdropWhile_append_stop _ (by decide), htrim]
    rfl
  · rw [List.nil_append, List.nil_append, htrim]
    rfl


/-! ## The join law -/

theorem toNat_of_isAlpha {c : Char} (h : c.isAlpha = true) : 0x20 < c.toNat :=
  ascii_forall (P := fun c => c.isAlpha = true → 0x20 < c.toNat) (by decide)
    (toNat_lt_of_isAlpha h) h

/-- Text that starts with a scheme and a colon, and ends in a printable character, is read by the
branch of its scheme. -/
theorem parse_schemeText {S : String} (hS : SchemeText S) {rest : List Char}
    (hchars : ∀ c ∈ rest, lineChar c = false) (hlast : ∀ c, rest.getLast? = some c → 0x20 < c.toNat)
    (hne : rest ≠ []) :
    parse (String.ofList (S.toList ++ ':' :: rest)) =
      if S == "file" then parseFile rest else if isSpecial S then parseSpecial S rest
      else parseOther S rest := by
  have hclean : clean (String.ofList (S.toList ++ ':' :: rest)) = S.toList ++ ':' :: rest := by
    obtain ⟨c, cs, hs, hα, hlt, hcs, -⟩ := hS
    apply clean_ofList
    · intro x hx
      rw [hs, List.cons_append, List.head?_cons, Option.some.injEq] at hx
      exact hx ▸ toNat_of_isAlpha hα
    · intro x hx
      rw [getLast?_append_cons _ _ hne] at hx
      exact hlast x hx
    · intro x hx
      rcases List.mem_append.1 hx with hx | hx
      · rw [hs] at hx
        rcases List.mem_cons.1 hx with rfl | hx
        · exact lineChar_of_schemeChar (schemeChar_of_alpha hα hlt)
        · exact lineChar_of_schemeChar (hcs x hx)
      · rcases List.mem_cons.1 hx with rfl | hx
        · decide
        · exact hchars x hx
  unfold parse
  rw [hclean, readScheme_schemeText_colon hS]
  rfl

/-- A name ends in a character of a name: its last piece is not empty. -/
theorem pathName_getLast {n : List Char} (hn : pathName n = true) :
    ∀ c, n.getLast? = some c → nameChar c = true := by
  intro c hc
  obtain ⟨init, rfl⟩ := List.getLast?_eq_some_iff.1 hc
  rcases pathName_chars hn c (by simp) with rfl | h
  · have hmem : [] ∈ splitWhen (· == '/') (init ++ ['/']) := by
      rw [splitWhen_append_sep (by simp)]
      simp [splitWhen]
    exact absurd rfl (pathName_pieces hn hmem).1
  · exact h

/-- The text after the scheme of a joined location: the trimmed text and a slash and a name. -/
theorem joinedRest_facts {R : List Char} (hR : ∀ c ∈ R, lineChar c = false) {n : List Char}
    (hn : pathName n = true) :
    (∀ c ∈ R ++ '/' :: n, lineChar c = false) ∧
      (∀ c, (R ++ '/' :: n).getLast? = some c → 0x20 < c.toNat) ∧ R ++ '/' :: n ≠ [] := by
  obtain ⟨c, cs, rfl, hc⟩ := pathName_head hn
  refine ⟨?_, ?_, by simp⟩
  · intro x hx
    rcases List.mem_append.1 hx with hx | hx
    · exact hR x hx
    · rcases List.mem_cons.1 hx with rfl | hx
      · decide
      · rcases pathName_chars hn x hx with rfl | h
        · decide
        · exact lineChar_of_segmentChar (nameCharFacts h).segment.1
  · intro x hx
    rw [getLast?_append_cons _ _ (List.cons_ne_nil c cs)] at hx
    exact (nameCharFacts (pathName_getLast hn x hx)).text.2


/-- The host parser gives back every non-empty host of the URL. -/
def HostReadsBack (u : Url) : Prop :=
  ∀ h, u.host = some h → h ≠ "" → parseHost (isSpecial u.scheme) h.toList = some h

/-- A drive letter that starts the path of a `file` URL with a host is written with a colon. -/
def DriveWithColon (u : Url) : Prop :=
  u.scheme = "file" → ∀ h s ss, u.host = some h → h ≠ "" → u.path = .segments (s :: ss) →
    isDriveLetter s.toList = true → s.toList.getLast? = some ':'

theorem pathText_appended {u : Url} {ss : List String} {n : List Char}
    (h : u.path = .segments (ss ++ nameSegments n)) :
    u.pathText.toList = segmentsChars ss ++ '/' :: n := by
  rw [pathText_segments h, segmentsChars_append, segmentsChars_nameSegments]

theorem pathText_name {u : Url} {n : List Char} (h : u.path = .segments (nameSegments n)) :
    u.pathText.toList = '/' :: n := by
  rw [pathText_segments h, segmentsChars_nameSegments]

theorem goodSegment_nil' : ∀ s ∈ ([] : List String), goodSegment false s = true := by
  simp

/-- A name joined to a canonical URL with a host lands in its path. -/
theorem join_host {b : Url} (hb : b.Canonical) {h : String} (hh : b.host = some h)
    (hq : b.query = none) (hf : b.fragment = none) (hback : b.HostReadsBack)
    (hdrive : b.DriveWithColon) {n : List Char} (hn : pathName n = true) :
    ∃ u, parse (String.ofList (b.toText.toList.rdropWhile (· == '/') ++ '/' :: n)) = some u ∧
      u.scheme = b.scheme ∧
      u.pathText.toList = b.pathText.toList.rdropWhile (· == '/') ++ '/' :: n := by
  obtain ⟨ss, hp⟩ : ∃ ss, b.path = .segments ss := by
    cases hp : b.path with
    | segments ss => exact ⟨ss, rfl⟩
    | whole w => exact absurd (hb.whole w hp).1 (by simp [hh])
  have hgood := hb.segments ss hp
  have hslash := noSlash_of_good hgood
  have htrim : ∀ s ∈ trimmed ss, goodSegment (isSpecial b.scheme) s = true :=
    fun s hs => hgood s (mem_trimmed hs)
  have hA : ∀ c ∈ credentialsChars b ++ h.toList ++ portChars b, c ≠ '/' := fun c hc => by
    have := authorityChar_authority hb hh c hc
    simp only [authorityChar, Bool.and_eq_true, bne_iff_ne] at this
    exact this.1.1.1.1
  have hY : ∀ c ∈ '/' :: '/' :: (credentialsChars b ++ h.toList ++ portChars b ++ segmentsChars ss),
      lineChar c = false := by
    intro c hc
    apply lineChar_toText hb hq hf
    rw [toText_of_host hh hq hf, pathText_segments hp]
    exact List.mem_append_right _ (List.mem_cons_of_mem _ hc)
  obtain ⟨hchars, hlast, hne⟩ :=
    joinedRest_facts (fun c hc => hY c ((List.rdropWhile_prefix _ _).subset hc)) hn
  rw [toText_of_host hh hq hf, pathText_segments hp, rdropWhile_append_stop _ (by decide),
    List.append_assoc, List.cons_append, parse_schemeText hb.scheme hchars hlast hne,
    rdropWhile_authority hA hslash, rdropWhile_segmentsChars hslash]
  change ∃ u : Url, _ = some u ∧ u.scheme = b.scheme ∧
    u.pathText.toList = segmentsChars (trimmed ss) ++ _
  by_cases hempty : trimmed ss = [] ∧ credentialsChars b ++ h.toList ++ portChars b = []
  · -- nothing is left of the authority and the path: the name follows the colon
    rw [if_pos hempty, List.nil_append, hempty.1]
    have hh0 : h = "" := by
      have := hempty.2
      simp only [List.append_eq_nil_iff, String.toList_eq_nil_iff] at this
      exact this.1.2
    by_cases hfile : b.scheme = "file"
    · rw [if_pos (by simp [hfile])]
      exact ⟨_, parseFile_name hn, hfile.symm, pathText_name rfl⟩
    · have hsp : isSpecial b.scheme = false := by
        by_contra hsp
        obtain ⟨h', hh', hne'⟩ := hb.special (by simpa using hsp)
        cases hh.symm.trans hh'
        exact hne' hfile hh0
      rw [if_neg (by simpa using hfile), if_neg (by simp [hsp])]
      exact ⟨_, parseOther_slash b.scheme goodSegment_nil' hn (by simp), rfl, pathText_name rfl⟩
  rw [if_neg hempty, List.cons_append, List.cons_append, List.append_assoc]
  by_cases hfile : b.scheme = "file"
  · obtain ⟨hu, hpw, hport, hlocal, hlead⟩ := hb.file hfile
    have hcred : credentialsChars b = [] := by simp [credentialsChars, hu, hpw]
    have hpc : portChars b = [] := by simp [portChars, hport]
    rw [if_pos (by simp [hfile]), hcred, hpc, List.nil_append, List.append_nil]
    rw [hfile] at htrim
    have hhead : ∀ s, (trimmed ss).head? = some s → s ≠ "" :=
      trimmed_head fun x rest he => by cases hlead ss hp (x :: rest) he
    by_cases hh0 : h = ""
    · subst hh0
      exact ⟨_, parseFile_empty_host htrim hn hhead, hfile.symm, pathText_appended rfl⟩
    · have hback' : parseHost true h.toList = some h := by
        have := hback h hh hh0
        rwa [hfile] at this
      have hdrive' : ∀ s, (trimmed ss).head? = some s → isDriveLetter s.toList = true →
          s.toList.getLast? = some ':' := by
        intro s hs hdl
        obtain ⟨rest, rfl⟩ : ∃ rest, ss = s :: rest := by
          have := head?_trimmed hs
          cases ss with
          | nil => cases this
          | cons t rest => exact ⟨rest, by simpa using this⟩
        exact hdrive hfile h s rest hh hh0 hp hdl
      obtain ⟨host, hparse⟩ := parseFile_host (hb.host h hh) hh0 (fun e => hlocal (e ▸ hh))
        hback' htrim hn hhead hdrive'
      exact ⟨_, hparse, hfile.symm, pathText_appended rfl⟩
  · rw [if_neg (by simpa using hfile)]
    by_cases hsp : isSpecial b.scheme = true
    · have hh0 : h ≠ "" := by
        obtain ⟨h', hh', hne'⟩ := hb.special hsp
        cases hh.symm.trans hh'
        exact hne' hfile
      rw [if_pos hsp]
      rw [hsp] at htrim
      exact ⟨_, parseSpecial_host hb hh hh0 (hback h hh hh0) htrim hn, rfl, pathText_appended rfl⟩
    · have hsp' : isSpecial b.scheme = false := by simpa using hsp
      rw [if_neg hsp]
      rw [hsp'] at htrim
      exact ⟨_, parseOther_host hb hh hsp' (fun hne => by simpa [hsp'] using hback h hh hne) htrim
        hn, rfl, pathText_appended rfl⟩


theorem noHostPrefix_of_not {ss : List String} (h : ∀ x rest, ss ≠ "" :: x :: rest) :
    noHostPrefix (.segments ss) = [] := by
  unfold noHostPrefix
  split
  · rename_i x rest heq
    cases heq
    exact absurd rfl (h x rest)
  · rfl

theorem nameChar_whole {c : Char} (h : nameChar c = true) : inC0Set c = false ∧ c ≠ '?' ∧ c ≠ '#' :=
  ⟨(nameCharFacts h).text.1, by rintro rfl; exact absurd h (by decide),
    by rintro rfl; exact absurd h (by decide)⟩

/-- A name joined to a canonical URL without a host lands in its path. -/
theorem join_noHost {b : Url} (hb : b.Canonical) (hh : b.host = none) (hq : b.query = none)
    (hf : b.fragment = none) {n : List Char} (hn : pathName n = true) :
    ∃ u, parse (String.ofList (b.toText.toList.rdropWhile (· == '/') ++ '/' :: n)) = some u ∧
      u.scheme = b.scheme ∧
      u.pathText.toList = b.pathText.toList.rdropWhile (· == '/') ++ '/' :: n := by
  have hsp : isSpecial b.scheme = false := by
    by_contra hsp
    obtain ⟨h', hh', -⟩ := hb.special (by simpa using hsp)
    cases hh.symm.trans hh'
  have hfile : (b.scheme == "file") = false := by
    by_contra hfile
    simp only [Bool.not_eq_false, beq_iff_eq] at hfile
    simp [hfile, isSpecial] at hsp
  have hY : ∀ c ∈ noHostPrefix b.path ++ b.pathText.toList, lineChar c = false := by
    intro c hc
    apply lineChar_toText hb hq hf
    rw [toText_of_no_host hh hq hf]
    exact List.mem_append_right _ (List.mem_cons_of_mem _ hc)
  obtain ⟨hchars, hlast, hne⟩ :=
    joinedRest_facts (fun c hc => hY c ((List.rdropWhile_prefix _ _).subset hc)) hn
  rw [toText_of_no_host hh hq hf, rdropWhile_append_stop _ (by decide), List.append_assoc,
    List.cons_append, parse_schemeText hb.scheme hchars hlast hne, if_neg (by simp [hfile]),
    if_neg (by simp [hsp])]
  cases hp : b.path with
  | segments ss =>
    have hgood := hb.segments ss hp
    rw [hsp] at hgood
    have hslash := noSlash_of_good hgood
    have htrim : ∀ s ∈ trimmed ss, goodSegment false s = true := fun s hs => hgood s (mem_trimmed hs)
    rw [pathText_segments hp, rdropWhile_noHost hslash, rdropWhile_segmentsChars hslash]
    change ∃ u : Url, _ = some u ∧ u.scheme = b.scheme ∧
      u.pathText.toList = segmentsChars (trimmed ss) ++ _
    by_cases hshape : ∃ x rest, ss = "" :: x :: rest
    · -- a first empty segment is kept apart from an authority by a `.` segment
      obtain ⟨x, rest, rfl⟩ := hshape
      exact ⟨_, parseOther_slash_dot b.scheme htrim hn, rfl, pathText_appended rfl⟩
    · have hnot : ∀ x rest, ss ≠ "" :: x :: rest := fun x rest he => hshape ⟨x, rest, he⟩
      have hparse := parseOther_slash b.scheme htrim hn (trimmed_head hnot)
      rw [← segmentsChars_append_slash] at hparse
      rw [noHostPrefix_of_not hnot, List.nil_append]
      exact ⟨_, hparse, rfl, pathText_appended rfl⟩
  | whole w =>
    obtain ⟨-, -, hchars, hhead⟩ := hb.whole w hp
    rw [show noHostPrefix (.whole w) = [] from rfl, List.nil_append]
    have hpw : b.pathText = w := by simp [pathText, hp]
    rw [hpw]
    by_cases hR : w.toList.rdropWhile (· == '/') = []
    · -- a path of one piece is never only slashes: it does not start with one
      rw [hR, List.nil_append]
      exact ⟨_, parseOther_slash b.scheme goodSegment_nil' hn (by simp), rfl, pathText_name rfl⟩
    · have hwhole : ∀ c ∈ w.toList.rdropWhile (· == '/') ++ '/' :: n,
          inC0Set c = false ∧ c ≠ '?' ∧ c ≠ '#' := by
        intro c hc
        rcases List.mem_append.1 hc with hc | hc
        · exact hchars c ((List.rdropWhile_prefix _ _).subset hc)
        · rcases List.mem_cons.1 hc with rfl | hc
          · decide
          · rcases pathName_chars hn c hc with rfl | h
            · decide
            · exact nameChar_whole h
      have hhead' : (w.toList.rdropWhile (· == '/') ++ '/' :: n).head? ≠ some '/' := by
        obtain ⟨t, ht⟩ := List.rdropWhile_prefix (· == '/') w.toList
        obtain ⟨c, cs, hcs⟩ := List.exists_cons_of_ne_nil hR
        rw [hcs, List.cons_append, List.head?_cons]
        rw [← ht, hcs, List.cons_append, List.head?_cons] at hhead
        exact hhead
      exact ⟨_, parseOther_whole b.scheme hwhole hhead', rfl, by simp [pathText]⟩


/-- **A name read after a URL keeps to its path.** For a canonical URL without query and fragment
whose hosts read back and whose `file` drive letters under a host are written with a colon, the
URL's text without its trailing slashes, then a slash and a name of plain segments, reads as a URL
of the same scheme whose path text is the URL's, without its trailing slashes, then a slash and the
name. -/
theorem parse_appended {b : Url} (hb : b.Canonical) (hq : b.query = none) (hf : b.fragment = none)
    (hback : b.HostReadsBack) (hdrive : b.DriveWithColon) {n : List Char}
    (hn : pathName n = true) :
    ∃ u, parse (String.ofList (b.toText.toList.rdropWhile (· == '/') ++ '/' :: n)) = some u ∧
      u.scheme = b.scheme ∧
      u.pathText.toList = b.pathText.toList.rdropWhile (· == '/') ++ '/' :: n := by
  cases hh : b.host with
  | some h => exact join_host hb hh hq hf hback hdrive hn
  | none => exact join_noHost hb hh hq hf hn

end TableState.Url
