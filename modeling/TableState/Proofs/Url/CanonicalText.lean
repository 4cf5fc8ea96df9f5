import TableState.Proofs.Url.Canonical

/-!
# The text of a canonical URL

The writer `Url.toText` puts the parts of a URL one after the other: the scheme and a colon, then
`//` and the authority when there is a host (`toText_of_host`), or else `/.` when the path starts
with an empty segment and has more (`toText_of_no_host`); then the path text, the query and the
fragment.

Text written from a canonical URL without query and fragment reads back part by part:

* cleaning leaves it as it is, since it holds no tab or line break (`lineChar_toText`) and starts
  and ends with printable characters (`clean_ofList`);
* its scheme reads back up to the colon (`readScheme_schemeText_colon`);
* its authority reads back as the URL's credentials, host and port when the host reader gives the
  host back (`parseAuthority_text`): the last `@` is the one after the credentials, the first colon
  outside brackets is the one before the port, and the digits of the port read back as its number
  (`radixValue_toDigits`).
-/

set_option autoImplicit false

namespace TableState.Url

/-! ## Path text -/

def segmentsChars (ss : List String) : List Char :=
  ss.flatMap fun s => '/' :: s.toList

theorem pathText_segments {u : Url} {ss : List String} (h : u.path = .segments ss) :
    u.pathText.toList = segmentsChars ss := by
  simp [pathText, h, segmentsChars, List.flatMap_map]

theorem segmentsChars_append (ss ts : List String) :
    segmentsChars (ss ++ ts) = segmentsChars ss ++ segmentsChars ts :=
  List.flatMap_append

/-! ## Reading text again -/

/-- A character that cleaning removes wherever it stands: a tab or a line break. -/
def lineChar (c : Char) : Bool :=
  c == '\t' || c == '\n' || c == '\r'

theorem dropWhile_of_head {α : Type} {p : α → Bool} {l : List α}
    (h : ∀ c, l.head? = some c → p c = false) : l.dropWhile p = l := by
  cases l with
  | nil => rfl
  | cons c l => exact List.dropWhile_cons_of_neg (by simp [h c rfl])

/-- Text that starts and ends with characters above the space and holds no tab or line break is
clean. -/
theorem clean_ofList {cs : List Char} (hhead : ∀ c, cs.head? = some c → 0x20 < c.toNat)
    (hlast : ∀ c, cs.getLast? = some c → 0x20 < c.toNat) (hchars : ∀ c ∈ cs, lineChar c = false) :
    clean (String.ofList cs) = cs := by
  have hfront : cs.dropWhile (fun c => decide (c.toNat ≤ 0x20)) = cs :=
    dropWhile_of_head fun c hc => by simpa using hhead c hc
  have hback : cs.reverse.dropWhile (fun c => decide (c.toNat ≤ 0x20)) = cs.reverse :=
    dropWhile_of_head fun c hc => by simpa using hlast c (by simpa [List.head?_reverse] using hc)
  simp only [clean, String.toList_ofList]
  rw [hfront, hback, List.reverse_reverse, List.filter_eq_self]
  intro c hc
  simpa [lineChar] using hchars c hc

theorem schemeChar_of_alpha {c : Char} (hα : c.isAlpha = true) (hlt : c.toNat < 128) :
    schemeChar c = true := by
  simp [schemeChar, Char.isAlphanum, hα, hlt]

/-- A scheme reads back from its text followed by a colon. -/
theorem readScheme_schemeText_colon {scheme : String} (h : SchemeText scheme) (rest : List Char) :
    readScheme (scheme.toList ++ ':' :: rest) = some (scheme, rest) := by
  obtain ⟨c, cs, hs, hα, hlt, hcs, hlow⟩ := h
  have hall : ∀ x ∈ c :: cs, schemeChar x = true := by
    intro x hx
    rcases List.mem_cons.1 hx with rfl | hx
    · exact schemeChar_of_alpha hα hlt
    · exact hcs x hx
  rw [hs]
  unfold readScheme
  simp only [List.cons_append, hα, hlt, decide_true, Bool.and_self, Bool.not_true,
    Bool.false_eq_true, if_false]
  have hdrop : (c :: (cs ++ ':' :: rest)).dropWhile
      (fun c => c.isAlphanum && decide (c.toNat < 128) || c == '+' || c == '-' || c == '.') =
      ':' :: rest := by
    show List.dropWhile schemeChar ((c :: cs) ++ ':' :: rest) = _
    rw [List.dropWhile_append_of_pos hall]
    rfl
  have htake : (c :: (cs ++ ':' :: rest)).takeWhile
      (fun c => c.isAlphanum && decide (c.toNat < 128) || c == '+' || c == '-' || c == '.') =
      c :: cs := by
    show List.takeWhile schemeChar ((c :: cs) ++ ':' :: rest) = _
    rw [List.takeWhile_append_of_pos hall]
    simp [schemeChar]
  rw [hdrop, htake, ← hs, String.ofList_toList, hlow]
  rfl


/-! ## Authorities read again -/

theorem lastIndexOf_none {c : Char} {cs : List Char} (h : c ∉ cs) : lastIndexOf c cs = none := by
  simp only [lastIndexOf, Option.map_eq_none_iff, List.getLast?_eq_none_iff]
  exact List.filter_eq_nil_iff.2 fun x hx => by
    have := List.fst_mem_of_mem_zipIdx hx
    simp only [beq_iff_eq]
    exact fun he => h (he ▸ this)

theorem lastIndexOf_append {c : Char} (xs : List Char) {ys : List Char} (h : c ∉ ys) :
    lastIndexOf c (xs ++ c :: ys) = some xs.length := by
  have hys : (ys.zipIdx (xs.length + 1)).filter (·.1 == c) = [] :=
    List.filter_eq_nil_iff.2 fun x hx => by
      have := List.fst_mem_of_mem_zipIdx hx
      simp only [beq_iff_eq]
      exact fun he => h (he ▸ this)
  simp [lastIndexOf, List.zipIdx_append, List.filter_append, hys]

theorem radixValue_digits {ds : List Char} (h : ∀ c ∈ ds, '0' ≤ c ∧ c ≤ '9') (init : Nat) :
    ds.foldl (fun acc c => acc.bind fun n =>
      let d := if '0' ≤ c ∧ c ≤ '9' then c.toNat - 48
        else if 'a' ≤ c ∧ c ≤ 'z' then c.toNat - 87
        else if 'A' ≤ c ∧ c ≤ 'Z' then c.toNat - 55
        else 36
      if d < 10 then some (n * 10 + d) else none) (some init) =
      some (Nat.ofDigitChars 10 ds init) := by
  induction ds generalizing init with
  | nil => rfl
  | cons d ds ih =>
    simp only [List.mem_cons, forall_eq_or_imp] at h
    have hd : d.toNat - 48 < 10 := by
      have := h.1
      simp only [Char.le_def, UInt32.le_iff_toNat_le] at this
      have : d.toNat = d.val.toNat := rfl
      have : '9'.val.toNat = 57 := rfl
      omega
    rw [List.foldl_cons, Option.bind_some]
    simp only [if_pos h.1, if_pos hd]
    rw [ih h.2, Nat.ofDigitChars_cons, Nat.mul_comm]
    rfl

theorem radixValue_toDigits (p : Nat) : radixValue 10 (Nat.toDigits 10 p) = some p := by
  rw [radixValue, radixValue_digits (fun c hc => Text.digit_of_mem_toDigits hc),
    Nat.ofDigitChars_ten_toDigits]


def credentialsChars (u : Url) : List Char :=
  if u.username.isEmpty && u.password.isEmpty then []
  else u.username.toList ++ (if u.password.isEmpty then [] else ':' :: u.password.toList) ++ ['@']

def portChars (u : Url) : List Char :=
  match u.port with
  | some p => ':' :: (toString p).toList
  | none => []

def noHostPrefix : UrlPath → List Char
  | .segments ("" :: _ :: _) => ['/', '.']
  | _ => []

theorem toText_of_no_host {u : Url} (hh : u.host = none) (hq : u.query = none)
    (hf : u.fragment = none) :
    u.toText.toList = u.scheme.toList ++ ':' :: (noHostPrefix u.path ++ u.pathText.toList) := by
  unfold toText noHostPrefix
  simp only [hh, hq, hf]
  -- the prefix depends on whether the path starts with an empty segment and goes on
  split <;> simp [String.toList_append, *]

theorem toText_of_host {u : Url} {h : String} (hh : u.host = some h) (hq : u.query = none)
    (hf : u.fragment = none) :
    u.toText.toList = u.scheme.toList ++ ':' :: '/' :: '/' ::
      (credentialsChars u ++ h.toList ++ portChars u ++ u.pathText.toList) := by
  unfold toText credentialsChars portChars
  cases hp : u.port <;> simp only [hh, hq, hf] <;> split_ifs <;> simp [String.toList_append]

theorem splitHostPort_append {inside : Bool} {xs : List Char}
    (hxs : ∀ c ∈ xs, c ≠ '[' ∧ c ≠ ']' ∧ (inside = false → c ≠ ':')) (rest : List Char) :
    splitHostPort inside (xs ++ rest) =
      (xs ++ (splitHostPort inside rest).1, (splitHostPort inside rest).2) := by
  induction xs with
  | nil => rfl
  | cons c xs ih =>
    simp only [List.mem_cons, forall_eq_or_imp] at hxs
    obtain ⟨⟨hl, hr, hcolon⟩, hxs⟩ := hxs
    have hsplit : (c == ':' && !inside) = false := by
      cases inside
      · simpa using hcolon rfl
      · simp
    simp only [List.cons_append, splitHostPort, hsplit, Bool.false_eq_true, if_false,
      beq_eq_false_iff_ne.2 hl, beq_eq_false_iff_ne.2 hr, ih hxs]

theorem splitHostPort_hostText {h : List Char} (hh : HostText h) (rest : List Char) :
    splitHostPort false (h ++ rest) =
      (h ++ (splitHostPort false rest).1, (splitHostPort false rest).2) := by
  rcases hh with hfree | ⟨m, rfl, hm⟩
  · refine splitHostPort_append (fun c hc => ?_) rest
    have := hfree c hc
    refine ⟨?_, ?_, fun _ => ?_⟩ <;> rintro rfl <;> exact absurd this (by decide)
  · have hm' : ∀ c ∈ m, c ≠ '[' ∧ c ≠ ']' ∧ (true = false → c ≠ ':') := by
      intro c hc
      rcases hm c hc with rfl | hfree
      · exact ⟨by decide, by decide, by simp⟩
      · refine ⟨?_, ?_, by simp⟩ <;> rintro rfl <;> exact absurd hfree (by decide)
    have hopen : ∀ xs, splitHostPort false ('[' :: xs) =
        ('[' :: (splitHostPort true xs).1, (splitHostPort true xs).2) := fun _ => rfl
    have hclose : ∀ xs, splitHostPort true (']' :: xs) =
        (']' :: (splitHostPort false xs).1, (splitHostPort false xs).2) := fun _ => rfl
    simp only [List.cons_append, List.append_assoc]
    rw [hopen, splitHostPort_append hm', hclose]
    simp

theorem parsePort_toString {scheme : String} {p : Nat} (hp : p ≤ 65535)
    (hdef : defaultPort scheme ≠ some p) :
    parsePort scheme (toString p).toList = some (some p, []) := by
  have hdigits : ∀ c ∈ Nat.toDigits 10 p, '0' ≤ c ∧ c ≤ '9' := fun c hc => Text.digit_of_mem_toDigits hc
  have htake : (Nat.toDigits 10 p).takeWhile (fun c => decide ('0' ≤ c ∧ c ≤ '9')) =
      Nat.toDigits 10 p := List.takeWhile_eq_self_iff.2 fun c hc => by simpa using hdigits c hc
  have hdrop : (Nat.toDigits 10 p).dropWhile (fun c => decide ('0' ≤ c ∧ c ≤ '9')) = [] :=
    List.dropWhile_eq_nil_iff.2 fun c hc => by simpa using hdigits c hc
  have hne : (Nat.toDigits 10 p).isEmpty = false := by
    simp [Nat.toDigits_ne_nil]
  rw [Nat.toString_eq_ofList_toDigits, String.toList_ofList]
  unfold parsePort
  simp only [htake, hdrop, hne, radixValue_toDigits, List.isEmpty_nil, Bool.true_or,
    Bool.not_true, Bool.false_eq_true, if_false]
  rw [if_neg (by omega), if_neg (by simpa using hdef)]


theorem at_not_mem_hostText {h : List Char} (hh : HostText h) : '@' ∉ h := by
  intro hat
  rcases hh with hfree | ⟨m, rfl, hm⟩
  · exact absurd (hfree '@' hat) (by decide)
  · simp only [List.mem_cons, List.mem_append] at hat
    rcases hat with hat | hat | hat
    · exact absurd hat (by decide)
    · rcases hm '@' hat with h | h
      · exact absurd h (by decide)
      · exact absurd h (by decide)
    · exact absurd hat (by decide)

theorem at_not_mem_portChars (u : Url) : '@' ∉ portChars u := by
  unfold portChars
  split
  · rw [Nat.toString_eq_ofList_toDigits, String.toList_ofList]
    intro hat
    rcases List.mem_cons.1 hat with hat | hat
    · exact absurd hat (by decide)
    · have := Text.digit_of_mem_toDigits hat
      exact absurd this (by decide)
  · simp

theorem parseAuthority_text {u : Url} (hu : u.Canonical) {h : String} (hh : u.host = some h)
    (hsp : isSpecial u.scheme = true → h ≠ "")
    (hback : h ≠ "" → parseHost (isSpecial u.scheme) h.toList = some h) :
    parseAuthority u.scheme (credentialsChars u ++ h.toList ++ portChars u) =
      some (⟨u.username, u.password, h, u.port⟩, []) := by
  have htext := hu.host h hh
  have hnoat : '@' ∉ h.toList ++ portChars u := by
    simp only [List.mem_append, not_or]
    exact ⟨at_not_mem_hostText htext, at_not_mem_portChars u⟩
  -- the host and the port split at the colon after the host
  have hsplit : splitHostPort false (h.toList ++ portChars u) =
      (h.toList, u.port.map fun p => (toString p).toList) := by
    rw [splitHostPort_hostText htext]
    unfold portChars
    split <;> simp_all [splitHostPort]
  have hport : parsePort u.scheme ((u.port.map fun p => (toString p).toList).getD []) =
      some (u.port, []) := by
    cases hp : u.port with
    | none => rfl
    | some p =>
      obtain ⟨h1, h2⟩ := hu.port p hp
      exact parsePort_toString h1 h2
  have hhost : (if h.toList.isEmpty = true then some "" else parseHost (isSpecial u.scheme) h.toList) =
      some h := by
    by_cases he : h = ""
    · subst he
      rfl
    · rw [if_neg (by simpa using he), hback he]
  have hempty : h = "" → u.username = "" ∧ u.password = "" ∧ u.port = none ∧
      isSpecial u.scheme = false := by
    intro he
    subst he
    obtain ⟨h1, h2, h3⟩ := hu.emptyHost hh
    exact ⟨h1, h2, h3, Bool.eq_false_iff.2 fun hs => hsp hs rfl⟩
  by_cases hc : (u.username.isEmpty && u.password.isEmpty) = true
  · have hcreds : credentialsChars u = [] := by simp [credentialsChars, hc]
    have huser : u.username = "" ∧ u.password = "" := by simpa using hc
    rw [hcreds, List.nil_append]
    unfold parseAuthority
    simp only [bind, Option.bind, lastIndexOf_none hnoat, hsplit]
    by_cases he : h = ""
    · obtain ⟨h1, h2, h3, h4⟩ := hempty he
      subst he
      simp [h1, h2, h3, h4, parsePort_nil]
    · have hne : h.toList.isEmpty = false := by simpa using he
      simp only [hne, Bool.false_and, Bool.false_eq_true, if_false, hback he, hport]
      simp [huser]
  · -- credentials: the name, a colon and the password if there is one, then an `@`
    have hnocolon : ∀ c ∈ u.username.toList, (c != ':') = true := fun c hc' => by
      have := hu.username c hc'
      simp only [bne_iff_ne, ne_eq]
      rintro rfl
      exact absurd this (by decide)
    set ui := u.username.toList ++ (if u.password.isEmpty then [] else ':' :: u.password.toList)
      with hui
    have hauth : credentialsChars u ++ h.toList ++ portChars u = ui ++ '@' :: (h.toList ++ portChars u) := by
      simp [credentialsChars, hc, hui]
    have htake : (ui ++ '@' :: (h.toList ++ portChars u)).take ui.length = ui := by simp
    have hdrop : (ui ++ '@' :: (h.toList ++ portChars u)).drop (ui.length + 1) =
        h.toList ++ portChars u := by
      simp [List.drop_append]
    have hname : ui.takeWhile (· != ':') = u.username.toList := by
      rw [hui, List.takeWhile_append_of_pos hnocolon]
      split <;> simp
    have hpass : (ui.dropWhile (· != ':')).drop 1 = u.password.toList := by
      rw [hui, List.dropWhile_append_of_pos hnocolon]
      split
      · rename_i hpw
        simp [String.isEmpty_iff.1 hpw]
      · simp
    have hencU : encodeAll inUserinfoSet u.username.toList = u.username.toList :=
      encodeAll_of_forall hu.username
    have hencP : encodeAll inUserinfoSet u.password.toList = u.password.toList :=
      encodeAll_of_forall hu.password
    have he : h ≠ "" := fun he => hc (by obtain ⟨h1, h2, -⟩ := hempty he; simp [h1, h2])
    have hne : h.toList.isEmpty = false := by simpa using he
    rw [hauth]
    unfold parseAuthority
    simp only [bind, Option.bind, lastIndexOf_append ui hnoat, htake, hdrop, hsplit, hname, hpass,
      hencU, hencP, String.ofList_toList, hne, Bool.false_and, Bool.false_eq_true, if_false,
      hback he, hport]
    rfl


/-! ## Characters of canonical text -/

/-- A character that may stand in the text of an authority: no separator of the parts that follow
it, and no tab or line break. -/
def authorityChar (c : Char) : Bool :=
  c != '/' && c != '?' && c != '#' && c != '\\' && !lineChar c

theorem authorityChar_of_userinfo {c : Char} (h : inUserinfoSet c = false) : authorityChar c = true := by
  simp only [authorityChar, lineChar, Bool.and_eq_true, bne_iff_ne, ne_eq, Bool.not_eq_eq_eq_not,
    Bool.not_true, Bool.or_eq_false_iff, beq_eq_false_iff_ne]
  refine ⟨⟨⟨⟨?_, ?_⟩, ?_⟩, ?_⟩, ⟨?_, ?_⟩, ?_⟩ <;> rintro rfl <;> exact absurd h (by decide)

theorem authorityChar_of_host {c : Char} (h : isForbiddenHostChar c = false) : authorityChar c = true := by
  simp only [authorityChar, lineChar, Bool.and_eq_true, bne_iff_ne, ne_eq, Bool.not_eq_eq_eq_not,
    Bool.not_true, Bool.or_eq_false_iff, beq_eq_false_iff_ne]
  refine ⟨⟨⟨⟨?_, ?_⟩, ?_⟩, ?_⟩, ⟨?_, ?_⟩, ?_⟩ <;> rintro rfl <;> exact absurd h (by decide)

theorem authorityChar_hostText {h : List Char} (hh : HostText h) : ∀ c ∈ h, authorityChar c = true := by
  rcases hh with hfree | ⟨m, rfl, hm⟩
  · exact fun c hc => authorityChar_of_host (hfree c hc)
  · intro c hc
    simp only [List.mem_cons, List.mem_append, List.not_mem_nil, or_false] at hc
    rcases hc with rfl | hc | rfl
    · decide
    · rcases hm c hc with rfl | hfree
      · decide
      · exact authorityChar_of_host hfree
    · decide

theorem authorityChar_portChars (u : Url) : ∀ c ∈ portChars u, authorityChar c = true := by
  have hdigit : ∀ d < 10, authorityChar (Nat.digitChar d) = true := by decide
  unfold portChars
  split
  · rw [Nat.toString_eq_ofList_toDigits, String.toList_ofList]
    intro c hc
    rcases List.mem_cons.1 hc with rfl | hc
    · decide
    · obtain ⟨d, hd, rfl⟩ := digitChar_of_mem_toDigits (by decide) hc
      exact hdigit d hd
  · simp

theorem authorityChar_credentialsChars {u : Url} (hu : u.Canonical) :
    ∀ c ∈ credentialsChars u, authorityChar c = true := by
  intro c hc
  unfold credentialsChars at hc
  split at hc
  · cases hc
  · simp only [List.mem_append, List.mem_cons, List.not_mem_nil, or_false] at hc
    rcases hc with (hc | hc) | rfl
    · exact authorityChar_of_userinfo (hu.username c hc)
    · split at hc
      · cases hc
      · rcases List.mem_cons.1 hc with rfl | hc
        · decide
        · exact authorityChar_of_userinfo (hu.password c hc)
    · decide

theorem lineChar_of_authorityChar {c : Char} (h : authorityChar c = true) : lineChar c = false := by
  simp only [authorityChar, Bool.and_eq_true, Bool.not_eq_eq_eq_not, Bool.not_true] at h
  exact h.2

theorem lineChar_of_segmentChar {sp : Bool} {c : Char} (h : segmentChar sp c = true) :
    lineChar c = false := by
  simp only [segmentChar, Bool.and_eq_true, Bool.not_eq_eq_eq_not, Bool.not_true] at h
  have h1 := h.1.1
  simp only [lineChar, Bool.or_eq_false_iff, beq_eq_false_iff_ne]
  refine ⟨⟨?_, ?_⟩, ?_⟩ <;> rintro rfl <;> exact absurd h1 (by decide)

theorem lineChar_of_schemeChar {c : Char} (h : schemeChar c = true) : lineChar c = false :=
  ascii_forall (P := fun c => schemeChar c = true → lineChar c = false) (by decide)
    (toNat_lt_of_schemeChar h) h

/-- No character of the text of a canonical URL without query and fragment is a tab or a line
break. -/
theorem lineChar_toText {u : Url} (hu : u.Canonical) (hq : u.query = none) (hf : u.fragment = none) :
    ∀ c ∈ u.toText.toList, lineChar c = false := by
  have hscheme : ∀ c ∈ u.scheme.toList, lineChar c = false := by
    obtain ⟨c, cs, hs, hα, hlt, hcs, -⟩ := hu.scheme
    intro x hx
    rw [hs] at hx
    rcases List.mem_cons.1 hx with rfl | hx
    · exact lineChar_of_schemeChar (schemeChar_of_alpha hα hlt)
    · exact lineChar_of_schemeChar (hcs x hx)
  have hpath : ∀ c ∈ u.pathText.toList, lineChar c = false := by
    intro c hc
    cases hp : u.path with
    | segments ss =>
      rw [pathText_segments hp] at hc
      obtain ⟨s, hs, hc⟩ := List.mem_flatMap.1 hc
      rcases List.mem_cons.1 hc with rfl | hc
      · decide
      · have := hu.segments ss hp s hs
        simp only [goodSegment, Bool.and_eq_true, List.all_eq_true] at this
        exact lineChar_of_segmentChar (this.1.1 c hc)
    | whole w =>
      have hw := (hu.whole w hp).2.2.1 c (by simpa [pathText, hp] using hc)
      simp only [lineChar, Bool.or_eq_false_iff, beq_eq_false_iff_ne]
      refine ⟨⟨?_, ?_⟩, ?_⟩ <;> rintro rfl <;> exact absurd hw.1 (by decide)
  cases hh : u.host with
  | some h =>
    rw [toText_of_host hh hq hf]
    intro c hc
    simp only [List.mem_append, List.mem_cons] at hc
    rcases hc with hc | rfl | rfl | rfl | ((hc | hc) | hc) | hc
    · exact hscheme c hc
    · decide
    · decide
    · decide
    · exact lineChar_of_authorityChar (authorityChar_credentialsChars hu c hc)
    · exact lineChar_of_authorityChar (authorityChar_hostText (hu.host h hh) c hc)
    · exact lineChar_of_authorityChar (authorityChar_portChars u c hc)
    · exact hpath c hc
  | none =>
    rw [toText_of_no_host hh hq hf]
    intro c hc
    simp only [List.mem_append, List.mem_cons] at hc
    rcases hc with hc | rfl | hc | hc
    · exact hscheme c hc
    · decide
    · unfold noHostPrefix at hc
      split at hc
      · simp only [List.mem_cons, List.not_mem_nil, or_false] at hc
        rcases hc with rfl | rfl <;> decide
      · cases hc
    · exact hpath c hc

end TableState.Url
