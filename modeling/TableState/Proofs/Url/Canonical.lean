import TableState.Proofs.Url.Join

/-!
# Canonical URLs

The URLs the reader gives are canonical (`parse_canonical`): each part is written the way
`Url.toText` writes it, and holds no character that would end the part early or be read
differently when the text is read again.

* The scheme is an ASCII letter, then letters, digits, `+`, `-` and `.`, lowercased
  (`SchemeText`).
* Credentials are percent-encoded with the userinfo set, so they hold no `:`, `@` or separator.
* A host holds no forbidden host character, except the colons inside the brackets of an IPv6
  address (`HostText`); it is empty only without credentials and port.
* A port is at most 65535 and never the scheme's default.
* A path of segments has good segments only (`goodSegment`): no character of the path set, no
  separator, and no `.` or `..` segment, since those were resolved while reading.
* A path of one piece has no control, no `?` and no `#`, and does not start with a slash
  (`WholeText`).
* A special scheme has a host, non-empty except in `file`; a `file` URL has no credentials and no
  port, its host is never `localhost`, and its path starts with an empty segment only when that
  segment is the only one.

Each branch of the reader is checked on its own (`parseFile_canonical`, `parseSpecial_canonical`,
`parseOther_canonical`), from the authority (`parseAuthority_canonical`) and from the segments
that each step of `addSegments` adds (`addSegment_good`).
-/

set_option autoImplicit false

namespace TableState.Url

/-- The lowercase form of an ASCII letter; other characters stay. -/
def lowerChar (c : Char) : Char :=
  if 'A' ≤ c ∧ c ≤ 'Z' then Char.ofNat (c.toNat + 32) else c

theorem asciiLower_toList (s : String) : (asciiLower s).toList = s.toList.map lowerChar := by
  simp only [asciiLower, String.toList_ofList]
  rfl

/-- A property checked on the 128 ASCII code points holds of every ASCII character. -/
theorem ascii_forall {P : Char → Prop} (h : ∀ k < 128, P (Char.ofNat k)) {c : Char}
    (hc : c.toNat < 128) : P c := by
  simpa [Char.ofNat_toNat] using h c.toNat hc

theorem mem_encodeAll {S : Char → Bool} {cs : List Char} {c : Char} (h : c ∈ encodeAll S cs) :
    (c ∈ cs ∧ S c = false) ∨ c = '%' ∨ ∃ k < 16, c = hexUpper k := by
  obtain ⟨x, hx, hc⟩ := List.mem_flatMap.1 h
  simp only [percentEncode] at hc
  split at hc
  · obtain ⟨b, -, hb⟩ := List.mem_flatMap.1 hc
    have hlt : b.toNat < 256 := by simpa using UInt8.toNat_lt b
    simp only [List.mem_cons, List.not_mem_nil, or_false] at hb
    rcases hb with rfl | rfl | rfl
    · exact .inr (.inl rfl)
    · exact .inr (.inr ⟨b.toNat / 16, by omega, rfl⟩)
    · exact .inr (.inr ⟨b.toNat % 16, by omega, rfl⟩)
  · rename_i hS
    obtain rfl := List.mem_singleton.1 hc
    exact .inl ⟨hx, Bool.eq_false_iff.2 hS⟩

theorem encodeAll_forall {S : Char → Bool} {P : Char → Prop} {cs : List Char}
    (hcs : ∀ c ∈ cs, S c = false → P c) (hpct : P '%') (hhex : ∀ k < 16, P (hexUpper k)) :
    ∀ c ∈ encodeAll S cs, P c := by
  intro c hc
  rcases mem_encodeAll hc with ⟨hc, hS⟩ | rfl | ⟨k, hk, rfl⟩
  · exact hcs c hc hS
  · exact hpct
  · exact hhex k hk

theorem forall_of_mem_splitWhen {α : Type} {p : α → Bool} {cs piece : List α}
    (h : piece ∈ splitWhen p cs) : ∀ c ∈ piece, p c = false := by
  induction cs generalizing piece with
  | nil =>
    obtain rfl := List.mem_singleton.1 h
    simp
  | cons c cs ih =>
    unfold splitWhen at h
    split at h
    · rcases List.mem_cons.1 h with rfl | h
      · simp
      · exact ih h
    · rename_i hc
      split at h
      · rename_i s ss hsplit
        rcases List.mem_cons.1 h with rfl | h
        · intro x hx
          rcases List.mem_cons.1 hx with rfl | hx
          · exact Bool.eq_false_iff.2 hc
          · exact ih (hsplit ▸ List.mem_cons_self) x hx
        · exact ih (hsplit ▸ List.mem_cons_of_mem _ h)
      · obtain rfl := List.mem_singleton.1 h
        intro x hx
        obtain rfl := List.mem_singleton.1 hx
        exact Bool.eq_false_iff.2 hc

/-- A character that a segment of a canonical path may hold: none of the path set, and no
separator. -/
def segmentChar (special : Bool) (c : Char) : Bool :=
  !inPathSet c && c != '/' && !(special && c == '\\')

/-- A segment of a canonical path: characters of segments only, and no dot segment. -/
def goodSegment (special : Bool) (s : String) : Bool :=
  s.toList.all (segmentChar special) && !isSingleDot s && !isDoubleDot s

theorem goodSegment_empty (special : Bool) : goodSegment special "" = true := by
  cases special <;> decide

theorem mem_shorten {path : List String} {s : String} (h : s ∈ shorten path) : s ∈ path := by
  unfold shorten at h
  split at h
  · split at h
    · exact h
    · exact (List.dropLast_sublist path).subset h
  · cases h

theorem toNat_lt_of_isAlpha {c : Char} (h : c.isAlpha = true) : c.toNat < 128 := by
  delta Char.isAlpha Char.isUpper Char.isLower at h
  simp only [Bool.or_eq_true, Bool.and_eq_true, decide_eq_true_eq] at h
  have : c.toNat = c.val.toNat := rfl
  rcases h with ⟨-, h⟩ | ⟨-, h⟩ <;> simp [UInt32.le_iff_toNat_le] at h <;> omega

theorem goodSegment_drive (special : Bool) {raw : List Char} (h : isDriveLetter raw = true) :
    goodSegment special (String.ofList (raw.take 1 ++ [':'])) = true := by
  rcases raw with _ | ⟨a, _ | ⟨b, _ | ⟨c, rest⟩⟩⟩
  · cases h
  · cases h
  · have ha : a.isAlpha = true := by
      simp only [isDriveLetter, Bool.and_eq_true] at h
      exact h.1
    show goodSegment special (String.ofList [a, ':']) = true
    have hlt := toNat_lt_of_isAlpha ha
    revert ha
    refine ascii_forall (P := fun a => a.isAlpha = true →
      goodSegment special (String.ofList [a, ':']) = true) ?_ hlt
    cases special <;> decide
  · cases h

theorem segmentChar_encoded (special : Bool) : segmentChar special '%' = true ∧
    ∀ k < 16, segmentChar special (hexUpper k) = true := by
  cases special <;> decide


/-- Each segment that reading adds to a path of good segments is good: a dot segment adds nothing
or an empty segment, a drive letter is written with a colon, and any other segment is
percent-encoded with the path set. -/
theorem addSegment_good {special file slashAfter : Bool} {path : List String} {raw : List Char}
    (hpath : ∀ s ∈ path, goodSegment special s = true)
    (hraw : ∀ c ∈ raw, c ≠ '/' ∧ (special = true → c ≠ '\\')) :
    ∀ s ∈ (addSegment file slashAfter path raw).1, goodSegment special s = true := by
  have hempty := goodSegment_empty special
  -- a path grown by one good segment stays good
  have hsnoc : ∀ {t : String}, goodSegment special t = true →
      ∀ s ∈ path ++ [t], goodSegment special s = true := by
    intro t ht s hs
    rcases List.mem_append.1 hs with hs | hs
    · exact hpath s hs
    · obtain rfl := List.mem_singleton.1 hs
      exact ht
  have hshort : ∀ s ∈ shorten path, goodSegment special s = true :=
    fun s hs => hpath s (mem_shorten hs)
  unfold addSegment
  by_cases hdd : isDoubleDot (String.ofList (encodeAll inPathSet raw)) = true
  · rw [if_pos hdd]
    cases slashAfter
    · intro s hs
      rcases List.mem_append.1 hs with hs | hs
      · exact hshort s hs
      · obtain rfl := List.mem_singleton.1 hs
        exact hempty
    · exact hshort
  rw [if_neg hdd]
  by_cases hsd : isSingleDot (String.ofList (encodeAll inPathSet raw)) = true
  · rw [if_pos hsd]
    cases slashAfter
    · exact hsnoc hempty
    · exact hpath
  rw [if_neg hsd]
  by_cases hdrive : (file && path.isEmpty && isDriveLetter raw) = true
  · rw [if_pos hdrive]
    simp only [Bool.and_eq_true] at hdrive
    exact hsnoc (goodSegment_drive special hdrive.2)
  rw [if_neg hdrive]
  -- the encoded segment: no character of the path set, and no separator
  have hchars : ∀ c ∈ encodeAll inPathSet raw, segmentChar special c = true :=
    encodeAll_forall (fun c hc hS => by
      obtain ⟨hslash, hback⟩ := hraw c hc
      cases special
      · simp [segmentChar, hS, hslash]
      · simp [segmentChar, hS, hslash, hback rfl])
      (segmentChar_encoded special).1 (segmentChar_encoded special).2
  apply hsnoc
  simp only [goodSegment, String.toList_ofList, List.all_eq_true, Bool.and_eq_true,
    Bool.not_eq_eq_eq_not, Bool.not_true]
  exact ⟨⟨hchars, Bool.eq_false_iff.2 hsd⟩, Bool.eq_false_iff.2 hdd⟩

theorem foldl_addSegment_good {special file : Bool} {n : Nat} :
    ∀ (rs : List (List Char × Nat)) (acc : List String × Bool),
      (∀ r ∈ rs, ∀ c ∈ r.1, c ≠ '/' ∧ (special = true → c ≠ '\\')) →
      (∀ s ∈ acc.1, goodSegment special s = true) →
      ∀ s ∈ (rs.foldl (fun acc r =>
        let (p, drive) := addSegment file (r.2 + 1 < n) acc.1 r.1
        (p, acc.2 || drive)) acc).1, goodSegment special s = true := by
  intro rs
  induction rs with
  | nil => intro acc _ hacc; exact hacc
  | cons r rs ih =>
    intro acc hrs hacc
    simp only [List.mem_cons, forall_eq_or_imp] at hrs
    rw [List.foldl_cons]
    apply ih _ hrs.2
    have hstep : ∀ s ∈ (addSegment file (decide (r.2 + 1 < n)) acc.1 r.1).1,
        goodSegment special s = true := addSegment_good hacc hrs.1
    generalize addSegment file (decide (r.2 + 1 < n)) acc.1 r.1 = A at hstep
    obtain ⟨p, d⟩ := A
    exact hstep

theorem addSegments_good {special file : Bool} {path : List String} {cs : List Char}
    (hpath : ∀ s ∈ path, goodSegment special s = true) :
    ∀ s ∈ (addSegments special file path cs).1, goodSegment special s = true := by
  unfold addSegments
  refine foldl_addSegment_good _ _ (fun r hr c hc => ?_) hpath
  have hsep := forall_of_mem_splitWhen (List.fst_mem_of_mem_zipIdx hr) c hc
  simp only [Bool.or_eq_false_iff, beq_eq_false_iff_ne, ne_eq, Bool.and_eq_false_imp,
    beq_eq_false_iff_ne] at hsep
  exact ⟨hsep.1, hsep.2⟩

theorem mem_dropLeadingEmpty {path : List String} {s : String} (h : s ∈ dropLeadingEmpty path) :
    s ∈ path := by
  fun_induction dropLeadingEmpty path with
  | case1 rest _ ih => exact List.mem_cons_of_mem _ (ih h)
  | case2 path _ => exact h

theorem dropLeadingEmpty_eq_cons_empty {path rest : List String}
    (h : dropLeadingEmpty path = "" :: rest) : rest = [] := by
  fun_induction dropLeadingEmpty path with
  | case1 rest' _ ih => exact ih h
  | case2 path hpath =>
    subst h
    cases rest with
    | nil => rfl
    | cons x xs => exact (hpath x xs rfl).elim


theorem encodeAll_eq_nil {S : Char → Bool} {cs : List Char} (h : encodeAll S cs = []) : cs = [] := by
  cases cs with
  | nil => rfl
  | cons c cs =>
    simp only [encodeAll, List.flatMap_cons, List.append_eq_nil_iff, percentEncode] at h
    split at h
    · exact absurd (List.flatMap_eq_nil_iff.1 h.1) fun hall =>
        String.utf8EncodeChar_ne_nil (List.eq_nil_iff_forall_not_mem.2 fun b hb => by
          simpa using hall b hb)
    · simp at h

/-! ## Hosts -/

/-- The text of a host: no forbidden host character, or an IPv6 address in brackets whose only
forbidden characters are its colons. -/
def HostText (h : List Char) : Prop :=
  (∀ c ∈ h, isForbiddenHostChar c = false) ∨
    ∃ m, h = '[' :: (m ++ [']']) ∧ ∀ c ∈ m, c = ':' ∨ isForbiddenHostChar c = false

theorem digitChar_of_mem_toDigits {b n : Nat} (hb : 1 < b) {c : Char}
    (h : c ∈ Nat.toDigits b n) : ∃ d < b, c = Nat.digitChar d := by
  induction n using Nat.strong_induction_on with
  | _ n ih =>
    rw [Nat.toDigits_eq_if hb] at h
    split at h
    · exact ⟨n, ‹_›, List.mem_singleton.1 h⟩
    · rcases List.mem_append.1 h with h | h
      · exact ih (n / b) (Nat.div_lt_self (by omega) hb) h
      · exact ⟨n % b, Nat.mod_lt _ (by omega), List.mem_singleton.1 h⟩

theorem mem_intercalate {sep : String} {l : List String} {c : Char}
    (h : c ∈ (sep.intercalate l).toList) : c ∈ sep.toList ∨ ∃ s ∈ l, c ∈ s.toList := by
  induction l with
  | nil => simp at h
  | cons s l ih =>
    cases l with
    | nil => exact .inr ⟨s, List.mem_singleton_self s, by simpa using h⟩
    | cons t l =>
      rw [String.intercalate_cons_cons] at h
      simp only [String.toList_append, List.mem_append] at h
      rcases h with (h | h) | h
      · exact .inr ⟨s, List.mem_cons_self, h⟩
      · exact .inl h
      · rcases ih h with h | ⟨x, hx, h⟩
        · exact .inl h
        · exact .inr ⟨x, List.mem_cons_of_mem _ hx, h⟩

theorem ipv6Text_chars (ps : List Nat) :
    ∀ c ∈ (ipv6Text ps).toList, c = ':' ∨ isForbiddenHostChar c = false := by
  have hhex : ∀ d < 16, isForbiddenHostChar (Nat.digitChar d) = false := by decide
  -- every piece is hexadecimal digits, joined by colons
  have hpieces : ∀ l : List Nat, ∀ c ∈ (":".intercalate (l.map fun n =>
      String.ofList (Nat.toDigits 16 n))).toList, c = ':' ∨ isForbiddenHostChar c = false := by
    intro l c hc
    rcases mem_intercalate hc with hc | ⟨s, hs, hc⟩
    · exact .inl (by simpa using hc)
    · obtain ⟨n, -, rfl⟩ := List.mem_map.1 hs
      obtain ⟨d, hd, rfl⟩ := digitChar_of_mem_toDigits (b := 16) (by decide) (by simpa using hc)
      exact .inr (hhex d hd)
  intro c hc
  unfold ipv6Text at hc
  split at hc
  · simp only [String.toList_append, List.mem_append] at hc
    rcases hc with (hc | hc) | hc
    · exact hpieces _ c hc
    · exact .inl (by simpa using hc)
    · exact hpieces _ c hc
  · exact hpieces _ c hc

theorem ipv4Text_chars (n : Nat) : ∀ c ∈ (ipv4Text n).toList, isForbiddenHostChar c = false := by
  have hdigit : ∀ d < 10, isForbiddenHostChar (Nat.digitChar d) = false := by decide
  intro c hc
  rcases mem_intercalate hc with hc | ⟨s, hs, hc⟩
  · obtain rfl := List.mem_singleton.1 hc
    decide
  · obtain ⟨i, -, rfl⟩ := List.mem_map.1 hs
    rw [Nat.toString_eq_ofList_toDigits, String.toList_ofList] at hc
    obtain ⟨d, hd, rfl⟩ := digitChar_of_mem_toDigits (by decide) hc
    exact hdigit d hd

theorem ipv4Text_ne_empty (n : Nat) : ipv4Text n ≠ "" := by
  intro h
  have hlen := congrArg String.length h
  simp [ipv4Text, String.intercalate_cons_cons] at hlen

/-- A host the reader gives: host text, and not empty when read from text that is not. -/
theorem parseHost_hostText {special : Bool} {cs : List Char} {h : String}
    (hh : parseHost special cs = some h) (hcs : cs ≠ []) : HostText h.toList ∧ h ≠ "" := by
  unfold parseHost at hh
  split at hh
  · split at hh
    · cases hh
    · obtain ⟨ps, -, rfl⟩ := Option.map_eq_some_iff.1 hh
      refine ⟨.inr ⟨(ipv6Text ps).toList, by simp [String.toList_append], ipv6Text_chars ps⟩, ?_⟩
      intro he
      have := congrArg String.length he
      simp at this
  · split at hh
    · split at hh
      · cases hh
      · rename_i hany
        obtain rfl := Option.some.inj hh
        have hfree : ∀ c ∈ cs, isForbiddenHostChar c = false := by
          simpa using hany
        refine ⟨.inl (by
          rw [String.toList_ofList]
          exact encodeAll_forall (fun c hc _ => hfree c hc) (by decide) (by decide)), ?_⟩
        intro he
        exact hcs (encodeAll_eq_nil (by simpa using congrArg String.toList he))
    · split at hh
      · cases hh
      · split at hh
        · cases hh
        · rename_i ascii _
          split at hh
          · cases hh
          · rename_i hbad
            have hany : ascii.any isForbiddenDomainChar = false := by
              cases hh' : ascii.any isForbiddenDomainChar
              · rfl
              · exact absurd (by simp [hh']) hbad
            have hfree : ∀ c ∈ ascii, isForbiddenHostChar c = false := by
              intro c hc
              have := List.any_eq_false.1 hany c hc
              simp only [isForbiddenDomainChar, Bool.or_eq_true, not_or] at this
              exact Bool.eq_false_iff.2 this.1.1.1
            split at hh
            · obtain ⟨a, -, rfl⟩ := Option.map_eq_some_iff.1 hh
              exact ⟨.inl (ipv4Text_chars a), ipv4Text_ne_empty a⟩
            · obtain rfl := Option.some.inj hh
              refine ⟨.inl (by simpa using hfree), ?_⟩
              intro he
              apply hbad
              have : ascii = [] := by simpa using congrArg String.toList he
              simp [this]


/-! ## Authorities -/

theorem parsePort_port {scheme : String} {cs rest : List Char} {port : Option Nat}
    (h : parsePort scheme cs = some (port, rest)) :
    ∀ p, port = some p → p ≤ 65535 ∧ defaultPort scheme ≠ some p := by
  intro p hp
  subst hp
  unfold parsePort at h
  simp only at h
  split at h
  · cases h
  split at h
  · cases h
  split at h
  · split at h
    · cases h
    split at h
    · cases h
    · rename_i hq hdef
      obtain ⟨hpq, -⟩ := Prod.mk.inj (Option.some.inj h)
      cases hpq
      exact ⟨by omega, fun h' => hdef (by simp [h'])⟩
  · cases h

theorem parsePort_nil (scheme : String) : parsePort scheme [] = some (none, []) := rfl

/-- An authority as the reader gives it. -/
structure Authority.Canonical (scheme : String) (a : Authority) : Prop where
  username : ∀ c ∈ a.username.toList, inUserinfoSet c = false
  password : ∀ c ∈ a.password.toList, inUserinfoSet c = false
  host : HostText a.host.toList
  emptyHost : a.host = "" → a.username = "" ∧ a.password = "" ∧ a.port = none
  port : ∀ p, a.port = some p → p ≤ 65535 ∧ defaultPort scheme ≠ some p
  special : isSpecial scheme = true → a.host ≠ ""

theorem encodeAll_userinfo (cs : List Char) :
    ∀ c ∈ (String.ofList (encodeAll inUserinfoSet cs)).toList, inUserinfoSet c = false := by
  rw [String.toList_ofList]
  exact encodeAll_forall (fun _ _ h => h) (by decide) (by decide)

/-- An authority read with a host: encoded credentials, the host read from its text, and the
port read after it. -/
theorem canonical_of_host {scheme user pass : String} {hostText : List Char}
    {portText : Option (List Char)} {a : Authority} {head : List Char}
    (hu : ∀ c ∈ user.toList, inUserinfoSet c = false)
    (hp : ∀ c ∈ pass.toList, inUserinfoSet c = false) (hne : ¬hostText.isEmpty = true)
    (h : ((parseHost (isSpecial scheme) hostText).bind fun host =>
      (parsePort scheme (portText.getD [])).bind fun x =>
        some ((⟨user, pass, host, x.1⟩ : Authority), x.2)) = some (a, head)) :
    a.Canonical scheme := by
  obtain ⟨host, hhost, h⟩ := Option.bind_eq_some_iff.1 h
  obtain ⟨⟨port, rest⟩, hport, h⟩ := Option.bind_eq_some_iff.1 h
  obtain ⟨rfl, -⟩ := Prod.mk.inj (Option.some.inj h)
  have hcs : hostText ≠ [] := by simpa using hne
  obtain ⟨htext, hne'⟩ := parseHost_hostText hhost hcs
  exact ⟨hu, hp, htext, fun he => absurd he hne', parsePort_port hport, fun _ => hne'⟩

/-- Every authority the reader gives is canonical. -/
theorem parseAuthority_canonical {scheme : String} {auth head : List Char} {a : Authority}
    (h : parseAuthority scheme auth = some (a, head)) : a.Canonical scheme := by
  unfold parseAuthority at h
  simp only [bind, Option.bind] at h
  cases hL : lastIndexOf '@' auth with
  | none =>
    simp only [hL] at h
    generalize splitHostPort false auth = HP at h
    obtain ⟨hostText, portText⟩ := HP
    dsimp only at h
    split at h
    · cases h
    rename_i hbad
    split at h
    · -- no host: no credentials and no port
      rename_i hempty
      simp only [hempty, Bool.true_and, Bool.or_eq_true, Option.isSome_none, Bool.false_eq_true,
        or_false, not_or] at hbad
      obtain ⟨hns, hport⟩ := hbad
      have hpt : portText = none := by simpa using hport
      subst hpt
      simp only [Option.getD_none, parsePort_nil] at h
      obtain ⟨rfl, -⟩ := Prod.mk.inj (Option.some.inj h)
      exact ⟨by simp, by simp, .inl (by simp), fun _ => ⟨rfl, rfl, rfl⟩, by simp,
        fun hs => absurd hs hns⟩
    · exact canonical_of_host (by simp) (by simp) ‹_› h
  | some i =>
    simp only [hL] at h
    generalize splitHostPort false _ = HP at h
    obtain ⟨hostText, portText⟩ := HP
    dsimp only at h
    split at h
    · cases h
    rename_i hbad
    split at h
    · -- credentials need a host
      rename_i hempty
      simp [hempty] at hbad
    · exact canonical_of_host (encodeAll_userinfo _) (encodeAll_userinfo _) ‹_› h


/-! ## Schemes -/

/-- A character of a scheme after its first letter. -/
def schemeChar (c : Char) : Bool :=
  (c.isAlphanum && c.toNat < 128) || c == '+' || c == '-' || c == '.'

/-- The text of a scheme: an ASCII letter, then characters of schemes, all lowercase. -/
def SchemeText (s : String) : Prop :=
  ∃ c cs, s.toList = c :: cs ∧ c.isAlpha = true ∧ c.toNat < 128 ∧ (∀ x ∈ cs, schemeChar x = true) ∧
    asciiLower s = s

theorem toNat_lt_of_schemeChar {c : Char} (h : schemeChar c = true) : c.toNat < 128 := by
  simp only [schemeChar, Bool.or_eq_true, Bool.and_eq_true, decide_eq_true_eq, beq_iff_eq] at h
  rcases h with ((⟨-, h⟩ | rfl) | rfl) | rfl
  · exact h
  all_goals decide

/-- The scheme read from a text is lowercase scheme text. -/
theorem readScheme_schemeText {cs rest : List Char} {scheme : String}
    (h : readScheme cs = some (scheme, rest)) : SchemeText scheme := by
  unfold readScheme at h
  split at h
  · rename_i c cs'
    split at h
    · cases h
    rename_i hc
    simp only [Bool.not_eq_true', Bool.and_eq_false_iff, Bool.not_eq_false, not_or,
      Bool.not_eq_false] at hc
    have hca : c.isAlpha = true ∧ c.toNat < 128 := by simpa using hc
    dsimp only at h
    split at h
    · obtain ⟨rfl, -⟩ := Prod.mk.inj (Option.some.inj h)
      show SchemeText (asciiLower (String.ofList (List.takeWhile schemeChar (c :: cs'))))
      have hhead : schemeChar c = true := by
        simp [schemeChar, Char.isAlphanum, hca.1, hca.2]
      have htake : (c :: cs').takeWhile schemeChar = c :: cs'.takeWhile schemeChar := by
        simp [hhead]
      have hascii : ∀ x ∈ cs'.takeWhile schemeChar, x.toNat < 128 ∧ schemeChar x = true :=
        fun x hx => ⟨toNat_lt_of_schemeChar (List.mem_takeWhile_imp hx), List.mem_takeWhile_imp hx⟩
      have hlower : ∀ k < 128, (schemeChar (Char.ofNat k) = true →
          schemeChar (lowerChar (Char.ofNat k)) = true ∧
            lowerChar (lowerChar (Char.ofNat k)) = lowerChar (Char.ofNat k)) ∧
          ((Char.ofNat k).isAlpha = true → (lowerChar (Char.ofNat k)).isAlpha = true ∧
            (lowerChar (Char.ofNat k)).toNat < 128) := by
        decide
      have hlowc : (lowerChar c).isAlpha = true ∧ (lowerChar c).toNat < 128 :=
        ascii_forall (P := fun x => x.isAlpha = true →
          (lowerChar x).isAlpha = true ∧ (lowerChar x).toNat < 128)
          (fun k hk => (hlower k hk).2) hca.2 hca.1
      have hlows : ∀ y, y.toNat < 128 → schemeChar y = true →
          schemeChar (lowerChar y) = true ∧ lowerChar (lowerChar y) = lowerChar y :=
        fun y hy => ascii_forall (P := fun x => schemeChar x = true →
          schemeChar (lowerChar x) = true ∧ lowerChar (lowerChar x) = lowerChar x)
          (fun k hk => (hlower k hk).1) hy
      refine ⟨lowerChar c, (cs'.takeWhile schemeChar).map lowerChar, ?_, hlowc.1, hlowc.2, ?_, ?_⟩
      · rw [asciiLower_toList, String.toList_ofList]
        exact congrArg (List.map lowerChar) htake
      · intro x hx
        obtain ⟨y, hy, rfl⟩ := List.mem_map.1 hx
        exact (hlows y (hascii y hy).1 (hascii y hy).2).1
      · rw [← String.toList_inj, asciiLower_toList, asciiLower_toList, String.toList_ofList,
          List.map_map]
        apply List.map_congr_left
        intro y hy
        have hy' : y.toNat < 128 ∧ schemeChar y = true := by
          rw [htake] at hy
          rcases List.mem_cons.1 hy with rfl | hy
          · exact ⟨hca.2, hhead⟩
          · exact hascii y hy
        exact (hlows y hy'.1 hy'.2).2
    · cases h
  · cases h


/-! ## Canonical URLs -/

/-- A path of one piece: no control, no `?` and no `#`, and no slash first. -/
def WholeText (s : String) : Prop :=
  (∀ c ∈ s.toList, inC0Set c = false ∧ c ≠ '?' ∧ c ≠ '#') ∧ s.toList.head? ≠ some '/'

/-- A URL as the reader gives it: every part in the form the writer writes. -/
structure Canonical (u : Url) : Prop where
  scheme : SchemeText u.scheme
  username : ∀ c ∈ u.username.toList, inUserinfoSet c = false
  password : ∀ c ∈ u.password.toList, inUserinfoSet c = false
  host : ∀ h, u.host = some h → HostText h.toList
  emptyHost : u.host = some "" → u.username = "" ∧ u.password = "" ∧ u.port = none
  port : ∀ p, u.port = some p → p ≤ 65535 ∧ defaultPort u.scheme ≠ some p
  segments : ∀ ss, u.path = .segments ss → ∀ s ∈ ss, goodSegment (isSpecial u.scheme) s = true
  whole : ∀ s, u.path = .whole s → u.host = none ∧ isSpecial u.scheme = false ∧ WholeText s
  special : isSpecial u.scheme = true → ∃ h, u.host = some h ∧ (u.scheme ≠ "file" → h ≠ "")
  file : u.scheme = "file" → u.username = "" ∧ u.password = "" ∧ u.port = none ∧
    u.host ≠ some "localhost" ∧ ∀ ss, u.path = .segments ss → ∀ rest, ss = "" :: rest → rest = []

theorem schemeText_file : SchemeText "file" :=
  ⟨'f', ['i', 'l', 'e'], rfl, rfl, by decide,
    List.all_eq_true.1 (by decide : ['i', 'l', 'e'].all schemeChar = true), by decide⟩

theorem fileHostAndPath_host {cs pt : List Char} {host : String}
    (h : fileHostAndPath cs = some (host, pt)) :
    host = "" ∨ (HostText host.toList ∧ host ≠ "" ∧ host ≠ "localhost") := by
  unfold fileHostAndPath at h
  split at h
  · dsimp only at h
    split at h
    · split at h
      · exact .inl (Prod.mk.inj (Option.some.inj h)).1.symm
      · split at h
        · cases h
        · rename_i hv hhost
          split at h
          · exact .inl (Prod.mk.inj (Option.some.inj h)).1.symm
          · rename_i hlocal
            obtain ⟨rfl, -⟩ := Prod.mk.inj (Option.some.inj h)
            split at hhost
            · obtain rfl := Option.some.inj hhost
              simp at hlocal
            · rename_i hbuf
              obtain ⟨htext, hne⟩ := parseHost_hostText hhost (by simpa using hbuf)
              simp only [Bool.or_eq_true, String.isEmpty_iff, beq_iff_eq, not_or] at hlocal
              exact .inr ⟨htext, hne, hlocal.2⟩
    · split at h <;> exact .inl (Prod.mk.inj (Option.some.inj h)).1.symm
  · dsimp only at h
    split at h <;> exact .inl (Prod.mk.inj (Option.some.inj h)).1.symm
  · exact .inl (Prod.mk.inj (Option.some.inj h)).1.symm


theorem parseFile_canonical {cs : List Char} {u : Url} (h : parseFile cs = some u) :
    u.Canonical := by
  unfold parseFile at h
  simp only [Option.bind_eq_bind] at h
  obtain ⟨⟨host, pt⟩, hfh, h⟩ := Option.bind_eq_some_iff.1 h
  obtain rfl := Option.some.inj h
  -- the host read, or none when a drive letter starts the path
  have hhost : ∀ drive : Bool, HostText (if drive = true then "" else host).toList ∧
      (if drive = true then "" else host) ≠ "localhost" := by
    intro drive
    cases drive
    · rcases fileHostAndPath_host hfh with rfl | ⟨htext, -, hlocal⟩
      · exact ⟨.inl (by simp), by decide⟩
      · exact ⟨by simpa using htext, by simpa using hlocal⟩
    · exact ⟨.inl (by simp), by simp⟩
  refine ⟨schemeText_file, by simp, by simp, ?_, fun _ => ⟨rfl, rfl, rfl⟩, by simp, ?_, ?_,
    fun _ => ⟨_, rfl, fun hne => absurd rfl hne⟩, fun _ => ⟨rfl, rfl, rfl, ?_, ?_⟩⟩
  · intro h hh
    obtain rfl := Option.some.inj hh
    exact (hhost _).1
  · intro ss hss s hs
    obtain rfl := UrlPath.segments.inj hss
    exact addSegments_good (by simp : ∀ s ∈ ([] : List String), goodSegment true s = true) s
      (mem_dropLeadingEmpty hs)
  · intro s hs
    cases hs
  · intro hh
    exact (hhost _).2 (Option.some.inj hh)
  · intro ss hss rest hrest
    obtain rfl := UrlPath.segments.inj hss
    exact dropLeadingEmpty_eq_cons_empty hrest


theorem parseSpecial_canonical {scheme : String} {cs : List Char} {u : Url}
    (hscheme : SchemeText scheme) (hsp : isSpecial scheme = true) (hfile : scheme ≠ "file")
    (h : parseSpecial scheme cs = some u) : u.Canonical := by
  unfold parseSpecial at h
  simp only [Option.bind_eq_bind] at h
  obtain ⟨⟨a, head⟩, hauth, h⟩ := Option.bind_eq_some_iff.1 h
  obtain rfl := Option.some.inj h
  have ha := parseAuthority_canonical hauth
  refine ⟨hscheme, ha.username, ha.password, ?_, fun hh => ha.emptyHost (Option.some.inj hh),
    ha.port, ?_, ?_, fun _ => ⟨_, rfl, fun _ => ha.special hsp⟩, fun hf => absurd hf hfile⟩
  · intro h hh
    obtain rfl := Option.some.inj hh
    exact ha.host
  · intro ss hss s hs
    obtain rfl := UrlPath.segments.inj hss
    rw [hsp]
    exact addSegments_good (by simp) s hs
  · intro s hs
    cases hs

theorem parseOther_canonical {scheme : String} {cs : List Char} {u : Url}
    (hscheme : SchemeText scheme) (hsp : isSpecial scheme = false)
    (h : parseOther scheme cs = some u) : u.Canonical := by
  have hfile : scheme ≠ "file" := by
    rintro rfl
    cases hsp
  have hgood : ∀ cs, ∀ s ∈ (addSegments false false [] cs).1, goodSegment (isSpecial scheme) s = true :=
    fun cs => hsp ▸ addSegments_good (by simp)
  unfold parseOther at h
  split at h
  · -- an authority, then a path of segments
    simp only [Option.bind_eq_bind] at h
    obtain ⟨⟨a, head⟩, hauth, h⟩ := Option.bind_eq_some_iff.1 h
    obtain rfl := Option.some.inj h
    have ha := parseAuthority_canonical hauth
    refine ⟨hscheme, ha.username, ha.password, ?_, fun hh => ha.emptyHost (Option.some.inj hh),
      ha.port, ?_, ?_, fun hs => absurd hs (by simp [hsp]), fun hf => absurd hf hfile⟩
    · intro h hh
      obtain rfl := Option.some.inj hh
      exact ha.host
    · intro ss hss s hs
      obtain rfl := UrlPath.segments.inj hss
      split at hs
      · exact hgood _ s hs
      · cases hs
      · exact hgood _ s hs
    · intro s hs
      cases hs
  · -- a path of segments without an authority
    obtain rfl := Option.some.inj h
    refine ⟨hscheme, by simp, by simp, (fun _ hh => by cases hh), (fun hh => by cases hh),
      (fun _ hp => by cases hp), ?_, ?_, fun hs => absurd hs (by simp [hsp]),
      fun hf => absurd hf hfile⟩
    · intro ss hss s hs
      obtain rfl := UrlPath.segments.inj hss
      exact hgood _ s hs
    · intro s hs
      cases hs
  · -- a path that is one piece
    rename_i hno hno'
    obtain rfl := Option.some.inj h
    refine ⟨hscheme, by simp, by simp, (fun _ hh => by cases hh), (fun hh => by cases hh),
      (fun _ hp => by cases hp), (fun _ hss => by cases hss), ?_, fun hs => absurd hs (by simp [hsp]),
      fun hf => absurd hf hfile⟩
    intro s hs
    obtain rfl := UrlPath.whole.inj hs
    refine ⟨rfl, hsp, ?_, ?_⟩
    · rw [String.toList_ofList]
      refine encodeAll_forall (fun c hc hS => ⟨hS, ?_⟩) (by decide) (by decide)
      simpa using List.mem_takeWhile_imp hc
    · -- the first character is no slash, and stays one when encoded
      rw [String.toList_ofList]
      cases cs with
      | nil => simp [encodeAll]
      | cons c cs =>
        have hc : c ≠ '/' := fun h => hno' cs (h ▸ rfl)
        by_cases hin : (c != '?' && c != '#') = true
        · have ht : (c :: cs).takeWhile (fun c => c != '?' && c != '#') =
              c :: cs.takeWhile (fun c => c != '?' && c != '#') := List.takeWhile_cons_of_pos hin
          rw [ht]
          simp only [encodeAll, List.flatMap_cons, percentEncode]
          split
          · obtain ⟨b, bs, hb⟩ := List.exists_cons_of_ne_nil (String.utf8EncodeChar_ne_nil (c := c))
            simp [hb]
          · simp [hc]
        · have ht : (c :: cs).takeWhile (fun c => c != '?' && c != '#') = [] :=
            List.takeWhile_cons_of_neg hin
          rw [ht]
          simp [encodeAll]


/-- Every URL the reader gives is canonical. -/
theorem parse_canonical {s : String} {u : Url} (h : parse s = some u) : u.Canonical := by
  unfold parse at h
  simp only [Option.bind_eq_bind] at h
  obtain ⟨⟨scheme, rest⟩, hread, h⟩ := Option.bind_eq_some_iff.1 h
  have hscheme := readScheme_schemeText hread
  dsimp only at h
  split at h
  · exact parseFile_canonical h
  · rename_i hfile
    split at h
    · exact parseSpecial_canonical hscheme ‹_› (by simpa using hfile) h
    · rename_i hsp
      exact parseOther_canonical hscheme (Bool.eq_false_iff.2 hsp) h

end TableState.Url
