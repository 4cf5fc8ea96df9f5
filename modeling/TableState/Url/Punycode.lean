/-!
# Punycode

The Punycode encoding of domain labels (RFC 3492) with the parameters of internationalized
domain names: base 36, thresholds 1 and 26, skew 38, damping 700, initial bias 72 and initial
code point 128.

Encoding writes the basic (ASCII) characters, a dash if there are any, and then for each other
code point in increasing order the distances the decoder has to move, as variable-length
numbers. Decoding reverses it. Every intermediate number must stay below 2^32 and every decoded
code point must be a Unicode scalar value; otherwise decoding fails.

Main definitions:

* `punycode`: the encoding of a label.
* `punycodeDecode`: the code points of an encoded label, or `none`.
-/

set_option autoImplicit false

namespace TableState.Url

/-- The bias after a number `delta`, when the output holds `numPoints` code points; the first
number is damped more. -/
def punyAdapt (delta numPoints : Nat) (first : Bool) : Nat :=
  let delta := if first then delta / 700 else delta / 2
  let delta := delta + delta / numPoints
  go delta 0 delta
where
  /-- Divides `delta` down below the threshold, counting the rounds in `k`; at most `fuel`
  rounds. -/
  go (delta k : Nat) : Nat → Nat
    | 0 => k + (36 * delta) / (delta + 38)
    | fuel + 1 =>
      if delta > ((36 - 1) * 26) / 2 then go (delta / 35) (k + 36) fuel
      else k + (36 * delta) / (delta + 38)

/-- A Punycode digit. -/
def punyDigit (d : Nat) : Char :=
  if d < 26 then Char.ofNat (97 + d) else Char.ofNat (22 + d)

/-- The Punycode digits of `q` with bias `bias`, at most `fuel` digits. -/
def punyNumber (bias : Nat) : Nat → Nat → Nat → List Char
  | 0, _, _ => []
  | fuel + 1, q, k =>
    let t := if k ≤ bias then 1 else if k ≥ bias + 26 then 26 else k - bias
    if q < t then [punyDigit q]
    else punyDigit (t + (q - t) % (36 - t)) :: punyNumber bias fuel ((q - t) / (36 - t)) (k + 36)

/-- The Punycode encoding of a label (RFC 3492): the basic characters, a dash if there are any,
then the deltas of the other code points in increasing order. -/
def punycode (label : List Char) : List Char :=
  let codes := label.map Char.toNat
  let basic := label.filter (·.toNat < 128)
  let b := basic.length
  let out := if b > 0 then basic ++ ['-'] else []
  let targets := ((codes.filter (· ≥ 128)).mergeSort (· ≤ ·)).eraseDups
  let step := fun (acc : List Char × Nat × Nat × Nat × Nat) (m : Nat) =>
    let (out, n, delta, bias, h) := acc
    let delta := delta + (m - n) * (h + 1)
    let (out, delta, bias, h) := codes.foldl (fun (a : List Char × Nat × Nat × Nat) c =>
      let (out, delta, bias, h) := a
      if c < m then (out, delta + 1, bias, h)
      else if c == m then
        let digits := punyNumber bias (delta + 64) delta 36
        (out ++ digits, 0, punyAdapt delta (h + 1) (h == b), h + 1)
      else (out, delta, bias, h)) (out, delta, bias, h)
    (out, m + 1, delta + 1, bias, h)
  (targets.foldl step (out, 128, 0, 72, b)).1

/-- The value of a Punycode digit, letters in either case; `none` for other characters. -/
def punyDigitValue? (c : Char) : Option Nat :=
  if 'a' ≤ c ∧ c ≤ 'z' then some (c.toNat - 97)
  else if 'A' ≤ c ∧ c ≤ 'Z' then some (c.toNat - 65)
  else if '0' ≤ c ∧ c ≤ '9' then some (c.toNat - 22)
  else none

/-- The largest number the decoder's arithmetic holds. -/
def punyLimit : Nat := Nat.pow 2 32 - 1

/-- Reads one variable-length number from the front of `digits`, adding it to `i`: `w` is the
weight of the next digit and `k` its position times 36. Returns the new `i` and the digits
after the number, or `none` when the digits end early, a character is not a digit, or a number
passes `punyLimit`. -/
def punyReadNumber (bias : Nat) : List Char → Nat → Nat → Nat → Option (Nat × List Char)
  | [], _, _, _ => none
  | c :: rest, i, w, k =>
    match punyDigitValue? c with
    | none => none
    | some d =>
      let i := i + d * w
      let t := if k ≤ bias then 1 else if k ≥ bias + 26 then 26 else k - bias
      if i > punyLimit then none
      else if d < t then some (i, rest)
      else if w * (36 - t) > punyLimit then none
      else punyReadNumber bias rest i (w * (36 - t)) (k + 36)

/-- Inserts the code points the remaining digits describe into `out`: `n` is the current code
point, `i` the insertion state and `bias` the current bias. Each insertion reads at least one
digit, so `fuel` equal to the number of digits is enough. -/
def punyInsertAll : Nat → List Char → List Nat → Nat → Nat → Nat → Option (List Nat)
  | 0, _, out, _, _, _ => some out
  | fuel + 1, digits, out, n, i, bias =>
    if digits.isEmpty then some out
    else
      match punyReadNumber bias digits i 1 36 with
      | none => none
      | some (i', rest) =>
        let len := out.length + 1
        let n := n + i' / len
        if n > 0x10FFFF || (0xD800 ≤ n && n ≤ 0xDFFF) then none
        else
          let pos := i' % len
          punyInsertAll fuel rest (out.take pos ++ n :: out.drop pos) n (pos + 1)
            (punyAdapt (i' - i) len (i == 0))

/-- The code points of a Punycode-encoded label: the characters before the last dash are taken
as they are and must be ASCII, and the digits after it insert the others. A dash that starts the
text separates nothing, so it is read as a digit, which it is not. -/
def punycodeDecode (cs : List Char) : Option (List Nat) :=
  let dashes := (cs.zipIdx.filter (·.1 == '-')).map (·.2)
  let (basic, digits) := match dashes.getLast? with
    | some 0 => ([], cs)
    | some p => (cs.take p, cs.drop (p + 1))
    | none => ([], cs)
  if basic.any (·.toNat ≥ 128) then none
  else punyInsertAll digits.length digits (basic.map Char.toNat) 128 0 72

end TableState.Url
