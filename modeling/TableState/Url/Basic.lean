import TableState.Url.Host

/-!
# URLs

Absolute URLs as the WHATWG URL standard reads and writes them, without a base URL.

Leading and trailing controls and spaces are dropped and tabs and line breaks removed. A scheme
(a letter, then letters, digits, `+`, `-` or `.`, lowercased) ends at the first colon. The
special schemes `ftp`, `file`, `http`, `https`, `ws` and `wss` always have a host and a path of
segments, and read a backslash as a slash. Another scheme has an authority only after `//`, a
path of segments only after `/`, and otherwise a path that is one piece of text.

An authority is the text up to the next slash, `?` or `#`: credentials before its last `@`, then
a host, then an optional port (digits, below 65536, dropped when it is the scheme's default).
In a scheme that is not special a backslash may end the port's digits; it and the rest of the
authority start the path, as ordinary characters.
A path of segments drops `.` segments and goes up one segment at `..`, except that a last
segment that starts with a drive letter (an ASCII letter and `:` or `|`, alone or before a
backslash) stays; its characters are percent-encoded with the path set. In a `file` URL a drive
letter that becomes the first segment is written with a colon and drops the host. A query
follows `?` and a fragment follows `#`.

Main definitions:

* `UrlPath`, `Url`, `isSpecial`, `defaultPort`.
* `Url.parse`: the URL of a text, or `none`.
* `Url.toText`, `Url.pathText`, `Url.hostName?`.
-/

set_option autoImplicit false

namespace TableState

/-- The path of a URL: a list of segments, or one piece of text for URLs whose path does not
start with a slash. -/
inductive UrlPath where
  | segments (ss : List String)
  | whole (s : String)
  deriving DecidableEq, Repr, Inhabited

/-- An absolute URL, every part in its serialised form. -/
structure Url where
  scheme : String
  username : String
  password : String
  host : Option String
  port : Option Nat
  path : UrlPath
  query : Option String
  fragment : Option String
  deriving DecidableEq, Repr, Inhabited

namespace Url

/-- The special schemes. -/
def isSpecial (scheme : String) : Bool :=
  ["ftp", "file", "http", "https", "ws", "wss"].contains scheme

/-- The default port of a scheme. -/
def defaultPort : String → Option Nat
  | "ftp" => some 21
  | "http" => some 80
  | "https" => some 443
  | "ws" => some 80
  | "wss" => some 443
  | _ => none

/-! ## Serialisation -/

/-- The path as text: the segments each after a slash, or the single piece. -/
def pathText (u : Url) : String :=
  match u.path with
  | .segments ss => String.join (ss.map ("/" ++ ·))
  | .whole s => s

/-- The host, if the URL has a non-empty one. -/
def hostName? (u : Url) : Option String :=
  u.host.bind fun h => if h.isEmpty then none else some h

/-- The text of a URL. -/
def toText (u : Url) : String :=
  let authority := match u.host with
    | some h =>
      let creds := if u.username.isEmpty && u.password.isEmpty then ""
        else u.username ++ (if u.password.isEmpty then "" else ":" ++ u.password) ++ "@"
      let port := match u.port with
        | some p => ":" ++ toString p
        | none => ""
      "//" ++ creds ++ h ++ port
    | none =>
      match u.path with
      | .segments ("" :: _ :: _) => "/."
      | _ => ""
  let query := match u.query with
    | some q => "?" ++ q
    | none => ""
  let fragment := match u.fragment with
    | some f => "#" ++ f
    | none => ""
  u.scheme ++ ":" ++ authority ++ u.pathText ++ query ++ fragment

/-! ## Paths -/

/-- ASCII letters lowercased. -/
def asciiLower (s : String) : String :=
  String.ofList (s.toList.map fun c => if 'A' ≤ c ∧ c ≤ 'Z' then Char.ofNat (c.toNat + 32) else c)

/-- A `..` segment, also with its dots percent-encoded. -/
def isDoubleDot (seg : String) : Bool :=
  ["..", ".%2e", "%2e.", "%2e%2e"].contains (asciiLower seg)

/-- A `.` segment, also with its dot percent-encoded. -/
def isSingleDot (seg : String) : Bool :=
  [".", "%2e"].contains (asciiLower seg)

/-- A drive letter: an ASCII letter and a colon or a bar. -/
def isDriveLetter (seg : List Char) : Bool :=
  match seg with
  | [a, b] => a.isAlpha && (b == ':' || b == '|')
  | _ => false

/-- Whether a segment starts with a drive letter: an ASCII letter and a colon or a bar, alone or
followed by a backslash. -/
def startsWithDriveLetter (seg : List Char) : Bool :=
  match seg with
  | a :: b :: rest => a.isAlpha && (b == ':' || b == '|') && (rest.isEmpty || rest.head? == some '\\')
  | _ => false

/-- The path without its last segment. A last segment that starts with a drive letter stays, in
every scheme: going up never leaves a drive. -/
def shorten (path : List String) : List String :=
  match path.getLast? with
  | some d => if startsWithDriveLetter d.toList then path else path.dropLast
  | none => []

/-- Adds one raw segment to a path; `slashAfter` tells whether a slash ended the segment. In a
`file` URL a drive letter that becomes the first segment is written with a colon; the flag
returned tells whether that happened. -/
def addSegment (file slashAfter : Bool) (path : List String) (raw : List Char) :
    List String × Bool :=
  let seg := String.ofList (Url.encodeAll Url.inPathSet raw)
  if isDoubleDot seg then
    let p := shorten path
    (if slashAfter then p else p ++ [""], false)
  else if isSingleDot seg then
    (if slashAfter then path else path ++ [""], false)
  else if file && path.isEmpty && isDriveLetter raw then
    (path ++ [String.ofList (raw.take 1 ++ [':'])], true)
  else (path ++ [seg], false)

/-- Adds the segments of path text, split at slashes (and backslashes for special schemes); also
tells whether a drive letter became the first segment of a `file` path. -/
def addSegments (special file : Bool) (path : List String) (cs : List Char) :
    List String × Bool :=
  let raws := Url.splitWhen (fun c => c == '/' || (special && c == '\\')) cs
  let n := raws.length
  raws.zipIdx.foldl (fun acc r =>
    let (p, drive) := addSegment file (r.2 + 1 < n) acc.1 r.1
    (p, acc.2 || drive)) (path, false)

/-- Splits the text after a path into the query and the fragment, percent-encoded. -/
def queryAndFragment (special : Bool) (cs : List Char) : Option String × Option String :=
  let encodeQuery := Url.encodeAll (if special then Url.inSpecialQuerySet else Url.inQuerySet)
  match cs with
  | '?' :: rest =>
    let q := rest.takeWhile (· != '#')
    let f := match rest.dropWhile (· != '#') with
      | '#' :: fr => some (String.ofList (Url.encodeAll Url.inFragmentSet fr))
      | _ => none
    (some (String.ofList (encodeQuery q)), f)
  | '#' :: fr => (none, some (String.ofList (Url.encodeAll Url.inFragmentSet fr)))
  | _ => (none, none)

/-- The path text up to a query or fragment, and what follows. -/
def splitPath (cs : List Char) : List Char × List Char :=
  (cs.takeWhile fun c => c != '?' && c != '#', cs.dropWhile fun c => c != '?' && c != '#')

/-! ## Authorities -/

/-- Credentials, host and port read from an authority. -/
structure Authority where
  username : String
  password : String
  host : String
  port : Option Nat

/-- The position of the last occurrence of `c`. -/
def lastIndexOf (c : Char) (cs : List Char) : Option Nat :=
  (cs.zipIdx.filter (·.1 == c)).getLast?.map (·.2)

/-- Splits host and port at the first colon outside brackets. -/
def splitHostPort (inside : Bool) : List Char → List Char × Option (List Char)
  | [] => ([], none)
  | c :: rest =>
    if c == ':' && !inside then ([], some rest)
    else
      let inside := if c == '[' then true else if c == ']' then false else inside
      let r := splitHostPort inside rest
      (c :: r.1, r.2)

/-- The port of an authority: digits below 65536, none when empty or the scheme's default. The
digits may be followed by a backslash, which starts the path; that text is returned with it. -/
def parsePort (scheme : String) (cs : List Char) : Option (Option Nat × List Char) :=
  let ds := cs.takeWhile fun c => '0' ≤ c ∧ c ≤ '9'
  let rest := cs.dropWhile fun c => '0' ≤ c ∧ c ≤ '9'
  if !(rest.isEmpty || rest.head? == some '\\') then none
  else if ds.isEmpty then some (none, rest)
  else
    match Url.radixValue 10 ds with
    | some p =>
      if p > 65535 then none
      else if defaultPort scheme == some p then some (none, rest)
      else some (some p, rest)
    | none => none

/-- Reads an authority of a URL of the given scheme; also returns the text after its port that
starts the path (a backslash and what follows, only in schemes that are not special). -/
def parseAuthority (scheme : String) (auth : List Char) : Option (Authority × List Char) := do
  let special := isSpecial scheme
  let (userinfo, hostPort) := match lastIndexOf '@' auth with
    | some i => (some (auth.take i), auth.drop (i + 1))
    | none => (none, auth)
  let (username, password) := match userinfo with
    | some u =>
      let name := u.takeWhile (· != ':')
      let pass := (u.dropWhile (· != ':')).drop 1
      (String.ofList (Url.encodeAll Url.inUserinfoSet name),
        String.ofList (Url.encodeAll Url.inUserinfoSet pass))
    | none => ("", "")
  let (hostText, portText) := splitHostPort false hostPort
  if hostText.isEmpty && (special || userinfo.isSome || portText.isSome) then none
  let host ← if hostText.isEmpty then some "" else Url.parseHost special hostText
  let (port, pathHead) ← parsePort scheme (portText.getD [])
  pure (⟨username, password, host, port⟩, pathHead)

/-! ## Whole URLs -/

/-- Reads the scheme at the front of a text, up to its colon. -/
def readScheme (cs : List Char) : Option (String × List Char) :=
  match cs with
  | c :: _ =>
    if !(c.isAlpha && c.toNat < 128) then none else
    let isSchemeChar := fun (c : Char) => (c.isAlphanum && c.toNat < 128) || c == '+' || c == '-' || c == '.'
    match cs.dropWhile isSchemeChar with
    | ':' :: rest => some (asciiLower (String.ofList (cs.takeWhile isSchemeChar)), rest)
    | _ => none
  | [] => none

/-- The URL of a special scheme other than `file`, after its colon. -/
def parseSpecial (scheme : String) (cs : List Char) : Option Url := do
  let cs := cs.dropWhile fun c => c == '/' || c == '\\'
  let isEnd := fun (c : Char) => c == '/' || c == '\\' || c == '?' || c == '#'
  let (a, _) ← parseAuthority scheme (cs.takeWhile (!isEnd ·))
  let rest := cs.dropWhile (!isEnd ·)
  let rest := match rest with
    | c :: r => if c == '/' || c == '\\' then r else rest
    | [] => []
  let (p, after) := splitPath rest
  let (q, f) := queryAndFragment true after
  pure ⟨scheme, a.username, a.password, some a.host, a.port, .segments (addSegments true false [] p).1, q, f⟩

/-- Drops the empty segments at the front of a path while more than one segment remains. -/
def dropLeadingEmpty : List String → List String
  | "" :: rest@(_ :: _) => dropLeadingEmpty rest
  | path => path

/-- The host and the path text of a `file` URL, after its colon. A host is read after two slashes
unless it is a drive letter. After an empty host the slash that ends it stays in the path text, so
the path then starts with an empty segment. -/
def fileHostAndPath (cs : List Char) : Option (String × List Char) :=
  let isSlash := fun (c : Char) => c == '/' || c == '\\'
  match cs with
  | a :: b :: rest =>
    if isSlash a && isSlash b then
      let isEnd := fun (c : Char) => isSlash c || c == '?' || c == '#'
      let buffer := rest.takeWhile (!isEnd ·)
      let after := rest.dropWhile (!isEnd ·)
      if isDriveLetter buffer then some ("", buffer ++ after)
      else
        let host := if buffer.isEmpty then some "" else Url.parseHost true buffer
        match host with
        | none => none
        | some h =>
          if h.isEmpty || h == "localhost" then some ("", after)
          else some (h, match after with
            | c :: r => if isSlash c then r else after
            | [] => [])
    else if isSlash a then some ("", b :: rest)
    else some ("", cs)
  | [a] => if isSlash a then some ("", []) else some ("", cs)
  | [] => some ("", [])

/-- The URL of the `file` scheme, after its colon. A drive letter counts as one only when it
becomes the first segment of the path, and then the host is dropped; the leading empty segments
of the path are dropped while more than one segment remains. -/
def parseFile (cs : List Char) : Option Url := do
  let (host, pathText) ← fileHostAndPath cs
  let (p, after) := splitPath pathText
  let (q, f) := queryAndFragment true after
  let (segments, drive) := addSegments true true [] p
  let host := if drive then "" else host
  pure ⟨"file", "", "", some host, none, .segments (dropLeadingEmpty segments), q, f⟩

/-- The URL of a scheme that is not special, after its colon. -/
def parseOther (scheme : String) (cs : List Char) : Option Url := do
  match cs with
  | '/' :: '/' :: rest =>
    let isEnd := fun (c : Char) => c == '/' || c == '?' || c == '#'
    let (a, pathHead) ← parseAuthority scheme (rest.takeWhile (!isEnd ·))
    let after := rest.dropWhile (!isEnd ·)
    let (path, after) := match pathHead, after with
      | [], '/' :: r =>
        let (p, a) := splitPath r
        ((addSegments false false [] p).1, a)
      | [], _ => ([], after)
      | _, _ =>
        let (p, a) := splitPath (pathHead ++ after)
        ((addSegments false false [] p).1, a)
    let (q, f) := queryAndFragment false after
    pure ⟨scheme, a.username, a.password, some a.host, a.port, .segments path, q, f⟩
  | '/' :: rest =>
    let (p, after) := splitPath rest
    let (q, f) := queryAndFragment false after
    pure ⟨scheme, "", "", none, none, .segments (addSegments false false [] p).1, q, f⟩
  | _ =>
    let (p, after) := splitPath cs
    let (q, f) := queryAndFragment false after
    pure ⟨scheme, "", "", none, none, .whole (String.ofList (Url.encodeAll Url.inC0Set p)), q, f⟩

/-- Drops leading and trailing controls and spaces, and removes tabs and line breaks. -/
def clean (s : String) : List Char :=
  let trim := fun (cs : List Char) => cs.dropWhile (·.toNat ≤ 0x20)
  (trim (trim s.toList).reverse).reverse.filter fun c => c != '\t' && c != '\n' && c != '\r'

/-- The URL of a text, or `none` when the text is not an absolute URL. -/
def parse (s : String) : Option Url := do
  let (scheme, rest) ← readScheme (clean s)
  if scheme == "file" then parseFile rest
  else if isSpecial scheme then parseSpecial scheme rest
  else parseOther scheme rest

end Url

end TableState
