import TableState.Url.Basic

/-!
# Object store locations

A snapshot table keeps its snapshots in an object store named by a URL. The URL's scheme picks
the store: `file` the local file system, `mem` memory, `s3` and `s3a` an S3 bucket named by the
host, and `https` an S3 bucket when the host has the form `s3.<bucket>.amazonaws.com` (path
style) or `<bucket>.s3.<region>.amazonaws.com` (virtual-hosted style).

Locations and object paths are read by libraries the store is given (`UrlLibrary`): a URL
parser, and an object path parser that reads the path of an object from a URL's path. The stores
are built with `Url.parse` and `ObjectPath.parse`. The latter takes the URL's path without its
leading slash and one trailing slash, split at slashes; an empty segment, a `.` or `..` segment, a
character outside ASCII, a control or one of the characters object stores reserve makes it
invalid. Joining a name to a location drops every trailing slash of the location's text, adds a
slash and the name, and reads the result again with the library's URL parser.

Main definitions:

* `UrlError`, `UrlError.message`.
* `StoreKey`, `Url.storeKey`.
* `ObjectPath`, `ObjectPath.parse`.
* `UrlLibrary`, with `UrlLibrary.ofText`, `UrlLibrary.objectPath`, `UrlLibrary.join`, and the
  libraries the stores are built with, `UrlLibrary.standard`.
-/

set_option autoImplicit false

namespace TableState

/-- The causes of failure of object store locations. -/
inductive UrlError where
  | invalidUrl (text : String)
  | missingHost (url : Url)
  | unsupportedScheme (url : Url)
  | unsupportedHost (url : Url)
  | invalidPath (url : Url)
  deriving DecidableEq, Repr

/-- The text that reports a location error; a URL is shown in its serialised form. -/
def UrlError.message : UrlError → String
  | .invalidUrl s => "invalid URL '" ++ s ++ "'"
  | .missingHost u => "missing host in URL '" ++ u.toText ++ "'"
  | .unsupportedScheme u => "unsupported scheme '" ++ u.scheme ++ "' in URL '" ++ u.toText ++ "'"
  | .unsupportedHost u => "unsupported host in URL '" ++ u.toText ++ "'"
  | .invalidPath u => "invalid path '" ++ u.pathText ++ "' in URL '" ++ u.toText ++ "'"

/-- The object store a location is in. -/
inductive StoreKey where
  | localFiles
  | memory
  | aws (bucket : String) (region : Option String) (virtualHosted : Bool)
  deriving DecidableEq, Repr

/-- The path of an object: non-empty segments. -/
structure ObjectPath where
  parts : List String
  deriving DecidableEq, Repr

namespace ObjectPath

/-- The text of an object path: its segments joined by slashes. -/
def toText (p : ObjectPath) : String :=
  "/".intercalate p.parts

/-- The characters an object name must not hold besides controls: the separator, and those
that object stores advise against. -/
def reservedChars : List Char :=
  ['/', '\\', '\x7b', '^', '\x7d', '\x60', ']', '\x22', '>', '[', '~', '<', '#', '|', '*', '?']

/-- Whether a segment may stand in an object path: not empty, not `.` or `..`, and only ASCII
characters that are neither controls nor reserved. -/
def validPart (s : String) : Bool :=
  !s.isEmpty && s != "." && s != ".." &&
    s.toList.all fun c => c.toNat ≥ 0x20 && c.toNat < 0x7F && !reservedChars.contains c

/-- Reads an object path from a URL path: one leading slash and then one trailing slash are
dropped, and the rest split at slashes must have valid segments only. -/
def parse (s : String) : Option ObjectPath :=
  let cs := match s.toList with
    | '/' :: rest => rest
    | cs => cs
  if cs.isEmpty then some ⟨[]⟩ else
  let cs := if cs.getLast? == some '/' then cs.dropLast else cs
  let parts := (Url.splitWhen (· == '/') cs).map String.ofList
  if parts.all validPart then some ⟨parts⟩ else none

end ObjectPath

namespace Url

/-- The object store of a location. -/
def storeKey (u : Url) : Except UrlError StoreKey :=
  match u.scheme with
  | "file" => .ok .localFiles
  | "mem" => .ok .memory
  | "s3" | "s3a" =>
    match u.hostName? with
    | some h => .ok (.aws h none false)
    | none => .error (.missingHost u)
  | "https" =>
    match u.hostName? with
    | none => .error (.missingHost u)
    | some h =>
      match splitFour h.toList with
      | some (a, b, c, d) =>
        if a == "s3" && c == "amazonaws" && d == "com" then .ok (.aws b none false)
        else if b == "s3" && d == "amazonaws.com" then .ok (.aws a (some c) true)
        else .error (.unsupportedHost u)
      | none => .error (.unsupportedHost u)
  | _ => .error (.unsupportedScheme u)
where
  /-- Splits a host at its first three dots into exactly four parts. -/
  splitFour (cs : List Char) : Option (String × String × String × String) :=
    let part := fun (cs : List Char) => (String.ofList (cs.takeWhile (· != '.')), (cs.dropWhile (· != '.')).drop 1)
    if (cs.filter (· == '.')).length < 3 then none else
    let (a, r) := part cs
    let (b, r) := part r
    let (c, r) := part r
    some (a, b, c, String.ofList r)

end Url

/-- What object store locations take from the libraries that read them: a URL parser, which reads
a location from text, and an object path parser, which reads the path of an object from the path
of a location. -/
structure UrlLibrary where
  parse : String → Option Url
  parsePath : String → Option ObjectPath

namespace UrlLibrary

variable (L : UrlLibrary)

/-- The location named by a text. -/
def ofText (s : String) : Except UrlError Url :=
  match L.parse s with
  | some u => .ok u
  | none => .error (.invalidUrl s)

/-- The object path of a location. -/
def objectPath (u : Url) : Except UrlError ObjectPath :=
  match L.parsePath u.pathText with
  | some p => .ok p
  | none => .error (.invalidPath u)

/-- The location of `name` under `u`: every trailing slash of `u`'s text dropped, then a slash
and the name. -/
def join (u : Url) (name : String) : Except UrlError Url :=
  L.ofText (String.ofList (u.toText.toList.reverse.dropWhile (· == '/')).reverse ++ "/" ++ name)

/-- The libraries the stores are built with: the URL parser `Url.parse` and the object path
parser `ObjectPath.parse`. -/
def standard : UrlLibrary :=
  ⟨Url.parse, ObjectPath.parse⟩

end UrlLibrary

end TableState
