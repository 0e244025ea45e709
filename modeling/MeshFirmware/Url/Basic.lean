import MeshFirmware.Text.Blank
import MeshFirmware.Url.Form
import MeshFirmware.Url.Host
import MeshFirmware.Url.Path

/-!
# URLs

A URL is read by the rules of the living standard, always without a base. Special schemes have an
authority, take backslashes for slashes and have a default port.
-/

namespace MeshFirmware

namespace Url

/-- The path of a URL: a text without structure, or segments. -/
inductive Path where
  | opaqueText (s : String)
  | segments (segs : List String)
  deriving DecidableEq, Repr

/-- The path as it stands in a URL. -/
def Path.text : Path → String
  | .opaqueText s => s
  | .segments segs => pathText segs

/-- The kinds of schemes. -/
inductive Kind where
  | special
  | file
  | other
  deriving DecidableEq, Repr

/-- The kind of a scheme. -/
def Kind.ofScheme (s : String) : Kind :=
  if s == "file" then .file
  else if ["http", "https", "ws", "wss", "ftp"].contains s then .special
  else .other

/-- Whether a backslash is a slash. -/
def Kind.isSpecial (k : Kind) : Bool := k != .other

/-- The port that a scheme uses unless a URL gives another one. -/
def defaultPort? (scheme : String) : Option Nat :=
  if scheme == "http" || scheme == "ws" then some 80
  else if scheme == "https" || scheme == "wss" then some 443
  else if scheme == "ftp" then some 21
  else none

end Url

/-- A URL. -/
structure Url where
  scheme : String
  /-- Whether there is an authority, which may have no host. -/
  hasAuthority : Bool
  username : String := ""
  password : Option String := none
  host : Option Url.Host := none
  port : Option Nat := none
  path : Url.Path
  query : Option String := none
  fragment : Option String := none
  deriving DecidableEq, Repr

namespace Url

/-! ## Text -/

/-- The user name and the password as they stand before the host. -/
def userText (u : Url) : String :=
  match u.password with
  | some p => u.username ++ ":" ++ p ++ "@"
  | none => if u.username.isEmpty then "" else u.username ++ "@"

/-- The authority with its slashes. A path without one that starts with an empty segment gets a dot in
front, so that it is not taken for an authority. -/
def authorityText (u : Url) : String :=
  if u.hasAuthority then
    "//" ++ u.userText ++ ((u.host.map Host.text).getD "")
      ++ ((u.port.map fun n => ":" ++ toString n).getD "")
  else match u.path with
    | .segments ("" :: _ :: _) => "/."
    | _ => ""

/-- The whole URL. -/
def text (u : Url) : String :=
  u.scheme ++ ":" ++ u.authorityText ++ u.path.text
    ++ ((u.query.map fun q => "?" ++ q).getD "") ++ ((u.fragment.map fun f => "#" ++ f).getD "")

/-- Host and path only, for messages: a query can hold what a user has typed. -/
def label (u : Url) : String :=
  ((u.host.map Host.text).getD "<no-host>") ++ (if u.path.text.isEmpty then "/" else u.path.text)

/-! ## Reading -/

/-- Whether the character is trimmed from the ends: a control character or a blank. -/
def isEdge (c : Char) : Bool := c.toNat ≤ 32

/-- The text without control characters and blanks at its ends. -/
def trimEdges (s : List Char) : List Char :=
  ((s.dropWhile isEdge).reverse.dropWhile isEdge).reverse

/-- A character of a scheme after the first one. -/
def isSchemeChar (c : Char) : Bool := c.isAlphanum || c == '+' || c == '-' || c == '.'

/-- The scheme in lower case, and what follows its colon. -/
def scheme? (s : List Char) : Option (String × List Char) :=
  match s with
  | c :: _ =>
    if c.isAlpha then
      match s.dropWhile isSchemeChar with
      | ':' :: rest => some (String.ofList ((s.takeWhile isSchemeChar).map Char.toLower), rest)
      | _ => none
    else none
  | [] => none

/-- Whether the character ends an authority. -/
def endsAuthority (k : Kind) (c : Char) : Bool :=
  c == '/' || c == '?' || c == '#' || (k.isSpecial && c == '\\')

/-- Whether the character is between segments. -/
def isSlash (k : Kind) (c : Char) : Bool := c == '/' || (k.isSpecial && c == '\\')

/-- The fragment. -/
def fragmentText (s : List Char) : String := String.ofList (escape inFragmentSet s)

/-- The query and the fragment after a path. -/
def tail (k : Kind) (s : List Char) : Option String × Option String :=
  match s with
  | '?' :: rest =>
    let q := rest.takeWhile (· != '#')
    let set := if k.isSpecial then inSpecialQuerySet else inQuerySet
    (some (String.ofList (escape set q)), match rest.drop q.length with
      | _ :: f => some (fragmentText f)
      | [] => none)
  | '#' :: f => (none, some (fragmentText f))
  | _ => (none, none)

/-- The part before a query or a fragment, and the rest. -/
def splitPath (s : List Char) : List Char × List Char :=
  let isEnd (c : Char) : Bool := c == '?' || c == '#'
  (s.takeWhile fun c => !isEnd c, s.dropWhile fun c => !isEnd c)

/-- The pieces of a path between its slashes. -/
def pieces (k : Kind) (s : List Char) : List (List Char) := Text.splitOn (isSlash k) s

/-- The text without one slash at its start. -/
def dropSlash (k : Kind) (s : List Char) : List Char :=
  match s with
  | c :: rest => if isSlash k c then rest else s
  | [] => []

/-- User name and password, and what follows the sign after them. The last such sign before the end of
the authority counts. With nothing before it, a host must follow. -/
def readUser (k : Kind) (s : List Char) : Except Problem ((String × Option String) × List Char) :=
  let authority := s.takeWhile fun c => !endsAuthority k c
  let host := (authority.reverse.takeWhile (· != '@')).reverse
  if host.length == authority.length then .ok (("", none), s)
  else
    let info := authority.take (authority.length - host.length - 1)
    let rest := s.drop (info.length + 1)
    if info.isEmpty && (rest.head?.any (endsAuthority k)) then .error .emptyHost
    else
      let name := info.takeWhile (· != ':')
      let word := (info.drop (name.length + 1))
      let shown (t : List Char) : String := String.ofList (escape inUserSet t)
      .ok ((shown name, if word.isEmpty then none else some (shown word)), rest)

/-- The host up to its port or the end of the authority, and the rest. A colon within brackets belongs to
the host. -/
def splitHost (k : Kind) : Bool → List Char → List Char × List Char
  | _, [] => ([], [])
  | inside, c :: rest =>
    if endsAuthority k c || (c == ':' && !inside) then ([], c :: rest)
    else
      let inside := if c == '[' then true else if c == ']' then false else inside
      let (h, t) := splitHost k inside rest
      (c :: h, t)

/-- A port after its colon, and the rest. The default port of the scheme is left out. -/
def readPort (scheme : String) (s : List Char) : Except Problem (Option Nat × List Char) :=
  let digits := s.takeWhile Char.isDigit
  let rest := s.dropWhile Char.isDigit
  let n := Numeral.decimal digits
  if 65535 < n then .error .badPort
  else if rest.head?.any (fun c => !(c == '/' || c == '\\' || c == '?' || c == '#')) then .error .badPort
  else .ok (if digits.isEmpty || defaultPort? scheme == some n then none else some n, rest)

/-- The segments after an authority. In a special URL there is always one; in another one there is none if
the path is empty. -/
def segmentsAfterAuthority (k : Kind) (s : List Char) : List String :=
  if k == .other && s.isEmpty then [] else Url.segments (pieces k (dropSlash k s))

/-- Reads what follows the two slashes of an authority. -/
def afterSlashes (k : Kind) (scheme : String) (s : List Char) : Except Problem Url := do
  let ((username, password), s) ← readUser k s
  let (h, rest) := splitHost k false s
  if h.isEmpty && (k == .special || rest.head? == some ':') then .error .emptyHost
  else do
    let host ← if h.isEmpty then .ok none
      else if k == .special then (Host.readSpecial h).map some
      else (Host.readOpaque h).map some
    let (port, rest) ← match rest with
      | ':' :: rest => readPort scheme rest
      | _ => .ok (none, rest)
    if host.isNone && (!username.isEmpty || password.isSome) then .error .emptyHost
    else
      let (path, t) := splitPath rest
      let (query, fragment) := tail k t
      .ok {
        scheme, hasAuthority := true, username, password, host, port
        path := .segments (segmentsAfterAuthority k path), query, fragment }

/-- Reads a URL of a scheme that is not special. -/
def readOther (scheme : String) (s : List Char) : Except Problem Url :=
  match s with
  | '/' :: '/' :: rest => afterSlashes .other scheme rest
  | _ =>
    let (p, t) := splitPath s
    let (query, fragment) := tail .other t
    let path := match p with
      | '/' :: rest => Path.segments (Url.segments (pieces .other rest))
      | _ => Path.opaqueText (String.ofList (escape inControlSet p))
    .ok { scheme, hasAuthority := false, path, query, fragment }

/-- The URL of a file on a host. A host is dropped if the path names a drive. -/
def fileUrl (host : Option Host) (s : List Char) : Url :=
  let (p, t) := splitPath s
  let (segs, onDrive) := fileSegments (pieces .file p)
  let (query, fragment) := tail .file (unbroken t)
  { scheme := "file", hasAuthority := true, host := if onDrive then none else host
    path := .segments segs, query, fragment }

/-- What follows a slash at the start, if there is one. -/
def afterSlash? (s : List Char) : Option (List Char) :=
  match s.dropWhile isBreak with
  | c :: rest => if isSlash .file c then some rest else none
  | [] => none

/-- Reads a file URL after the two slashes of its authority. A drive letter is no host but begins the path, and
the host `localhost` is no host. The slash after a host belongs to the host; without one it makes the
first segment an empty one. -/
def readFileHost (s : List Char) : Except Problem Url :=
  let ends (c : Char) : Bool := endsAuthority .file c
  let h := unbroken (s.takeWhile fun c => !ends c)
  let rest := s.dropWhile fun c => !ends c
  if isDriveLetter h then .ok (fileUrl none s)
  else if h.isEmpty then .ok (fileUrl none rest)
  else do
    let host ← Host.readSpecial h
    .ok (if host == .name "localhost" then fileUrl none rest else fileUrl (some host) (dropSlash .file rest))

/-- Reads a file URL after its scheme. The text may have breaks. -/
def readFile (s : List Char) : Except Problem Url :=
  match afterSlash? s with
  | none => .ok (fileUrl none s)
  | some rest =>
    match afterSlash? rest with
    | none => .ok (fileUrl none rest)
    | some rest => readFileHost rest

/-- Reads a URL. Breaks count nowhere but in the path of a file. -/
def parse (text : String) : Except Problem Url :=
  let s := trimEdges text.toList
  match scheme? (unbroken s) with
  | none => .error .relative
  | some (scheme, rest) =>
    match Kind.ofScheme scheme with
    | .file => readFile ((s.dropWhile (· != ':')).drop 1)
    | .special => afterSlashes .special scheme (rest.dropWhile (isSlash .special))
    | .other => readOther scheme rest

end Url

end MeshFirmware
