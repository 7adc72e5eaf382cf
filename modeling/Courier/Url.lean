import Courier.Url.Address
import Courier.Url.Name

/-!
URLs: their parts, the way they are read and their one written form. Reading drops blanks and
controls at the ends and line ends and tabs everywhere, resolves dot segments and encodes what a part
cannot hold. Web schemes and files have rules of their own for hosts and paths; every other scheme
keeps its host as it is.
-/

namespace Courier

namespace Url

inductive SchemeKind
  | web
  | file
  | other
  deriving DecidableEq

def schemeKind (scheme : String) : SchemeKind :=
  if ["http", "https", "ws", "wss", "ftp"].contains scheme then .web
  else if scheme = "file" then .file
  else .other

def defaultPort? (scheme : String) : Option Nat :=
  [("http", 80), ("ws", 80), ("https", 443), ("wss", 443), ("ftp", 21)].lookup scheme

/-- Who and where: everything between the two slashes and the path, encoded. -/
structure Authority where
  user : String
  password : String
  host : String
  port : Option UInt16
  deriving DecidableEq

inductive Path
  /-- A path that does not start with a slash and has no parts. -/
  | undivided (text : String)
  /-- The parts after each slash. -/
  | divided (segments : List String)
  deriving DecidableEq

/-- Why a text is no URL. -/
inductive Flaw
  | noScheme
  | invalidPort
  | emptyHost
  | invalidAddress4
  | invalidAddress6
  | invalidHostCharacter
  | invalidName
  deriving DecidableEq

def Flaw.message : Flaw → String
  | noScheme => "no scheme in URL"
  | invalidPort => "invalid port number"
  | emptyHost => "empty host"
  | invalidAddress4 => "invalid IPv4 address"
  | invalidAddress6 => "invalid IPv6 address"
  | invalidHostCharacter => "invalid domain character"
  | invalidName => "invalid international domain name"

end Url

structure Url where
  scheme : String
  authority : Option Url.Authority
  path : Url.Path
  query : Option String
  fragment : Option String
  deriving DecidableEq

namespace Url

def Path.text : Path → String
  | undivided s => s
  | divided segments => String.join (segments.map ("/" ++ ·))

def Authority.text (a : Authority) : String :=
  let password := if a.password.isEmpty then "" else ":" ++ a.password
  let mark := if a.user.isEmpty && a.password.isEmpty then "" else "@"
  let port := match a.port with
    | none => ""
    | some p => ":" ++ toString p
  a.user ++ password ++ mark ++ a.host ++ port

/-- Without an authority a path must not start with two slashes. -/
def text (u : Url) : String :=
  let path := u.path.text
  let place := match u.authority with
    | some a => "//" ++ a.text
    | none => if path.startsWith "//" then "/." else ""
  let query := match u.query with
    | none => ""
    | some q => "?" ++ q
  let fragment := match u.fragment with
    | none => ""
    | some f => "#" ++ f
  u.scheme ++ ":" ++ place ++ path ++ query ++ fragment

/-- The host, empty if there is none. -/
def hostText (u : Url) : String :=
  match u.authority with
  | some a => a.host
  | none => ""

/-- The fields of the query, decoded. -/
def fields (u : Url) : List (String × String) :=
  match u.query with
  | none => []
  | some q => formPairs q.toList

/-! ### Reading -/

/-- Tabs and line ends count nowhere. -/
def isBreak (c : Char) : Bool := c = '\t' || c = '\n' || c = '\r'

/-- The text without controls and blanks at its ends. -/
def trimmed (s : String) : List Char :=
  let cs := s.toList.dropWhile (· ≤ ' ')
  (cs.reverse.dropWhile (· ≤ ' ')).reverse

def isSchemeChar (c : Char) : Bool := c.isAlphanum || c = '+' || c = '-' || c = '.'

/-- The scheme in lower case, and what follows its colon. -/
def scheme? (cs : List Char) : Option (String × List Char) :=
  match cs.dropWhile isSchemeChar with
  | ':' :: rest =>
    if cs.head?.any Char.isAlpha then
      some (String.ofList ((cs.takeWhile isSchemeChar).map Char.toLower), rest)
    else none
  | _ => none

def isSlash (kind : SchemeKind) (c : Char) : Bool := c = '/' || (c = '\\' && kind ≠ .other)

def endsHostPart (kind : SchemeKind) (c : Char) : Bool := isSlash kind c || c = '?' || c = '#'

/-- The text before the last such character, and the text after it. -/
def cutLast? (mark : Char) (cs : List Char) : Option (List Char × List Char) :=
  if cs.contains mark then
    let after := cs.reverse.takeWhile (· ≠ mark)
    some (cs.take (cs.length - after.length - 1), after.reverse)
  else none

/-- The host up to a colon outside of square brackets, and what follows it. -/
def cutPort (inside : Bool) : List Char → List Char × List Char
  | [] => ([], [])
  | c :: rest =>
    if c = ':' && !inside then ([], c :: rest)
    else
      let inside := if c = '[' then true else if c = ']' then false else inside
      (c :: (cutPort inside rest).1, (cutPort inside rest).2)

def bracketed? (cs : List Char) : Except Flaw (List Char) :=
  match cs with
  | '[' :: r =>
    match if r.getLast? = some ']' then address6? r.dropLast else none with
    | some gs => .ok ('[' :: address6Text gs ++ [']'])
    | none => .error .invalidAddress6
  | _ => .error .invalidAddress6

/-- The host of a web scheme or a file: an address or a name. -/
def nameHost (cs : List Char) : Except Flaw (List Char) :=
  if cs.head? = some '[' then bracketed? cs
  else
    match asciiName? (Text.ofOctets (decode cs)).toList with
    | none => .error .invalidName
    | some [] => .error .emptyHost
    | some name =>
      if endsInNumber name then
        match address4? name with
        | some n => .ok (address4Text n)
        | none => .error .invalidAddress4
      else .ok name

/-- The host of any other scheme is kept, as long as it holds no forbidden character. -/
def plainHost (cs : List Char) : Except Flaw (List Char) :=
  if cs.head? = some '[' then bracketed? cs
  else if cs.any isForbidden then .error .invalidHostCharacter
  else .ok (encode (fun _ => false) cs)

/-- The digits of a port up to a mark; no digit is no port, and neither is the scheme's default. -/
def port? (scheme : String) (cs : List Char) : Except Flaw (Option UInt16 × List Char) :=
  let ds := cs.takeWhile Char.isDigit
  let rest := cs.dropWhile Char.isDigit
  let n := (numberIn? 10 ds).getD 0
  if 65536 ≤ n then .error .invalidPort
  else if rest.head?.any fun c => !"/\\?#".toList.contains c then .error .invalidPort
  else if ds.isEmpty || defaultPort? scheme = some n then .ok (none, rest)
  else .ok (some n.toUInt16, rest)

/-- User and password, encoded; they end at the last at sign of the host part. -/
def userInfo (cs : List Char) : String × String :=
  let part (cs : List Char) : String := String.ofList (encode inUserInfo cs)
  let (user, password) := cut ':' cs
  (part user, part password)

/-- Everything between the two slashes and the path, and the rest. -/
def readAuthority (scheme : String) (cs : List Char) : Except Flaw (Authority × List Char) := do
  let kind := schemeKind scheme
  let before := cs.takeWhile fun c => !endsHostPart kind c
  let after := cs.drop before.length
  let (info, place) ← match cutLast? '@' before with
    | none => .ok ([], before)
    | some ([], place) =>
      if place.isEmpty && !after.isEmpty then .error .emptyHost else .ok ([], place)
    | some r => .ok r
  let (user, password) := userInfo info
  let (host, rest) := cutPort false place
  if kind = .web && host.isEmpty then .error .emptyHost
  else
    let host ← if kind = .other then plainHost host else nameHost host
    if host.isEmpty && rest.head? = some ':' then .error .emptyHost
    else
      let (port, rest) ← match rest with
        | ':' :: rest => port? scheme (rest ++ after)
        | rest => .ok (none, rest ++ after)
      if host.isEmpty && !(user.isEmpty && password.isEmpty) then .error .emptyHost
      else .ok (⟨user, password, String.ofList host, port⟩, rest)

/-- The point of a dot segment can be encoded. -/
def dots? (segment : List Char) : Option Nat :=
  let s := String.ofList (segment.map Char.toLower)
  if s = "." ∨ s = "%2e" then some 1
  else if [".." , ".%2e", "%2e.", "%2e%2e"].contains s then some 2
  else none

/-- A letter with a colon or a bar names a drive. -/
def isDrive (s : List Char) : Bool :=
  match s with
  | [c, m] => c.isAlpha && (m = ':' || m = '|')
  | _ => false

/-- Does a segment start with a drive, as far as a backslash or the end? -/
def startsWithDrive (s : List Char) : Bool :=
  isDrive (s.take 2) && (s.drop 2).head?.all (· = '\\')

/-- Drops the last segment, unless it is a drive. -/
def shorten (done : List String) : List String :=
  match done.getLast? with
  | some s => if startsWithDrive s.toList then done else done.dropLast
  | none => []

/-- Resolves the segments from the left. A dot segment at the end leaves an empty one. A drive that
comes first in a file's path is written with a colon. -/
def resolveSegments (kind : SchemeKind) (done : List String) : List (List Char) → List String
  | [] => done
  | s :: rest =>
    let last (done : List String) : List String := if rest.isEmpty then done ++ [""] else done
    match dots? s with
    | some 1 => resolveSegments kind (last done) rest
    | some _ => resolveSegments kind (last (shorten done)) rest
    | none =>
      let t := if kind = .file && done.isEmpty && isDrive s then [s.headD 'c', ':']
        else encode inPath s
      resolveSegments kind (done ++ [String.ofList t]) rest

/-- The segments of a text whose first slash is dropped already. -/
def segments (kind : SchemeKind) (cs : List Char) : List String :=
  resolveSegments kind [] (pieces (isSlash kind) cs)

def isQueryMark (c : Char) : Bool := c = '?' || c = '#'

/-- The path after an authority. -/
def pathAfterHost (kind : SchemeKind) (cs : List Char) : Path :=
  match cs with
  | [] => .divided (if kind = .other then [] else [""])
  | c :: r => .divided (segments kind (if isSlash kind c then r else cs))

/-- Query and fragment of what follows the path. -/
def queryAndFragment (kind : SchemeKind) (cs : List Char) : Option String × Option String :=
  let queryText (cs : List Char) : String :=
    String.ofList (encode (if kind = .other then inQuery else inWebQuery) cs)
  let fragmentText (cs : List Char) : String := String.ofList (encode inFragment cs)
  match cs with
  | '?' :: r =>
    let query := r.takeWhile (· ≠ '#')
    match r.drop query.length with
    | _ :: f => (some (queryText query), some (fragmentText f))
    | [] => (some (queryText query), none)
  | '#' :: f => (none, some (fragmentText f))
  | _ => (none, none)

/-- Two slashes start the host of a file, unless a drive stands there; `localhost` is no host. After
an empty host, the slash before the path counts as an empty segment. -/
def readFileHost (cs : List Char) : Except Flaw (Authority × List Char) :=
  let (host, rest) := match cs with
    | a :: b :: r =>
      if isSlash .file a && isSlash .file b then
        let host := r.takeWhile fun c => !endsHostPart .file c
        let rest := r.drop host.length
        if isDrive host || (host.isEmpty && rest.head?.any (isSlash .file)) then ([], '/' :: r)
        else (host, rest)
      else ([], cs)
    | _ => ([], cs)
  if host.isEmpty then .ok (⟨"", "", "", none⟩, rest)
  else do
    let name ← nameHost host
    let name := if name = "localhost".toList then [] else name
    .ok (⟨"", "", String.ofList name, none⟩, rest)

/-- The end of the text in which so many characters other than tabs and line ends are left. -/
def lastOf (count : Nat) : List Char → List Char
  | [] => []
  | c :: rest =>
    if (rest.filter fun c => !isBreak c).length < count then c :: rest else lastOf count rest

/-- Is a drive at the start of a file's path cut off by a tab or line end from what follows it in
the segment? -/
def breaksAfterDrive (path : List Char) : Bool :=
  let skip (cs : List Char) : List Char := cs.dropWhile isBreak
  let first := match skip path with
    | c :: r => if isSlash .file c then r else c :: r
    | [] => []
  match skip first with
  | letter :: r =>
    match skip r with
    | ':' :: b :: r =>
      letter.isAlpha && isBreak b && (skip r).head?.any fun c => !endsHostPart .file c
    | _ => false
  | [] => false

/-- A file's path starts with one slash. -/
def dropEmpty : List String → List String
  | "" :: s :: rest => dropEmpty (s :: rest)
  | ss => ss

/-- The segments of a file's path, and whether a drive replaces the host. What is cut off from a drive
becomes a segment that is not resolved. -/
def filePath (broken : Bool) (cs : List Char) : List String × Bool :=
  let cs := match cs with
    | c :: r => if isSlash .file c then r else cs
    | [] => []
  if broken then
    let name := (cs.drop 2).takeWhile fun c => !isSlash .file c
    let done := [cs.take 2, encode inPath name].map String.ofList
    match cs.drop (name.length + 2) with
    | [] => (done, false)
    | _ :: rest => (resolveSegments .file done (pieces (isSlash .file) rest), false)
  else
    let ss := segments .file cs
    (dropEmpty ss, ss.head?.any fun s => isDrive s.toList)

/-- The authority, if the text after the scheme has one, and the rest. -/
def readPlace (scheme : String) (cs : List Char) : Except Flaw (Option Authority × List Char) :=
  match schemeKind scheme with
  | .web => do
    let (a, rest) ← readAuthority scheme (cs.dropWhile (isSlash .web))
    .ok (some a, rest)
  | .file => do
    let (a, rest) ← readFileHost cs
    .ok (some a, rest)
  | .other =>
    match cs with
    | '/' :: '/' :: r => do
      let (a, rest) ← readAuthority scheme r
      .ok (some a, rest)
    | _ => .ok (none, cs)

def readPath (kind : SchemeKind) (hasAuthority : Bool) (cs : List Char) : Path :=
  match hasAuthority, cs with
  | true, cs => pathAfterHost kind cs
  | false, '/' :: r => .divided (segments kind r)
  | false, cs => .undivided (String.ofList (encode (fun _ => false) cs))

/-- A URL from its scheme and the rest of the text, without tabs and line ends; `marks` is the text
with them. -/
def ofParts (scheme : String) (cs marks : List Char) : Except Flaw Url := do
  let kind := schemeKind scheme
  let (authority, rest) ← readPlace scheme cs
  let body := rest.takeWhile fun c => !isQueryMark c
  let (query, fragment) := queryAndFragment kind (rest.drop body.length)
  match kind, authority with
  | .file, some a =>
    let (path, onDrive) := filePath (breaksAfterDrive (lastOf rest.length marks)) body
    .ok ⟨scheme, some (if onDrive then { a with host := "" } else a), .divided path, query, fragment⟩
  | _, _ => .ok ⟨scheme, authority, readPath kind authority.isSome body, query, fragment⟩

def ofText (s : String) : Except Flaw Url :=
  let marks := trimmed s
  match scheme? (marks.filter fun c => !isBreak c) with
  | some (scheme, cs) => ofParts scheme cs marks
  | none => .error .noScheme

end Url

end Courier
