import XmlSchema.Path
import XmlSchema.Text.Number
import XmlSchema.Text.Utf8
import XmlSchema.Uri.Host

/-!
# Uniform resource identifiers

`Uri.parse?` reads a URI in the way of web browsers: surrounding blanks are dropped, schemes and
hosts are put in lower case, `.` and `..` segments are resolved, and characters that may not stand
for themselves are percent-encoded.  `Uri.text` is the normal form; two URIs are the same when
their normal forms are.  `Uri.filePath?` gives the file that a URI names.
-/

namespace XmlSchema

open XmlSchema.Text

namespace Uri

/-- How the schemes differ: `file`, the other schemes that always have a host, and the rest. -/
inductive SchemeKind where
  | file
  | special
  | other
  deriving DecidableEq, Repr

/-- The kind of a scheme in lower case. -/
def schemeKind (scheme : String) : SchemeKind :=
  if scheme = "file" then .file
  else if scheme ∈ ["http", "https", "ws", "wss", "ftp"] then .special
  else .other

/-- The number of the service on a host that a scheme uses when none is given. -/
def usualNumber? (scheme : String) : Option Nat :=
  if scheme = "http" ∨ scheme = "ws" then some 80
  else if scheme = "https" ∨ scheme = "wss" then some 443
  else if scheme = "ftp" then some 21
  else none

/-- User and host of a URI, and the number of a service on the host. -/
structure Authority where
  userInfo : String := ""
  host : String := ""
  portNumber : Option Nat := none
  deriving DecidableEq, Repr

end Uri

/-- A URI in normal form. -/
structure Uri where
  scheme : String
  authority : Option Uri.Authority
  path : String
  /-- The path is a text of its own and not a list of segments. -/
  opaquePath : Bool := false
  query : Option String := none
  fragment : Option String := none
  deriving DecidableEq, Repr

namespace Uri

/-- An authority with the marks around its parts. -/
def Authority.text (a : Authority) : String :=
  let user := if a.userInfo.isEmpty then "" else a.userInfo ++ "@"
  let number := match a.portNumber with
    | some n => ":" ++ toString n
    | none => ""
  user ++ a.host ++ number

/-- The normal form of a URI. -/
def text (u : Uri) : String :=
  let authority := match u.authority with
    | some a => "//" ++ a.text
    | none => if "//".toList.isPrefixOf u.path.toList && !u.opaquePath then "/." else ""
  let query := match u.query with
    | some q => "?" ++ q
    | none => ""
  let fragment := match u.fragment with
    | some f => "#" ++ f
    | none => ""
  u.scheme ++ ":" ++ authority ++ u.path ++ query ++ fragment

/-! ## Percent encoding -/

/-- Characters encoded in a fragment. -/
def encodedInFragment (c : Char) : Bool := isControl c || " \"<>`".toList.contains c

/-- Characters encoded in a path. -/
def encodedInPath (c : Char) : Bool := encodedInFragment c || "#?^\x7b\x7d".toList.contains c

/-- Characters encoded in a query. -/
def encodedInQuery (special : Bool) (c : Char) : Bool :=
  isControl c || " \"#<>".toList.contains c || (special && c == '\'')

/-- Characters encoded in user names and passwords. -/
def encodedInUserInfo (c : Char) : Bool :=
  encodedInPath c || "/:;=@[\\]^|".toList.contains c

/-! ## Paths -/

/-- A letter followed by a colon or a bar: the name of a drive. -/
def isDriveLetter (cs : List Char) : Bool :=
  match cs with
  | [a, b] => a.isAlpha && (b == ':' || b == '|')
  | _ => false

/-- A segment that means the segment before it is left out. -/
def isDoubleDot (cs : List Char) : Bool :=
  ["..", "%2e%2e", "%2e.", ".%2e"].contains (String.ofList (cs.map Char.toLower))

/-- A segment that means nothing. -/
def isSingleDot (cs : List Char) : Bool :=
  [".", "%2e"].contains (String.ofList (cs.map Char.toLower))

/-- The segments of a path without the last one; a drive of a file path stays. -/
def shorten (kind : SchemeKind) (segments : List (List Char)) : List (List Char) :=
  match kind, segments with
  | .file, [only] => if isDriveLetter only then segments else []
  | _, _ => segments.dropLast

/-- Splits a path into its segments; `none` behind the last. -/
def splitSegments (kind : SchemeKind) : List Char → List (List Char)
  | [] => [[]]
  | c :: cs =>
    if c = '/' ∨ (c = '\\' ∧ kind ≠ .other) then [] :: splitSegments kind cs
    else
      match splitSegments kind cs with
      | part :: parts => (c :: part) :: parts
      | [] => [[c]]

/-- Resolves the segments `rest` behind the resolved segments `done`. -/
def resolveSegments (kind : SchemeKind) :
    List (List Char) → List (List Char) → List (List Char)
  | done, [] => done
  | done, segment :: rest =>
    let last := rest.isEmpty
    if isDoubleDot segment then
      let done := shorten kind done
      resolveSegments kind (if last then done ++ [[]] else done) rest
    else if isSingleDot segment then
      resolveSegments kind (if last then done ++ [[]] else done) rest
    else
      let segment :=
        if kind = .file && done.isEmpty && isDriveLetter segment then [segment.headD 'a', ':']
        else segment
      resolveSegments kind (done ++ [segment]) rest

/-- The path that the segments make up. -/
def joinSegments (segments : List (List Char)) : List Char :=
  segments.flatMap ('/' :: ·)

/-- The normal form of a path given without its first separator. -/
def normalPath (kind : SchemeKind) (cs : List Char) : String :=
  let encoded := (splitSegments kind cs).map (percentEncode encodedInPath)
  let segments := resolveSegments kind [] encoded
  let segments := match kind with
    | .file =>
      let kept := segments.dropWhile List.isEmpty
      if kept.isEmpty then [[]] else kept
    | _ => segments
  String.ofList (joinSegments segments)

/-! ## Reading -/

/-- Drops the leading character of a path when it is a separator. -/
def dropSeparator (kind : SchemeKind) (cs : List Char) : List Char :=
  match cs with
  | '/' :: rest => rest
  | '\\' :: rest => if kind = .other then cs else rest
  | _ => cs

/-- Splits off the query and the fragment. -/
def splitTail (special : Bool) (cs : List Char) : List Char × Option String × Option String :=
  let fragment := match cs.dropWhile (· != '#') with
    | _ :: f => some (String.ofList (percentEncode encodedInFragment f))
    | [] => none
  let cs := cs.takeWhile (· != '#')
  let query := match cs.dropWhile (· != '?') with
    | _ :: q => some (String.ofList (percentEncode (encodedInQuery special) q))
    | [] => none
  (cs.takeWhile (· != '?'), query, fragment)

/-- Whether a character ends the authority. -/
def endsAuthority (kind : SchemeKind) (c : Char) : Bool :=
  c == '/' || c == '?' || c == '#' || (c == '\\' && kind != .other)

/-- The user information in normal form. -/
def userInfoText (cs : List Char) : String :=
  let user := percentEncode encodedInUserInfo (cs.takeWhile (· != ':'))
  match cs.dropWhile (· != ':') with
  | _ :: password =>
    if password.isEmpty then String.ofList user
    else String.ofList (user ++ ':' :: percentEncode encodedInUserInfo password)
  | [] => String.ofList user

/-- Splits at the last `@`. -/
def splitUserInfo (cs : List Char) : Option (List Char) × List Char :=
  let backwards := cs.reverse
  match backwards.dropWhile (· != '@') with
  | _ :: user => (some user.reverse, (backwards.takeWhile (· != '@')).reverse)
  | [] => (none, cs)

/-- Splits a host from the number behind it; a colon inside brackets belongs to the host. -/
def splitNumber : Bool → List Char → List Char × Option (List Char)
  | _, [] => ([], none)
  | bracketed, c :: cs =>
    if c = ':' ∧ !bracketed then ([], some cs)
    else
      let bracketed := if c = '[' then true else if c = ']' then false else bracketed
      let (host, number) := splitNumber bracketed cs
      (c :: host, number)

/-- The authority written as `cs`. -/
def authority? (scheme : String) (kind : SchemeKind) (cs : List Char) : Option Authority := do
  let (user, rest) := splitUserInfo cs
  if user.isSome && rest.isEmpty then none
  else
    let (hostText, numberText) := splitNumber false rest
    let host ← if kind = .other then opaqueHost? hostText else domainHost? hostText
    if host.isEmpty && (kind ≠ .other || numberText.isSome || user.any (!·.isEmpty)) then none
    else
      let number ← match numberText with
        | none => some none
        | some [] => some none
        | some digits => (digits? digits).filter (· ≤ 65535) |>.map some
      return {
        userInfo := (user.map userInfoText).getD ""
        host
        portNumber := if number = usualNumber? scheme then none else number }

/-- Reads what follows the two slashes before an authority. -/
def parseHierarchical? (scheme : String) (kind : SchemeKind) (cs : List Char) : Option Uri := do
  let authority ← authority? scheme kind (cs.takeWhile (!endsAuthority kind ·))
  let (path, query, fragment) :=
    splitTail (kind != .other) (cs.dropWhile (!endsAuthority kind ·))
  let path :=
    if kind = .other && path.isEmpty then ""
    else normalPath kind (dropSeparator kind path)
  return { scheme, authority := some authority, path, query, fragment }

/-- Reads a URI of the scheme `file` behind its colon. -/
def parseFile? (cs : List Char) : Option Uri := do
  let isSeparator (c : Char) : Bool := c == '/' || c == '\\'
  let finish (host : String) (cs : List Char) : Uri :=
    let (path, query, fragment) := splitTail true cs
    { scheme := "file", authority := some { host },
      path := normalPath .file (dropSeparator .file path), query, fragment }
  match cs with
  | a :: b :: rest =>
    if isSeparator a && isSeparator b then
      let hostText := rest.takeWhile (!endsAuthority .file ·)
      if isDriveLetter hostText then return finish "" rest
      else if hostText.isEmpty then return finish "" rest
      else
        let host ← domainHost? hostText
        let rest := rest.dropWhile (!endsAuthority .file ·)
        let uri := finish (if host = "localhost" then "" else host) rest
        -- a path that starts with a drive has no host
        let drive := ((uri.path.toList.drop 1).takeWhile (· != '/'))
        if isDriveLetter drive then return { uri with authority := some {} } else return uri
    else return finish "" cs
  | _ => return finish "" cs

/-- Reads a URI that is not special and has no authority. -/
def parseOther (scheme : String) (cs : List Char) : Uri :=
  let (path, query, fragment) := splitTail false cs
  match path with
  | '/' :: rest => { scheme, authority := none, path := normalPath .other rest, query, fragment }
  | _ =>
    { scheme, authority := none, path := String.ofList (percentEncode isControl path),
      opaquePath := true, query, fragment }

/-- Drops the surrounding control characters and spaces, and every tab and line break. -/
def clean (cs : List Char) : List Char :=
  let isEdge (c : Char) : Bool := c.toNat ≤ 0x20
  let trimmed := ((cs.dropWhile isEdge).reverse.dropWhile isEdge).reverse
  trimmed.filter fun c => c != '\t' && c != '\n' && c != '\r'

/-- The characters of a scheme. -/
def isSchemeChar (c : Char) : Bool := c.isAlphanum || c == '+' || c == '-' || c == '.'

/-- Reads a URI; `none` when the text is not one. -/
def parse? (s : String) : Option Uri :=
  let cs := clean s.toList
  let scheme := String.ofList ((cs.takeWhile isSchemeChar).map Char.toLower)
  match (cs.headD ' ').isAlpha, cs.dropWhile isSchemeChar with
  | true, ':' :: rest =>
    match schemeKind scheme with
    | .file => parseFile? rest
    | .special =>
      parseHierarchical? scheme .special (rest.dropWhile fun c => c == '/' || c == '\\')
    | .other =>
      match rest with
      | '/' :: '/' :: rest => parseHierarchical? scheme .other rest
      | _ => some (parseOther scheme rest)
  | _, _ => none

/-- Whether a file path ends in the name of a drive. -/
def endsInDrive (bytes : List UInt8) : Bool :=
  match bytes.reverse with
  | b :: a :: _ :: _ => isDriveLetter [Char.ofNat a.toNat, Char.ofNat b.toNat]
  | _ => false

/-- The file that a URI names.  The host is empty or `localhost`. -/
def filePath? (u : Uri) : Option Path :=
  let host := (u.authority.map Authority.host).getD ""
  if u.opaquePath || !(host.isEmpty || host == "localhost") || u.path.isEmpty then none
  else
    let bytes := percentDecode u.path.toList
    some ⟨if endsInDrive bytes then bytes ++ [0x2F] else bytes⟩

end Uri

end XmlSchema
