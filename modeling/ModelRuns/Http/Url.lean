import ModelRuns.Http.Host
import ModelRuns.Http.Segments

namespace ModelRuns

/-!
# Addresses

An address names a scheme, a host, a path and a query.  Reading one brings it
into its normal form: the scheme and the host in lower case, the default port
left out, dots of the path resolved, and characters that cannot stand in their
part written as percent signs with two digits for each byte.

The schemes of the web always have a host, and a backslash is as good as a slash
in them.  A file may have a host.  Any other address has one if two slashes
follow its scheme, and if not even one does, then what follows is kept as it is
spelled.
-/

/-- The user that an address is meant for. -/
structure UrlUser where
  name : List Char
  password : Option (List Char)
deriving DecidableEq, Repr

/-- Whom an address is sent to. -/
structure Authority where
  user : UrlUser
  host : String
  /-- The port, if it is not the default one. -/
  port : Option Nat
deriving DecidableEq, Repr

/-- An address in its normal form. -/
structure Url where
  scheme : String
  authority : Option Authority
  path : String
  query : Option String
  fragment : Option String
deriving DecidableEq, Repr

namespace Url

/-! ## Blanks -/

/-- Tabs and line breaks count for nothing in an address. -/
def dropBreaks (text : List Char) : List Char :=
  text.filter fun c => !(c = '\t' || c = '\n' || c = '\r')

/-- Whether a character at an end of an address counts for nothing. -/
def isEdge (c : Char) : Bool := c.toNat ≤ 0x20

/-- The characters of an address that count. -/
def significant (text : String) : List Char :=
  dropBreaks (((text.toList.dropWhile isEdge).reverse.dropWhile isEdge).reverse)

/-! ## Schemes -/

/-- The port a scheme of the web has when none is named; other schemes have none. -/
def defaultPort? (scheme : String) : Option Nat :=
  if scheme = "http" || scheme = "ws" then some 80
  else if scheme = "https" || scheme = "wss" then some 443
  else if scheme = "ftp" then some 21
  else none

/-- The scheme of files. -/
def fileScheme : String := "file"

/-- Whether a scheme is one of the web or that of files. -/
def isSpecial (scheme : String) : Bool := (defaultPort? scheme).isSome || scheme = fileScheme

/-- Split a text at a character that ends a part; the rest is missing when the
character is not there. -/
def cutAt (mark : Char) (text : List Char) : List Char × Option (List Char) :=
  (text.takeWhile (· ≠ mark), (text.dropWhile (· ≠ mark)).tail?)

/-- The scheme of an address and what follows its colon. -/
def splitScheme (text : List Char) : Option (String × List Char) :=
  match cutAt ':' text with
  | (scheme, some rest) =>
    let begins := (scheme.head?.map Char.isAlpha).getD false
    if begins && scheme.all (fun c => c.isAlphanum || ['+', '-', '.'].contains c) then
      some (String.ofList (scheme.map Char.toLower), rest)
    else none
  | (_, none) => none

/-! ## Authorities -/

/-- An address that is meant for no user in particular. -/
def noUser : UrlUser := ⟨[], none⟩

/-- Read a user.  An empty password is none. -/
def readUser (text : List Char) : UrlUser :=
  match cutAt ':' text with
  | (name, password) =>
    ⟨encodeWhere userSpecial name,
      (password.filter (· ≠ [])).map (encodeWhere userSpecial)⟩

/-- Split at the last at sign; before it stands the user. -/
def splitUser (text : List Char) : Option (List Char) × List Char :=
  let host := (text.reverse.takeWhile (· ≠ '@')).reverse
  if host.length = text.length then (none, text)
  else (some (text.take (text.length - host.length - 1)), host)

/-- Split at the colon before the port; a colon inside brackets is none. -/
def splitPort (inside : Bool) : List Char → List Char × Option (List Char)
  | [] => ([], none)
  | c :: rest =>
    if c = ':' ∧ inside = false then ([], some rest)
    else
      let inside := if c = '[' then true else if c = ']' then false else inside
      let (host, port) := splitPort inside rest
      (c :: host, port)

/-- A port, unless there is none or it is the default one. -/
def readPort (default : Option Nat) (text : List Char) : Except UrlFault (Option Nat) :=
  if text.isEmpty then .ok none
  else match numberIn? 10 text with
    | none => .error .invalidPort
    | some port =>
      if 65535 < port then .error .invalidPort
      else .ok (if some port = default then none else some port)

/-- Read whom an address is sent to, and give what is left: a backslash ends a
port in every scheme.  Only an address without a user, a port and a default port
may do without a host. -/
def readAuthority (default : Option Nat) (text : List Char) :
    Except UrlFault (Authority × List Char) := do
  let (user, rest) := splitUser text
  let (host, port) := splitPort false rest
  let user := (user.map readUser).getD noUser
  if host = [] ∧ (default.isSome ∨ port.isSome ∨ user ≠ noUser) then .error .emptyHost
  let host ← if default.isSome then Host.read host else Host.readOpaque host
  let (port, left) := (port.getD []).span (· ≠ '\\')
  .ok (⟨user, host, ← readPort default port⟩, left)

/-! ## The parts after a scheme -/

/-- Whom an address is sent to, and its path. -/
abbrev Place := Option Authority × List Char

/-- Whether a character separates segments in an address of the web. -/
def isSlash (c : Char) : Bool := c = '/' || c = '\\'

/-- Write every slash of an address of the web in the usual way. -/
def plainSlashes (text : List Char) : List Char :=
  text.map fun c => if c = '\\' then '/' else c

/-- Read what follows a scheme of the web. -/
def readWeb (port : Nat) (text : List Char) : Except UrlFault Place := do
  let text := (plainSlashes text).dropWhile (· = '/')
  let (authority, _) ← readAuthority (some port) (text.takeWhile (· ≠ '/'))
  .ok (some authority, segmentsText (normalSegments false ((text.dropWhile (· ≠ '/')).drop 1)))

/-- A file at a host.  A drive has none, and however many slashes there are, one
stands at the front of the path. -/
def filePlace (host : String) (text : List Char) : Place :=
  let segments := normalSegments true text
  let host := if segments.head?.any isDrive then "" else host
  (some ⟨noUser, host, none⟩, '/' :: (segmentsText segments).dropWhile (· = '/'))

/-- The name of the host that files are on anyway. -/
def ownHost : String := "localhost"

/-- Read what follows the scheme of files. -/
def readFile (text : List Char) : Except UrlFault Place :=
  match plainSlashes text with
  | '/' :: '/' :: rest =>
    let (host, path) := rest.span (· ≠ '/')
    if isDrive host then .ok (filePlace "" rest)
    else if host = [] then .ok (filePlace "" path)
    else do
      let host ← Host.read host
      .ok (if host = ownHost then filePlace "" path else filePlace host (path.drop 1))
  | '/' :: rest => .ok (filePlace "" rest)
  | rest => .ok (filePlace "" rest)

/-- Read what follows any other scheme.  `more` says whether a query or a fragment
comes after it: an at sign alone is a host that is missing only if something
follows. -/
def readOther (more : Bool) : List Char → Except UrlFault Place
  | '/' :: '/' :: rest => do
    let (front, path) := rest.span (· ≠ '/')
    if front = ['@'] ∧ (path ≠ [] ∨ more) then .error .emptyHost
    let (authority, left) ← readAuthority none front
    let path := if left = [] then path else '/' :: left ++ path
    .ok (some authority, if path = [] then [] else segmentsText (normalSegments false (path.drop 1)))
  | '/' :: rest => .ok (none, segmentsText (normalSegments false rest))
  | rest => .ok (none, encodeWhere isOpaque rest)

/-- Read what follows a scheme, without the query and the fragment. -/
def readPlace (scheme : String) (more : Bool) (text : List Char) : Except UrlFault Place :=
  match defaultPort? scheme with
  | some port => readWeb port text
  | none => if scheme = fileScheme then readFile text else readOther more text

/-! ## Addresses -/

/-- Write a query.  The schemes of the web and files have no quotes in it. -/
def writeQuery (scheme : String) (text : List Char) : String :=
  String.ofList (encodeWhere
    (fun c => querySpecial c || (c = '\x27' && isSpecial scheme)) text)

/-- Read an address. -/
def read (text : String) : Except UrlFault Url :=
  match splitScheme (significant text) with
  | none => .error .noScheme
  | some (scheme, rest) => do
    let (rest, fragment) := cutAt '#' rest
    let (rest, query) := cutAt '?' rest
    let (authority, path) ← readPlace scheme (query.isSome || fragment.isSome) rest
    .ok {
      scheme, authority
      path := String.ofList path
      query := query.map (writeQuery scheme)
      fragment := fragment.map fun fragment =>
        String.ofList (encodeWhere fragmentSpecial fragment) }

/-- The written form of a user, with the sign that ends it. -/
def userText (user : UrlUser) : String :=
  if user = noUser then ""
  else String.ofList (user.name ++ (user.password.elim [] (':' :: ·)) ++ ['@'])

/-- The written form of whom an address is sent to. -/
def authorityText (authority : Authority) : String :=
  "//" ++ userText authority.user ++ authority.host ++
    authority.port.elim "" fun port => ":" ++ toString port

/-- The written form of a path.  One that begins with two slashes would be taken
for a host if there is none. -/
def pathText (url : Url) : String :=
  if url.authority = none ∧ ['/', '/'].isPrefixOf url.path.toList then "/." ++ url.path
  else url.path

/-- The written form of an address. -/
def text (url : Url) : String :=
  url.scheme ++ ":" ++ url.authority.elim "" authorityText ++ url.pathText ++
    url.query.elim "" ("?" ++ ·) ++ url.fragment.elim "" ("#" ++ ·)

/-! ## Sending -/

/-- Whether a user is known by a name or by a password that can be read. -/
def isKnown (user : UrlUser) : Bool :=
  (decodePercent? user.name).isSome &&
    (user.name ≠ [] || (user.password.bind decodePercent?).isSome)

/-- The address without its user, who is told apart from it in a request.  One
that cannot be read stays. -/
def withoutUser (url : Url) : Url :=
  { url with authority := url.authority.map fun authority =>
      if isKnown authority.user then { authority with user := noUser } else authority }

/-- What some hosts have that no request can be sent to. -/
def isUnsendable (c : Char) : Bool := ['"', '\x60', '\x7b', '\x7d'].contains c

/-- The length of the longest address that a request is sent to. -/
def longestSent : Nat := 65534

/-- Whether a request can be sent to an address. -/
def isReachable (url : Url) : Bool :=
  (url.scheme = "http" || url.scheme = "https") &&
    !url.authority.any (fun authority => authority.host.toList.any isUnsendable) &&
    url.text.length ≤ longestSent

/-! ## Queries -/

/-- Put a name and a value after the query. -/
def withPair (url : Url) (name value : String) : Url :=
  let pair := formValue name ++ "=" ++ formValue value
  match url.query with
  | none => { url with query := some pair }
  | some query => { url with query := some (if query = "" then pair else query ++ "&" ++ pair) }

/-- Put a text after the query. -/
def withExtra (url : Url) (extra : String) : Url :=
  let written := writeQuery url.scheme (dropBreaks extra.toList)
  { url with query := some (url.query.getD "" ++ "&" ++ written) }

end Url

end ModelRuns
