import Testbed.Http.Address
import Testbed.Number.Parse
import Testbed.Text.Lowercase
import Testbed.Value.Notation

/-!
# References to resources

A reference is taken apart into a scheme, an authority, a path with parameters, a query and a
fragment, each of which may be missing, and is put together again.  A reference without a scheme or
an authority is relative: it is resolved against another one.
-/

namespace Testbed.Http

set_option autoImplicit false

structure Reference where
  scheme : List Char := []
  authority : List Char := []
  path : List Char := []
  parameters : List Char := []
  query : List Char := []
  fragment : List Char := []
  deriving DecidableEq

inductive AuthorityProblem where
  /-- Brackets that do not enclose the host. -/
  | brackets
  | futureAddress
  | notAddress (host : List Char)
  | shortAddress
  /-- Characters whose compatibility forms are delimiters. -/
  | disguised (authority : List Char)
  | notPort (port : List Char)
  | longPort (digits : Nat)
  | portRange
  deriving DecidableEq

def AuthorityProblem.message : AuthorityProblem → String
  | brackets => "Invalid IPv6 URL"
  | futureAddress => "IPvFuture address is invalid"
  | notAddress host =>
    s!"{Literal.ofText (String.ofList host)} does not appear to be an IPv4 or IPv6 address"
  | shortAddress => "An IPv4 address cannot be in brackets"
  | disguised authority =>
    s!"netloc '{String.ofList authority}' contains invalid characters under NFKC normalization"
  | notPort port =>
    s!"Port could not be cast to integer value as {Literal.ofText (String.ofList port)}"
  | longPort digits => Parse.tooLong digits
  | portRange => "Port out of range 0-65535"

def isSchemeChar (c : Char) : Bool := c.isAlphanum || c == '+' || c == '-' || c == '.'

/-- A scheme at the front of a text, with what follows its colon. -/
def schemePart (cs : List Char) : Option (List Char × List Char) :=
  match Text.cutFirst ':' cs with
  | (c :: scheme, some rest) =>
    if c.isAlpha && scheme.all isSchemeChar then some (c :: scheme, rest) else none
  | _ => none

def addressOf (authority : List Char) : List Char := (Text.cutLast '@' authority).2

/-- The host of an authority, as it is written, and its port.  A host may stand in brackets. -/
def hostAndPort (authority : List Char) : List Char × List Char :=
  let address := addressOf authority
  match Text.cutFirst '[' address with
  | (_, some inner) =>
    let (host, rest) := Text.cutFirst ']' inner
    (host, ((Text.cutFirst ':' (rest.getD [])).2).getD [])
  | (_, none) =>
    let (host, port) := Text.cutFirst ':' address
    (host, port.getD [])

def checkBracketed (host : List Char) : Except AuthorityProblem Unit :=
  if host.head? == some 'v' then
    if isFutureAddress host then .ok () else .error .futureAddress
  else if isStrictIpv4 host then .error .shortAddress
  else if isStrictIpv6 host then .ok ()
  else .error (.notAddress host)

def checkBrackets (authority : List Char) : Except AuthorityProblem Unit :=
  match Text.cutFirst '[' (addressOf authority) with
  | (before, some inner) =>
    match Text.cutFirst ']' inner with
    | (host, after) =>
      let after := after.getD []
      if !before.isEmpty || !(after.isEmpty || after.head? == some ':') then .error .brackets
      else checkBracketed host
  | (_, none) => checkBracketed (Text.cutFirst ':' (addressOf authority)).1

/-- Characters whose compatibility form holds a delimiter. -/
def disguisedDelimiters : List Nat := [
  0x2047, 0x2048, 0x2049, 0x2100, 0x2101, 0x2105, 0x2106, 0x2A74, 0xFE13, 0xFE16, 0xFE55, 0xFE56,
  0xFE5F, 0xFE6B, 0xFF03, 0xFF0F, 0xFF1A, 0xFF1F, 0xFF20]

def checkAuthority (authority : List Char) : Except AuthorityProblem Unit :=
  let opens := authority.contains '['
  let closes := authority.contains ']'
  let delimiters : Except AuthorityProblem Unit :=
    if authority.any (disguisedDelimiters.contains ·.toNat) then .error (.disguised authority)
    else .ok ()
  if opens != closes then .error .brackets
  else if opens then (checkBrackets authority).bind fun _ => delimiters
  else delimiters

def schemesWithParameters : List String :=
  ["", "ftp", "hdl", "prospero", "http", "https", "shttp", "rtsp", "rtspu", "sip", "sips", "mms",
   "sftp", "tel"]

def schemesWithAuthority : List String :=
  ["", "ftp", "http", "gopher", "nntp", "telnet", "imap", "wais", "file", "mms", "https", "shttp",
   "snews", "prospero", "rtsp", "rtspu", "rsync", "svn", "svn+ssh", "sftp", "nfs", "git", "git+ssh",
   "ws", "wss"]

/-- Schemes against whose references others are resolved. -/
def schemesWithRelatives : List String :=
  ["", "ftp", "http", "gopher", "nntp", "imap", "wais", "file", "https", "shttp", "mms", "prospero",
   "rtsp", "rtspu", "sftp", "svn", "svn+ssh", "ws", "wss"]

def hasScheme (schemes : List String) (scheme : List Char) : Bool :=
  schemes.contains (String.ofList scheme)

/-- Cuts the parameters off the last segment of a path. -/
def cutParameters (path : List Char) : List Char × List Char :=
  match Text.cutLast '/' path with
  | (some before, last) =>
    let (last, parameters) := Text.cutFirst ';' last
    (before ++ '/' :: last, parameters.getD [])
  | (none, last) =>
    let (last, parameters) := Text.cutFirst ';' last
    (last, parameters.getD [])

namespace Reference

/-- Takes a text apart.  Tabs and line ends have no place in a reference and are dropped. -/
def ofChars (text : List Char) : Except AuthorityProblem Reference :=
  let cs := text.filter fun c => !(c == '\t' || c == '\n' || c == '\r')
  let (scheme, rest) := (schemePart cs).getD ([], cs)
  let endsAuthority (c : Char) := c == '/' || c == '?' || c == '#'
  let (authority, rest) := match rest with
    | '/' :: '/' :: tail => (tail.takeWhile (!endsAuthority ·), tail.dropWhile (!endsAuthority ·))
    | _ => ([], rest)
  let (body, fragment) := Text.cutFirst '#' rest
  let (path, query) := Text.cutFirst '?' body
  (checkAuthority authority).map fun _ =>
    { scheme := scheme.map Char.toLower, authority, path, query := query.getD []
      fragment := fragment.getD [] }

def withParameters (r : Reference) : Reference :=
  if hasScheme schemesWithParameters r.scheme then
    let (path, parameters) := cutParameters r.path
    { r with path, parameters }
  else r

def parse (text : List Char) : Except AuthorityProblem Reference :=
  (ofChars text).map withParameters

/-- A part behind its mark, unless it is missing. -/
def marked (mark : Char) (part : List Char) : List Char :=
  if part.isEmpty then [] else mark :: part

def text (r : Reference) : List Char :=
  let path := r.path ++ marked ';' r.parameters
  let hasAuthority := !r.authority.isEmpty ||
    (!r.scheme.isEmpty && hasScheme schemesWithAuthority r.scheme && path.take 2 != ['/', '/'])
  let rooted := if path.isEmpty || path.head? == some '/' then path else '/' :: path
  let body := if hasAuthority then '/' :: '/' :: r.authority ++ rooted else path
  let scheme := if r.scheme.isEmpty then [] else r.scheme ++ [':']
  scheme ++ body ++ marked '?' r.query ++ marked '#' r.fragment

def host? (r : Reference) : Option (List Char) :=
  let (host, _) := hostAndPort r.authority
  if host.isEmpty then none
  else match Text.cutFirst '%' host with
    | (name, some zone) => some ((Text.lower (String.ofList name)).toList ++ '%' :: zone)
    | (name, none) => some (Text.lower (String.ofList name)).toList

def port? (r : Reference) : Except AuthorityProblem (Option Nat) :=
  let (_, port) := hostAndPort r.authority
  if port.isEmpty then .ok none
  else if !port.all Char.isDigit then .error (.notPort port)
  else if Parse.digitLimit < port.length then .error (.longPort port.length)
  else
    let n := Parse.natOf port
    if n ≤ 65535 then .ok (some n) else .error .portRange

/-- The user and the password, as they are written, when both are there. -/
def userAndPassword? (r : Reference) : Option (List Char × List Char) :=
  match Text.cutLast '@' r.authority with
  | (some userinfo, _) =>
    match Text.cutFirst ':' userinfo with
    | (user, some password) => some (user, password)
    | _ => none
  | _ => none

def isDots (s : List Char) : Bool := s == ['.'] || s == ['.', '.']

/-- One segment after those that were kept: a dot stays, two dots go up. -/
def stepSegment (kept : List (List Char)) (s : List Char) : List (List Char) :=
  if s == ['.'] then kept
  else if s == ['.', '.'] then kept.dropLast
  else kept ++ [s]

def withoutGaps : List (List Char) → List (List Char)
  | [] => []
  | s :: rest =>
    match rest.reverse with
    | [] => [s]
    | last :: inner => s :: (inner.reverse.filter (!·.isEmpty)) ++ [last]

/-- The path of a relative path after another path. -/
def resolvePath (base path : List Char) : List Char :=
  let segments := splitAll '/' path
  let segments :=
    if path.head? == some '/' then segments
    else
      let before := splitAll '/' base
      let before := if before.getLast? == some [] then before else before.dropLast
      withoutGaps (before ++ segments)
  let kept := segments.foldl stepSegment []
  let kept := if segments.getLast?.any isDots then kept ++ [[]] else kept
  let joined := joinAll '/' kept
  if joined.isEmpty then ['/'] else joined

/-- The text of a reference that is resolved against another one. -/
def resolve (base : Reference) (text : List Char) (r : Reference) : List Char :=
  let r := if r.scheme.isEmpty then { r with scheme := base.scheme } else r
  if r.scheme != base.scheme || !hasScheme schemesWithRelatives r.scheme then text
  else
    let withinAuthority := hasScheme schemesWithAuthority r.scheme
    if withinAuthority && !r.authority.isEmpty then r.text
    else
      let r := if withinAuthority then { r with authority := base.authority } else r
      if r.path.isEmpty && r.parameters.isEmpty then
        let query := if r.query.isEmpty then base.query else r.query
        { r with path := base.path, parameters := base.parameters, query }.text
      else { r with path := resolvePath base.path r.path }.text

/-- Resolves a text against another one; an empty text is the other one. -/
def join (base text : List Char) : Except AuthorityProblem (List Char) :=
  if base.isEmpty then .ok text
  else if text.isEmpty then .ok base
  else do
    let b ← parse base
    let r ← parse text
    pure (resolve b text r)

end Reference

end Testbed.Http
