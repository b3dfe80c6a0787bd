import Testbed.Fault.Basic
import Testbed.Http.Escape
import Testbed.Http.Reference
import Testbed.Idna.Label

/-!
# URLs of requests

Before a request is sent its URL is taken apart, checked and brought to a normal form.  Existing
escapes are kept, everything else that may not stand in a URL is escaped, and a host beyond ASCII
is written in its ASCII form.
-/

namespace Testbed.Http

set_option autoImplicit false

def urlFault (kind : HttpKind) (text : String) : Fault := Fault.of (.http kind text none)

def unparsable (what : String) : Fault := urlFault .invalidUrl s!"Failed to parse: {what}"

def quoted (cs : List Char) : String := Literal.ofText (String.ofList cs)

/-- The parts of a URL, before any of them is checked. -/
structure UrlParts where
  scheme : Option (List Char)
  authority : Option (List Char)
  path : List Char
  query : Option (List Char)
  fragment : Option (List Char)

def startsLikeUrl (cs : List Char) : Bool :=
  cs.head? == some '/' ||
    match schemePart cs with
    | some (scheme, _) => !scheme.contains '.'
    | none => false

/-- Takes a URL apart; a text without a start of a URL begins with its authority. -/
def UrlParts.of (url : List Char) : UrlParts :=
  let url := if startsLikeUrl url then url else '/' :: '/' :: url
  let (scheme, rest) := match schemePart url with
    | some (s, rest) => (some s, rest)
    | none => (none, url)
  let endsAuthority (c : Char) := c == '/' || c == '?' || c == '#' || c == '\\'
  let (authority, rest) := match rest with
    | '/' :: '/' :: tail => (some (tail.takeWhile (!endsAuthority ·)),
        tail.dropWhile (!endsAuthority ·))
    | _ => (none, rest)
  let (body, fragment) := Text.cutFirst '#' rest
  let (path, query) := Text.cutFirst '?' body
  { scheme := scheme.map (·.map Char.toLower), authority, path, query, fragment }

/-- Resolves the segments of a path that mean "here" and "up". -/
def resolveDots (path : List Char) : List Char :=
  let segments := splitAll '/' path
  let kept := segments.foldl Reference.stepSegment []
  let rooted := path.head? == some '/'
  let kept := if rooted && kept.head? != some [] then [] :: kept else kept
  let kept := if 1 < segments.length && segments.getLast?.any Reference.isDots then kept ++ [[]]
    else kept
  joinAll '/' kept

/-- A port as it is written: nothing, or up to five digits after leading zeros. -/
def isPort (cs : List Char) : Bool :=
  cs.all Char.isDigit && (cs.dropWhile (· == '0')).length ≤ 5

def isRegisteredName : List Char → Bool
  | [] => true
  | '%' :: a :: b :: rest => isHexDigit a && isHexDigit b && isRegisteredName rest
  | c :: rest =>
    !(c == '[' || c == ']' || c == '%' || c == ':' || c == '/' || c == '?' || c == '#') &&
      isRegisteredName rest

def isZone : List Char → Bool
  | [] => true
  | '%' :: a :: b :: rest => isHexDigit a && isHexDigit b && isZone rest
  | c :: rest => Text.isUnreserved c && isZone rest

/-- The zone after the percent sign of an address, which may be escaped.  A zone is not empty. -/
def zone? (cs : List Char) : Option (List Char) :=
  match cs with
  | '2' :: '5' :: rest =>
    if !rest.isEmpty && isZone rest then some rest
    else if isZone cs then some cs else none
  | [] => none
  | _ => if isZone cs then some cs else none

/-- An address in brackets, in lower case and with its zone escaped. -/
def numericHost? (inner : List Char) : Option (List Char) :=
  match Text.cutFirst '%' inner with
  | (address, none) =>
    if isIpv6 address then some ('[' :: inner.map Char.toLower ++ [']']) else none
  | (address, some zone) =>
    if isIpv6 address then
      (zone? zone).map fun zone =>
        '[' :: address.map Char.toLower ++ '%' :: escapeInvalid Text.isUnreserved zone ++ [']']
    else none

def hostPort? (cs : List Char) : Option (List Char × List Char) :=
  let ported (host : List Char) : List Char → Option (List Char × List Char)
    | [] => some (host, [])
    | ':' :: port => if isPort port then some (host, port) else none
    | _ => none
  match cs with
  | '[' :: inner =>
    match Text.cutFirst ']' inner with
    | (address, some rest) =>
      if (numericHost? address).isSome then ported ('[' :: address ++ [']']) rest else none
    | _ => none
  | _ =>
    let host := cs.takeWhile (· != ':')
    if isRegisteredName host then ported host (cs.drop host.length) else none

def isBarred (c : Char) : Bool := c.toNat ≤ 32 || c.toNat == 127

def barredIn (cs : List Char) (c : Char) : Fault :=
  unparsable s!"Host {quoted cs} contains invalid character {quoted [c]}"

def isNormalScheme (scheme : Option (List Char)) : Bool :=
  match scheme with
  | none => true
  | some s => s == "http".toList || s == "https".toList

def asciiLabel (label : List Char) : Except Fault (List Char) :=
  if label.all (·.toNat < 128) then .ok (label.map Char.toLower)
  else match Idna.encode? (Text.lower (String.ofList label)).toList with
    | some ascii => .ok ascii
    | none =>
      .error (unparsable s!"Name '{String.ofList label}' is not a valid IDNA label")

def normalHost (host : List Char) : Except Fault (List Char) :=
  match host.find? isBarred with
  | some c => .error (barredIn host c)
  | none =>
    match host with
    | '[' :: inner => .ok ((numericHost? inner.dropLast).getD host)
    | _ => do pure (joinAll '.' (← (splitAll '.' host).mapM asciiLabel))

structure CheckedUrl where
  userinfo : Option (List Char)
  host : List Char
  port : Option Nat
  path : List Char
  query : Option (List Char)
  fragment : Option (List Char)

/-- Checks the parts of a URL and brings them to a normal form. -/
def checkParts (url : List Char) (p : UrlParts) : Except Fault CheckedUrl := do
  let normal := isNormalScheme p.scheme
  let clean (allowed : Char → Bool) (cs : List Char) :=
    if normal then escapeInvalid allowed cs else cs
  let (userinfo, address) := Text.cutLast '@' (p.authority.getD [])
  let (host, port) ← match hostPort? address with
    | some r => pure r
    | none =>
      match address.find? isBarred with
      | some c => .error (barredIn address c)
      | none => .error (unparsable s!"{quoted address} is not a valid host or port")
  let port := if port.isEmpty then none else some (Parse.natOf port)
  if port.any (65535 < ·) then .error (unparsable (String.ofList url))
  let host ← if normal then normalHost host else pure host
  pure {
    host, port
    userinfo := (userinfo.filter (!·.isEmpty)).map (clean isUserChar)
    path := if normal then escapeInvalid isPathChar (resolveDots p.path) else p.path
    query := p.query.map (clean isQueryChar)
    fragment := p.fragment.map (clean isQueryChar) }

def checkedHost (url host : List Char) : Except Fault (List Char) :=
  let badLabel := urlFault .invalidUrl "URL has an invalid label."
  if host.isEmpty then
    .error (urlFault .invalidUrl s!"Invalid URL {quoted url}: No host supplied")
  else if !host.all (·.toNat < 128) then
    match (splitAll '.' (Text.lower (String.ofList host)).toList).mapM Idna.encodeAny? with
    | some labels => .ok (joinAll '.' labels)
    | none => .error badLabel
  else if host.head? == some '*' || host.head? == some '.' then .error badLabel
  else .ok host

def noScheme (url : List Char) : Fault :=
  let text := String.ofList url
  urlFault .missingSchema
    (s!"Invalid URL {quoted url}: No scheme supplied. " ++ s!"Perhaps you meant https://{text}?")

def normalUrl (url : List Char) : Except Fault (List Char) := do
  let p := UrlParts.of url
  let u ← checkParts url p
  match p.scheme with
  | none => .error (noScheme url)
  | some scheme =>
    let host ← checkedHost url u.host
    let userinfo := (u.userinfo.map (· ++ ['@'])).getD []
    let port := match u.port.filter (· != 0) with
      | some n => ':' :: (toString n).toList
      | none => []
    let r : Reference := {
      scheme, authority := userinfo ++ host ++ port
      path := if u.path.isEmpty then ['/'] else u.path
      query := u.query.getD [], fragment := u.fragment.getD [] }
    pure (requote r.text)

/-- The URL of a request.  White space in front is ignored, and URLs of schemes of their own are
left as they are. -/
def requestUrl (url : String) : Except Fault (List Char) :=
  let cs := url.toList.dropWhile Text.isBlank
  if cs.contains ':' && !"http".toList.isPrefixOf (cs.map Char.toLower) then .ok cs
  else normalUrl cs

end Testbed.Http
