import Testbed.Compression.Container
import Testbed.Fault.Basic
import Testbed.Http.Address
import Testbed.Http.Response
import Testbed.Number.Parse
import Testbed.Text.Lowercase

/-!
# Replies as they arrive

A reply has a status, headers and a body.  The headers say how long the body is, how it is packed
and in which encoding its text is.
-/

namespace Testbed.Http

set_option autoImplicit false

structure Reply where
  status : Int := 200
  headers : List (String × String) := []
  body : List UInt8 := []

def replyFault (kind : HttpKind) (text : String) : Fault := Fault.of (.http kind text none)

def withCommas : List String → Option String
  | [] => none
  | s :: rest => some (rest.foldl (fun joined t => joined ++ ", " ++ t) s)

/-- Headers are found whatever the case of their names; those of one name are one list. -/
def Reply.header? (r : Reply) (name : String) : Option String :=
  withCommas ((r.headers.filter fun (k, _) => Text.lower k == Text.lower name).map Prod.snd)

def Reply.headerOr (r : Reply) (name default : String) : String := (r.header? name).getD default

def trimmed (isMargin : Char → Bool) (cs : List Char) : List Char :=
  ((cs.dropWhile isMargin).reverse.dropWhile isMargin).reverse

/-- The items of a list in a header, in lower case and without blanks around them. -/
def listed (s : String) : List String :=
  (splitAll ',' (Text.lower s).toList).map fun w => String.ofList (trimmed Text.isBlank w)

/-- Whether a reply with a status to a request has no body. -/
def isBodiless (method : String) (status : Int) : Bool :=
  status == 204 || status == 304 || (100 ≤ status && status < 200) || method == "HEAD"

/-- The length that a header gives, if it gives one; all its values have to be the same. -/
def statedLength (text : String) : Except Fault (Option Int) :=
  match (splitAll ',' text.toList).mapM fun w => Parse.int? (String.ofList w) with
  | none => .ok none
  | some ns =>
    match ns.eraseDups with
    | [n] => .ok (if n < 0 then none else some n)
    | _ =>
      .error (replyFault .invalidHeader
        s!"Content-Length contained multiple unmatching values ({text})")

/-- The length that a reply to a request announces for its body.  A length is not heeded in a reply
that comes in chunks. -/
def Reply.length? (method : String) (r : Reply) : Except Fault (Option Int) :=
  let implied (stated : Option Int) := if isBodiless method r.status then some 0 else stated
  match r.header? "content-length" with
  | none => .ok (implied none)
  | some text =>
    if (listed (r.headerOr "transfer-encoding" "")).contains "chunked" then .ok none
    else (statedLength text).map implied

def codings : List String := ["gzip", "x-gzip", "deflate"]

def maxCodings : Nat := 5

/-- Unpacks bytes that are packed in one way; a way that is not known counts as the last one. -/
def unpack (coding : String) (data : List UInt8) : Except Compression.Corruption (List UInt8) :=
  if data.isEmpty then .ok []
  else if coding == "gzip" || coding == "x-gzip" then Compression.unpackArchive data
  else Compression.unpackDeflated data

/-- Unpacks bytes that are packed in several ways, one after the other. -/
def unpackAll : List String → List UInt8 → Except Compression.Corruption (List UInt8)
  | [], data => .ok data
  | coding :: rest, data => (unpackAll rest data).bind (unpack coding)

def Reply.codings (r : Reply) : List String :=
  let text := Text.lower (r.headerOr "content-encoding" "")
  let names := listed text
  if Http.codings.contains text then [text]
  else if 1 < names.length && names.any Http.codings.contains then names
  else []

def badPacking (r : Reply) (c : Compression.Corruption) : Fault :=
  let coding := Text.lower (r.headerOr "content-encoding" "")
  let text := Literal.ofText
    s!"Received response with content-encoding: {coding}, but failed to decode it."
  replyFault .contentDecoding s!"({text}, error({Literal.ofText c.message}))"

def badLength (read : Nat) (missing : Int) : Fault :=
  let counts := s!"IncompleteRead({read} bytes read, {missing} more expected)"
  let text := if missing == -Int.ofNat read then "Response may not contain content."
    else s!"Connection broken: {counts}"
  replyFault .chunkedEncoding s!"({Literal.ofText text}, {counts})"

/-- The body of a reply, unpacked, when it has the length that was announced. -/
def Reply.content (length : Option Int) (r : Reply) : Except Fault (List UInt8) := do
  let codings := r.codings
  if maxCodings < codings.length then
    .error (replyFault .contentDecoding
      s!"Too many content encodings in the chain: {codings.length} > {maxCodings}")
  let content ← (unpackAll codings r.body).mapError (badPacking r)
  let missing := (length.getD (Int.ofNat r.body.length)) - Int.ofNat r.body.length
  if missing == 0 then pure content else .error (badLength r.body.length missing)

def isQuoteOrSpace (c : Char) : Bool := c == '"' || c == '\'' || c == ' '

/-- The name of a parameter in lower case, and its value if it has one. -/
def parameter (cs : List Char) : List Char × Option (List Char) :=
  match Text.cutFirst '=' (trimmed Text.isBlank cs) with
  | (name, some value) =>
    ((trimmed isQuoteOrSpace name).map Char.toLower, some (trimmed isQuoteOrSpace value))
  | (name, none) => (name.map Char.toLower, none)

/-- The encoding that a content type declares or implies. -/
def encodingOf? (contentType : String) : Option String :=
  match splitAll ';' contentType.toList with
  | [] => none
  | kind :: rest =>
    let isCharset (p : List Char × Option (List Char)) : Bool := p.1 == "charset".toList
    match ((rest.map parameter).filter isCharset).getLast?.bind Prod.snd with
    | some charset => some (String.ofList charset)
    | none =>
      if Text.holdsChars "text".toList kind then some "ISO-8859-1"
      else if Text.holdsChars "application/json".toList kind then some "utf-8"
      else none

def Reply.encoding? (r : Reply) : Option String := (r.header? "content-type").bind encodingOf?

end Testbed.Http
