import Testbed.Dsn.Options
import Testbed.Text.Cut

/-!
# Connection URIs

A URI names a user and a password, one or more hosts with ports, a database and further options.
All parts are percent-encoded.
-/

namespace Testbed.Dsn

set_option autoImplicit false

def uriStarts : List String := ["postgresql://", "postgres://"]

def afterStart? (cs : List Char) : Option (List Char) :=
  uriStarts.findSome? fun s => if s.toList.isPrefixOf cs then some (cs.drop s.length) else none

/-- Sets an option to a decoded token, unless the token is empty. -/
def storeToken (stored : Stored) (name : String) (token : List Char) : Except Problem Stored :=
  if token.isEmpty then .ok stored
  else do
    let v ← decode token
    store stored name v .unknownOption

/-- The user and the password in front of an at sign, which must come before any slash. -/
def credentials (stored : Stored) (cs : List Char) :
    Except Problem (Stored × List Char) := do
  match cs.dropWhile fun c => !(c == '@' || c == '/') with
  | '@' :: rest =>
    let info := cs.takeWhile (· != '@')
    let (user, password) := Text.cutFirst ':' info
    let stored ← storeToken stored "user" user
    let stored ← storeToken stored "password" (password.getD [])
    pure (stored, rest)
  | _ => pure (stored, cs)

def endsHost (c : Char) : Bool := c == ':' || c == '/' || c == '?' || c == ','

/-- A host at the front of a text; `uri` is the whole URI. -/
def host (uri cs : List Char) : Except Problem (List Char × List Char) :=
  match cs with
  | '[' :: inner =>
    match Text.cutFirst ']' inner with
    | (_, none) => .error (.unclosedBracket (String.ofList uri))
    | ([], _) => .error (.emptyBracket (String.ofList uri))
    | (h, some rest) =>
      match rest with
      | [] => .ok (h, [])
      | c :: _ =>
        if endsHost c then .ok (h, rest)
        else
          let left := Text.utf8Bytes (String.ofList rest)
          let position := (Text.utf8Bytes (String.ofList uri)).length - left.length + 1
          .error (.afterBracket (left.headD 0) position (String.ofList uri))
  | _ => .ok (cs.takeWhile (!endsHost ·), cs.dropWhile (!endsHost ·))

/-- A port after its colon. -/
def portPart (cs : List Char) : List Char × List Char :=
  let stops (c : Char) := c == '/' || c == '?' || c == ','
  (cs.takeWhile (!stops ·), cs.dropWhile (!stops ·))

/-- Hosts and ports, separated by commas, each joined by commas again.  The fuel is the number of
characters left. -/
def hosts (uri : List Char) : Nat → List Char → List Char → List Char →
    Except Problem (List Char × List Char × List Char)
  | 0, hs, ps, cs => .ok (hs, ps, cs)
  | fuel + 1, hs, ps, cs => do
    let (h, rest) ← host uri cs
    let (p, rest) := match rest with
      | ':' :: tail => portPart tail
      | _ => ([], rest)
    match rest with
    | ',' :: tail => hosts uri fuel (hs ++ h ++ [',']) (ps ++ p ++ [',']) tail
    | _ => pure (hs ++ h, ps ++ p, rest)

def respellParameter (name value : List UInt8) : List UInt8 × List UInt8 :=
  if name == Text.utf8Bytes "ssl" && value == Text.utf8Bytes "true" then
    (Text.utf8Bytes "sslmode", Text.utf8Bytes "require")
  else (name, value)

def parameter (stored : Stored) (cs : List Char) : Except Problem Stored := do
  match Text.cutFirst '=' cs with
  | (n, none) => .error (.missingSeparator (String.ofList n))
  | (n, some v) =>
    if v.contains '=' then .error (.extraSeparator (String.ofList n))
    else
      let n ← decode n
      let v ← decode v
      let (n, v) := respellParameter n v
      store stored (Text.ofUtf8Lossy n) v .unknownParameter

/-- The parameters of a query, separated by ampersands.  The fuel is the number of characters
left. -/
def parameters : Nat → Stored → List Char → Except Problem Stored
  | 0, stored, _ => .ok stored
  | _ + 1, stored, [] => .ok stored
  | fuel + 1, stored, cs => do
    let (one, more) := Text.cutFirst '&' cs
    let stored ← parameter stored one
    parameters fuel stored (more.getD [])

def ofUri (uri body : List Char) : Except Problem Stored := do
  let (stored, rest) ← credentials [] body
  let (hs, ps, rest) ← hosts uri (rest.length + 1) [] [] rest
  let stored ← storeToken stored "host" hs
  let stored ← storeToken stored "port" ps
  let (stored, query) ← match rest with
    | '/' :: path =>
      let (db, query) := Text.cutFirst '?' path
      (storeToken stored "dbname" db).map fun s => (s, query.getD [])
    | '?' :: query => pure (stored, query)
    | _ => pure (stored, [])
  parameters (query.length + 1) stored query

end Testbed.Dsn
