import Testbed.Http.Url

/-!
# Where requests go

A URL whose scheme can be requested names a host and a port, and a path with a query that the host
is asked for.
-/

namespace Testbed.Http

set_option autoImplicit false

structure Target where
  secure : Bool
  host : String
  port : Nat
  /-- The path and the query. -/
  path : String

def AuthorityProblem.fault (p : AuthorityProblem) : Fault := Fault.of (.host .badValue p.message)

def referenceOf (url : List Char) : Except Fault Reference :=
  (Reference.parse url).mapError (·.fault)

def noAdapter (url : List Char) : Fault :=
  urlFault .invalidSchema s!"No connection adapters were found for {quoted url}"

/-- Whether a URL that can be requested is one of a secure scheme. -/
def security? (url : List Char) : Option Bool :=
  let lowered := url.map Char.toLower
  if "https://".toList.isPrefixOf lowered then some true
  else if "http://".toList.isPrefixOf lowered then some false
  else none

/-- The path and the query of a reference as they are asked for; of several slashes in front one is
kept. -/
def askedPath (r : Reference) : List Char :=
  let path := if r.path.isEmpty then ['/'] else r.path
  let path := match path with
    | '/' :: '/' :: rest => '/' :: rest.dropWhile (· == '/')
    | p => p
  let query := if r.query.isEmpty then [] else '?' :: escapeInvalid isQueryChar r.query
  escapeInvalid isPathChar path ++ query

def Target.ofUrl (url : List Char) : Except Fault Target :=
  match security? url with
  | none => .error (noAdapter url)
  | some secure => do
    let r ← (Reference.ofChars url).mapError (·.fault)
    let port ← r.port?.mapError fun p => urlFault .invalidUrl p.message
    match r.host? with
    | none => .error (urlFault .invalidUrl "No host specified.")
    | some host =>
      let standard := if secure then 443 else 80
      pure { secure, host := String.ofList (upperEscapes (host.map Char.toLower))
             port := (port.filter (· != 0)).getD standard
             path := String.ofList (askedPath r) }

end Testbed.Http
