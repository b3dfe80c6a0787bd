import Testbed.Http.Authorization
import Testbed.Http.Exchange

/-!
# Redirects

A reply may send a request elsewhere.  The new URL may be relative, the method may change and the
body be dropped, and the password is kept from strangers.
-/

namespace Testbed.Http

set_option autoImplicit false

variable {σ : Type}

def movedStatuses : List Int := [301, 302, 303, 307, 308]

/-- The statuses that leave the method and the body of a request alone. -/
def repeatingStatuses : List Int := [307, 308]

def maxRedirects : Nat := 30

/-- Where a reply sends a request, if it does.  Headers are bytes that are read as UTF-8. -/
def Reply.location? (r : Reply) : Except Fault (Option (List Char)) :=
  match r.header? "location" with
  | none => .ok none
  | some text =>
    if movedStatuses.contains r.status then do
      let bytes ← latin1Bytes text
      let location ← (Text.ofUtf8 bytes).mapError fun i => Fault.of (.host .undecodable i.message)
      pure (if location.isEmpty then none else some location.toList)
    else .ok none

/-- The URL that a location names, seen from another URL whose fragment may carry over; and the
fragment that carries over from there. -/
def relocate (url fragment location : List Char) : Except Fault (List Char × List Char) := do
  let location ←
    if location.take 2 == ['/', '/'] then do
      pure ((← referenceOf url).scheme ++ ':' :: location)
    else pure location
  let r ← referenceOf location
  let fragment := if r.fragment.isEmpty then fragment else r.fragment
  let r := { r with fragment }
  let text := requote r.text
  let url ←
    if r.authority.isEmpty then (Reference.join url text).mapError (·.fault) else pure text
  pure (url, fragment)

def methodAfter (status : Int) (method : String) : String :=
  if (status == 303 || status == 302) && method != "HEAD" then "GET"
  else if status == 301 && method == "POST" then "GET"
  else method

def standardPorts (scheme : List Char) : List (Option Nat) :=
  if scheme == "http".toList then [some 80, none]
  else if scheme == "https".toList then [some 443, none]
  else [none]

/-- Whether a password for one URL is kept from another. -/
def isStranger (old new : Reference) : Except AuthorityProblem Bool := do
  if old.host? != new.host? then pure true
  else
    let http := "http".toList
    let https := "https".toList
    let oldPort ← old.port?
    let newPort ← new.port?
    let isUpgrade := old.scheme == http && (standardPorts http).contains oldPort &&
      new.scheme == https && (standardPorts https).contains newPort
    let sameScheme := old.scheme == new.scheme
    let standard := standardPorts old.scheme
    if isUpgrade then pure false
    else if sameScheme && standard.contains oldPort && standard.contains newPort then pure false
    else pure (oldPort != newPort || !sameScheme)

/-- A request that a reply with a status sends to another URL. -/
def Request.redirected (req : Request) (status : Int) (url : List Char) : Except Fault Request := do
  let keepsBody := repeatingStatuses.contains status
  let new ← referenceOf url
  let authorization ← match req.authorization with
    | none => pure none
    | some a => do
      let old ← referenceOf req.url
      pure (if ← (isStranger old new).mapError (·.fault) then none else some a)
  pure { req with
    url, authorization
    method := methodAfter status req.method
    contentType := if keepsBody then req.contentType else none
    body := if keepsBody then req.body else none
    target := ← Target.ofUrl url }

/-- Follows redirects of a request whose reply has arrived, as long as there are any; the number is
that of the redirects left. -/
def follow (w : Wire σ) : Nat → Request → Reply → List Char → List Char → Act σ Response
  | 0, _, _, _, _ =>
    Act.fail (urlFault .tooManyRedirects s!"Exceeded {maxRedirects} redirects.")
  | left + 1, req, r, fragment, location => do
    let (url, fragment) ← Act.ofExcept (relocate req.url fragment location)
    let next ← Act.ofExcept (req.redirected r.status url)
    let a ← exchangeRepeatedly w next maxRetries
    let response ← Act.ofExcept (a.response w.guess)
    match ← Act.ofExcept a.reply.location? with
    | none => pure response
    | some location => follow w left next a.reply fragment location

def send (w : Wire σ) (req : Request) : Act σ Response := do
  let a ← exchangeRepeatedly w req maxRetries
  match ← Act.ofExcept a.reply.location? with
  | none => Act.ofExcept (a.response w.guess)
  | some location => do
    let r ← Act.ofExcept (referenceOf req.url)
    follow w maxRedirects req a.reply r.fragment location

end Testbed.Http
