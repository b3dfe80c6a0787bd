import Testbed.Http.Redirect
import Testbed.Json.Writer
import Testbed.Text.Uppercase

/-!
# Preparing requests

A request is checked before it is sent: its URL, its body, its authorisation, its target and its
timeout, in this order.
-/

namespace Testbed.Http

set_option autoImplicit false

def checkTimeout (timeout : Option Num) : Except Fault Unit :=
  match timeout with
  | none => .ok ()
  | some t => do
    let _ ← inRange t.toReal?
    if t.atMost 0 then
      .error (Fault.of (.host .badValue
        (s!"Attempted to set connect timeout to {Decimal.ofNum t}, but the timeout cannot be " ++
          "set to a value less than or equal to 0.")))
    else pure ()

def jsonBody (v : Value) : Except Fault String :=
  match Json.write? v with
  | some s => .ok s
  | none => .error (urlFault .invalidJson "Out of range float values are not JSON compliant")

/-- The user and the password in a URL, unless both are empty. -/
def credentialsIn? (r : Reference) : Option (String × String) :=
  match r.userAndPassword? with
  | some (user, password) =>
    if user.isEmpty && password.isEmpty then none else some (unescape user, unescape password)
  | none => none

def prepareRequest (method url : String) (json : Option Value) (timeout : Option Num)
    (credentials : Option (String × String)) : Except Fault Request := do
  let url ← requestUrl url
  let r ← referenceOf url
  let body ← match json with
    | none | some .null => pure none
    | some v => (jsonBody v).map some
  let authorization ← match credentials.or (credentialsIn? r) with
    | some (u, p) => (basicAuthorization u p).map some
    | none => pure none
  let target ← Target.ofUrl url
  checkTimeout timeout
  pure { method := Text.upper method, url, target, timeout, authorization
         contentType := body.map fun _ => "application/json", body }

end Testbed.Http
