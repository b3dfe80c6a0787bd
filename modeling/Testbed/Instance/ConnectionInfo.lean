import Testbed.Fault.Numeral
import Testbed.Text.Cut
import Testbed.Text.Percent

/-!
# Connection details

Where a running instance or a clone is reached, and the connection string built from it.
-/

namespace Testbed

set_option autoImplicit false

structure ConnectionInfo where
  host : String
  port : Int
  database : String := ""
  user : String := ""
  password : String := ""
  scheme : String := "postgres"
  sslMode : String := "disable"
  deriving Inhabited, DecidableEq

namespace ConnectionInfo

/-- The user and, if there is one, the password, up to the at sign. -/
def userinfo (c : ConnectionInfo) : String :=
  if c.user.isEmpty then ""
  else
    let user := Text.percentComponent c.user
    if c.password.isEmpty then user ++ "@"
    else user ++ ":" ++ Text.percentComponent c.password ++ "@"

def query (c : ConnectionInfo) : String :=
  if c.sslMode.isEmpty then "" else "?sslmode=" ++ Text.percentQuery c.sslMode

def dsn (c : ConnectionInfo) : String :=
  let start := if c.scheme.isEmpty then "//" else c.scheme ++ "://"
  start ++ c.userinfo ++ c.host ++ ":" ++ Decimal.ofInt c.port ++ "/" ++ c.database ++ c.query

end ConnectionInfo

/-! An address is a host and a port, cut at the last colon. -/

namespace Endpoint

def join (host port : String) : String := host ++ ":" ++ port

def host (endpoint : String) : String :=
  match Text.cutLast ':' endpoint.toList with
  | (some before, _) => String.ofList before
  | (none, all) => String.ofList all

def port (endpoint : String) : Except Fault Int :=
  match Text.cutLast ':' endpoint.toList with
  | (none, _) => .error (Fault.of (.host .badIndex "list index out of range"))
  | (some _, after) => Numeral.whole (String.ofList after)

end Endpoint

end Testbed
