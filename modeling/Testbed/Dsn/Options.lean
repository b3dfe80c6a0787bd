import Testbed.Dsn.Problem
import Testbed.Json.Reader

/-!
# Connection options

The options that a connection string can set, and the decoding of their values in a URI.  Of an
option that is set twice the last value counts.
-/

namespace Testbed.Dsn

set_option autoImplicit false

abbrev Settings := List (String × String)

abbrev Stored := List (String × List UInt8)

def optionNames : List String := [
  "service", "user", "password", "passfile", "channel_binding", "connect_timeout", "dbname",
  "host", "hostaddr", "port", "client_encoding", "options", "application_name",
  "fallback_application_name", "keepalives", "keepalives_idle", "keepalives_interval",
  "keepalives_count", "tcp_user_timeout", "sslmode", "sslnegotiation", "sslcompression",
  "sslcert", "sslkey", "sslcertmode", "sslpassword", "sslrootcert", "sslcrl", "sslcrldir",
  "sslsni", "requirepeer", "require_auth", "ssl_min_protocol_version",
  "ssl_max_protocol_version", "gssencmode", "krbsrvname", "gsslib", "gssdelegation",
  "replication", "target_session_attrs", "load_balance_hosts"]

def percentBytes (token : String) : List Char → Except Problem (List UInt8)
  | [] => .ok []
  | '%' :: a :: b :: rest =>
    match Json.hexValue? a, Json.hexValue? b with
    | some hi, some lo =>
      if hi == 0 && lo == 0 then .error (.zeroByte token)
      else (percentBytes token rest).map (UInt8.ofNat (hi * 16 + lo) :: ·)
    | _, _ => .error (.badPercent token)
  | c :: rest =>
    if c == '%' then .error (.badPercent token)
    else (percentBytes token rest).map (Text.utf8Bytes (String.singleton c) ++ ·)

def decode (token : List Char) : Except Problem (List UInt8) :=
  percentBytes (String.ofList token) token

/-- The name and the value that an option really sets: an old option is another spelling. -/
def respell (name : String) (value : List UInt8) : String × List UInt8 :=
  if name == "requiressl" then
    ("sslmode", Text.utf8Bytes (if value.head? == some 0x31 then "require" else "prefer"))
  else (name, value)

def store (options : Stored) (name : String) (value : List UInt8) (unknown : String → Problem) :
    Except Problem Stored :=
  let (name, value) := respell name value
  if optionNames.contains name then .ok (Entries.put name value options)
  else .error (unknown name)

/-- The texts of stored options, in the order of their names in the list. -/
def Stored.settings (stored : Stored) : List String → Except Problem Settings
  | [] => .ok []
  | name :: rest =>
    match Entries.get? name stored with
    | none => settings stored rest
    | some bytes => do
      let value ← (Text.ofUtf8 bytes).mapError .notText
      let others ← settings stored rest
      pure ((name, value) :: others)

end Testbed.Dsn
