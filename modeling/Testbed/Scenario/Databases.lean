import Testbed.Fault.Numeral
import Testbed.Scenario.Timeline

/-!
# The simulated database server

One server answers on all ports.  It holds databases, each with its template flag; connections
to a dead port, or to a database that does not exist, are refused.  There is no connecting to a
port that is not a number.
-/

namespace Testbed.Scenario.World

set_option autoImplicit false

def portText (s : Dsn.Settings) : String :=
  let port := s.value "port"
  if port.isEmpty then "5432" else port

def port (s : Dsn.Settings) : Except Fault Int := Numeral.whole (portText s)

def isUnreachable (w : World) (s : Dsn.Settings) : Bool :=
  match port s with
  | .ok i => isDeadPort w i.toNat
  | .error _ => true

def cannotConnect (s : Dsn.Settings) (reason : String) : Incident :=
  let host := s.value "host"
  let server := s!"connection to server at \"{host}\", port {portText s} failed: "
  .sql (.group .operational) none (server ++ reason)

def refusal? (w : World) (s : Dsn.Settings) : Option Incident :=
  let database := s.value "dbname"
  if isUnreachable w s then some (cannotConnect s "Connection refused")
  else if (Entries.get? database w.databases).isNone then
    some (cannotConnect s s!"FATAL:  database \"{database}\" does not exist")
  else none

def connectionClosed : Incident :=
  .sql (.group .interface) none "connection already closed"

def connectionLost : Incident :=
  .sql (.group .operational) none "server closed the connection unexpectedly"

def reported (c : SqlCondition) (code text : String) : Incident :=
  .sql (.condition c) (some code) text

def missingDatabase (what name : String) : Incident :=
  reported .invalidCatalogName missingDatabaseCode s!"{what} \"{name}\" does not exist"

def duplicateDatabase (name : String) : Incident :=
  reported .duplicateDatabase duplicateDatabaseCode s!"database \"{name}\" already exists"

/-- What a statement does to the databases, and whether it returns a row. -/
def apply (databases : List (String × Bool)) :
    Postgres.Statement → Except Incident (Bool × List (String × Bool))
  | .ping => .ok (true, databases)
  | .findDatabase name => .ok ((Entries.get? name databases).isSome, databases)
  | .markTemplate name flag =>
    match Entries.get? name databases with
    | some _ => .ok (false, Entries.put name flag databases)
    | none => .ok (false, databases)
  | .createDatabase name =>
    match Entries.get? name databases with
    | some _ => .error (duplicateDatabase name)
    | none => .ok (false, Entries.put name false databases)
  | .copyDatabase name template =>
    match Entries.get? name databases, Entries.get? template databases with
    | some _, _ => .error (duplicateDatabase name)
    | none, none => .error (missingDatabase "template database" template)
    | none, some _ => .ok (false, Entries.put name false databases)
  | .dropDatabase name =>
    match Entries.get? name databases with
    | none => .error (missingDatabase "database" name)
    | some true => .error (reported .wrongObjectType "42809" "cannot drop a template database")
    | some false => .ok (false, Entries.erase name databases)

def connection? (w : World) : Client → Option (Nat × SqlConnection)
  | .sql number => (w.connections[number - 1]?).map fun c => (number - 1, c)
  | _ => none

def setConnection (place : Nat) (c : SqlConnection) : Act World Unit :=
  Act.update fun w => { w with connections := w.connections.set place c }

def notConnection (member : String) : Incident :=
  .host .missingMember s!"the client has no attribute '{member}'"

def openSql (s : Dsn.Settings) : Act World Client := do
  record (.openSql s)
  let _ ← expect .openSql
  let _ ← Act.ofExcept (port s)
  match ← Act.read (refusal? · s) with
  | some i => Act.raise i
  | none =>
    Act.update fun w => { w with connections := w.connections ++ [{ settings := s }] }
    Act.read fun w => .sql w.connections.length

def executeSql (client : Client) (statement : Postgres.Statement) : Act World Bool := do
  match ← Act.read (connection? · client) with
  | none => Act.raise (notConnection "cursor")
  | some (_, c) =>
    if c.closed then Act.raise connectionClosed
    record (.executeSql (c.settings.value "dbname") statement)
    let _ ← expect .executeSql
    if ← Act.read (isUnreachable · c.settings) then Act.raise connectionLost
    match apply (← Act.read (·.databases)) statement with
    | .error i => Act.raise i
    | .ok (row, databases) =>
      Act.update fun w => { w with databases := databases }
      pure row

def closeSql (client : Client) : Act World Unit := do
  match ← Act.read (connection? · client) with
  | none => Act.raise (notConnection "close")
  | some (place, c) =>
    record (.closeSql (c.settings.value "dbname") c.autocommit)
    let _ ← expect .closeSql
    setConnection place { c with closed := true }

def autocommitSql (client : Client) : Act World Unit := do
  match ← Act.read (connection? · client) with
  | none => Act.raise (notConnection "autocommit")
  | some (place, c) => setConnection place { c with autocommit := true }

def sqlAccess : Postgres.SqlAccess Client World where
  connect := openSql
  autocommit := autocommitSql
  execute := executeSql
  close := closeSql
  diary := diaryAccess

end Testbed.Scenario.World
