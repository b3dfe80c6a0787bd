import Testbed.Dsn.Reader
import Testbed.Instance.ConnectionInfo
import Testbed.Postgres.Statement
import Testbed.Readiness.TimeScale

/-!
# Administration of databases

Databases are created, dropped and looked for through a connection to the maintenance database of
the same server, which is closed again on every path.
-/

namespace Testbed.Postgres

set_option autoImplicit false

/-- What a database client can do; `κ` is the type of connections. -/
structure SqlAccess (κ σ : Type) where
  connect : Dsn.Settings → Act σ κ
  /-- Makes every statement of a connection take effect by itself. -/
  autocommit : κ → Act σ Unit
  /-- Executes a statement; tells whether there is a row. -/
  execute : κ → Statement → Act σ Bool
  close : κ → Act σ Unit
  diary : Diary σ

variable {κ σ α : Type}

def maintenanceDatabase : String := "postgres"

def connectionString (host : String) (port : Int) (name user password sslMode : String) :
    String :=
  let info : ConnectionInfo := { host, port, database := name, user, password, sslMode }
  info.dsn

def badDsn (p : Dsn.Problem) : Fault :=
  match p with
  | .notText part => Fault.of (.host .undecodable part.message)
  | p => Fault.of (.sql (.group .programming) none ("invalid dsn: " ++ p.text ++ "\n"))

def settingsOf (dsn : String) : Except Fault Dsn.Settings := (Dsn.parse dsn).mapError badDsn

def noDatabase : Fault := Fault.of (.host .badValue "Database name is empty.")

def databaseName (dsn : String) : Except Fault String := do
  let name := (← settingsOf dsn).value "dbname"
  if name.isEmpty then .error noDatabase else .ok name

def isSqlFault (f : Fault) : Bool :=
  match f.head with
  | .sql _ _ _ => true
  | _ => false

namespace SqlAccess

def ping (a : SqlAccess κ σ) (c : κ) : Act σ Unit := do
  let _ ← a.execute c .ping

/-- Opens a connection and checks it; one that does not work is closed. -/
def openChecked (a : SqlAccess κ σ) (settings : Dsn.Settings) (timeout : Option Int) :
    Act σ κ := do
  let settings := match timeout with
    | some t => Entries.put "connect_timeout" (Decimal.ofInt t) settings
    | none => settings
  let c ← a.connect settings
  a.autocommit c
  match ← Act.attempt (a.ping c) with
  | .ok _ => pure c
  | .error f =>
    if isSqlFault f then a.close c
    Act.fail f

/-- Opens a connection to the database that a connection string names. -/
def connectTo (a : SqlAccess κ σ) (dsn : String) (timeout : Option Int) : Act σ κ := do
  a.openChecked (← Act.ofExcept (settingsOf dsn)) timeout

/-- Runs an action with a connection to the maintenance database. -/
def withMaintenance (a : SqlAccess κ σ) (timeout : Int) (dsn : String) (body : κ → Act σ α) :
    Act σ α := do
  let settings ← Act.ofExcept (settingsOf dsn)
  let c ← a.openChecked (Entries.put "dbname" maintenanceDatabase settings) (some timeout)
  Act.always (body c) (a.close c)

/-- Executes a statement that may find its work done already; tells whether it took effect. -/
def executeUnless (a : SqlAccess κ σ) (c : κ) (s : Statement) (done : Subject → Bool) :
    Act σ Bool := do
  match ← Act.attempt (a.execute c s) with
  | .ok _ => pure true
  | .error f => if isSqlFault f && done (.fault f) then pure false else Act.fail f

def databaseExists (a : SqlAccess κ σ) (timeout : Int) (dsn : String) : Act σ Bool := do
  let name ← Act.ofExcept (databaseName dsn)
  a.withMaintenance timeout dsn fun c => a.execute c (.findDatabase name)

/-- Creates the database that a connection string names, unless it exists; tells whether it was
created. -/
def createIfMissing (a : SqlAccess κ σ) (timeout : Int) (dsn : String) : Act σ Bool := do
  let name ← Act.ofExcept (databaseName dsn)
  let created ← a.withMaintenance timeout dsn fun c =>
    a.executeUnless c (.createDatabase name) Subject.isDuplicateDatabase
  if created then a.diary.debug .postgresDb s!"Created database '{name}'."
  pure created

/-- Drops the database that a connection string names, if it exists; tells whether it was
dropped. -/
def dropIfExists (a : SqlAccess κ σ) (timeout : Int) (dsn : String) : Act σ Bool := do
  let name ← Act.ofExcept (databaseName dsn)
  let dropped ← a.withMaintenance timeout dsn fun c =>
    a.executeUnless c (.dropDatabase name) Subject.isDatabaseMissing
  if dropped then a.diary.debug .postgresDb s!"Dropped database '{name}'."
  pure dropped

end SqlAccess

/-- The rows that a query has left, and the text of the query if it is known. -/
structure Cursor where
  rows : List (List Value)
  query : Option (List UInt8) := none

def noRows (query : Option (List UInt8)) : Incident :=
  let shown := match query with
    | some bytes => Literal.ofBytes bytes
    | none => "None"
  .recordNotFound s!"No rows returned by: {shown}"

def fetchOne : Act Cursor (List Value) := fun c =>
  match c.rows with
  | row :: rest => (.ok row, { c with rows := rest })
  | [] => (.error (Fault.of (noRows c.query)), c)

end Testbed.Postgres
