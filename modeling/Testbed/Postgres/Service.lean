import Testbed.Instance.Service
import Testbed.Postgres.Admin

/-!
# PostgreSQL instances

A seeded database can be promoted to a template database, and every clone is a new database
copied from it.
-/

namespace Testbed.Postgres

set_option autoImplicit false

variable {η ρ κ σ : Type}

def superuser : String := "postgres"

def memoryDirectory : String := "/data"

def defaultDatabase : String := "integrationtest"

def port : String := "5432/tcp"

def launchSpec (image name : String) (o : StartOptions η) : LaunchSpec :=
  let database := o.nameOr defaultDatabase
  let env := [("POSTGRES_DB", database), ("POSTGRES_USER", superuser),
    ("POSTGRES_PASSWORD", superuser)]
  { name, image, ports := [port]
    env := if o.wantsMemory then env ++ [("PGDATA", memoryDirectory)] else env
    tmpfs := if o.wantsMemory then [(memoryDirectory, "")] else [] }

def connectionInfo (h : Handle ρ κ) : Except Fault ConnectionInfo := do
  let port ← h.port
  pure { host := h.host, port, database := h.logicalName, user := superuser
         password := superuser }

def onClient (a : SqlAccess κ σ) (h : Handle ρ κ) (s : Statement) : Act σ Unit := do
  match h.client with
  | some c =>
    let _ ← a.execute c s
  | none => Act.raise (.host .missingMember "'NoneType' object has no attribute 'cursor'")

def isOperational (f : Fault) : Bool :=
  match f.head with
  | .sql kind _ _ => kind.toGroup == .operational
  | _ => false

/-- Removes the database of a clone.  A server that is gone took the clone with it. -/
def dropCopy (a : SqlAccess κ σ) (timeout : Int) (info : ConnectionInfo) : Act σ Unit := do
  match ← Act.attempt (a.dropIfExists timeout info.dsn) with
  | .ok _ => pure ()
  | .error f =>
    if isOperational f && f.isTransport then
      a.diary.debug .postgres
        s!"Server of clone '{info.database}' not reachable: {f.message}"
    else Act.fail f

/-- The service, with an image and the timeout of a connection attempt. -/
def service (a : SqlAccess κ σ) (timeout : Int) (image : String) : Service η ρ κ σ where
  name := "postgres"
  containerPort := port
  defaultLogicalName := defaultDatabase
  supportsTemplates := true
  launchSpec name o := pure (launchSpec image name o)
  connectTo info := a.connectTo info.dsn (some timeout)
  probe
    | some c => a.ping c
    | none => Act.raise (.host .missingMember "'NoneType' object has no attribute 'cursor'")
  closeClient := a.close
  isTransient := Fault.isTransport
  connectionInfo := connectionInfo
  setTemplate h flag := onClient a h (.markTemplate h.logicalName flag)
  createCopy h name := onClient a h (.copyDatabase name h.logicalName)
  dropCopy := dropCopy a timeout

end Testbed.Postgres
