import Testbed.Instance.Service
import Testbed.Scenario.Timeline

/-!
# Stub services

A stub is a service without a program behind it.  It notes what it is asked, and its outcomes are
those of the script.
-/

namespace Testbed.Scenario

set_option autoImplicit false

/-- Which failures go away by waiting. -/
inductive Patience where
  | always
  | never
  | transport
  | notPermission
  deriving DecidableEq, Repr

def isPermissionFault (f : Fault) : Bool :=
  match f.head with
  | .host .noPermission _ => true
  | _ => false

def Patience.tolerates : Patience → Fault → Bool
  | always, _ => true
  | never, _ => false
  | transport, f => f.isTransport
  | notPermission, f => !isPermissionFault f

structure StubSetup where
  name : String := "fake"
  containerPort : String := "1234/tcp"
  defaultLogicalName : String := "fakedb"
  supportsTemplates : Bool := true
  image : String := "fake:latest"
  /-- The ports to publish, if not the port of the container alone. -/
  ports : Option (List String) := none
  env : List (String × String) := []
  tmpfs : List (String × String) := []
  memLimit : Option String := none
  ulimits : List Ulimit := []
  labels : List (String × String) := []
  /-- Clients are told no more than the host and the port. -/
  plainInfo : Bool := false
  /-- The operations on stores are left out. -/
  withoutStores : Bool := false
  patience : Option Patience := none
  deriving Inhabited

namespace StubSetup

variable {ρ κ η : Type}

def launchSpec (s : StubSetup) (name : String) : LaunchSpec where
  name := name
  image := s.image
  ports := s.ports.getD [s.containerPort]
  env := s.env
  tmpfs := s.tmpfs
  memLimit := s.memLimit
  ulimits := s.ulimits
  labels := s.labels

/-- The host, the port, and the logical name as the database. -/
def connectionInfo (h : Handle ρ κ) : Except Fault ConnectionInfo := do
  let port ← h.port
  pure { host := h.host, port, database := h.logicalName }

end StubSetup

namespace World

def Client.stub? : Client → Option Nat
  | .stub n => some n
  | _ => none

def ask (e : Event) (t : Target) : Act World Unit := do
  record e
  let _ ← expect t

def connectStub (info : ConnectionInfo) : Act World Client := do
  ask (.connectStub info) .connectStub
  Act.update fun w => { w with stubs := w.stubs ++ [false] }
  Act.read fun w => .stub w.stubs.length

def probeStub (client : Option Client) : Act World Unit := do
  let number := client.bind Client.stub?
  ask (.probeStub number) .probeStub
  let closed ← Act.read fun w => number.bind fun n => w.stubs[n - 1]?
  if closed != some false then
    Act.raise (.host .brokenConnection "connection already closed")

def closeStub (client : Client) : Act World Unit := do
  let number := (Client.stub? client).getD 0
  ask (.closeStub number) .closeStub
  Act.update fun w => { w with stubs := w.stubs.set (number - 1) true }

variable {η ρ : Type}

def stubService (s : StubSetup) : Service η ρ Client World :=
  let base : Service η ρ Client World := {
    name := s.name
    containerPort := s.containerPort
    defaultLogicalName := s.defaultLogicalName
    supportsTemplates := s.supportsTemplates
    launchSpec := fun name _ => do
      let _ ← expect .describeStub
      pure (s.launchSpec name)
    connectTo := connectStub
    probe := probeStub
    closeClient := closeStub
    isTransient := fun f => (s.patience.getD .always).tolerates f
    connectionInfo := if s.plainInfo then Service.plainInfo else StubSetup.connectionInfo
    setTemplate := fun h flag => ask (.markStub h.logicalName flag) .markStub
    createCopy := fun h copy => ask (.copyStub h.logicalName copy) .copyStub
    dropCopy := fun info => ask (.dropStub info.database) .dropStub }
  let plain : Service η ρ Client World := Service.abstract s.name
  if s.withoutStores then
    { base with
      setTemplate := plain.setTemplate
      createCopy := plain.createCopy
      dropCopy := plain.dropCopy }
  else base

end World

end Testbed.Scenario
