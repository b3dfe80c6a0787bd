import Testbed.Scenario.World

/-!
# The simulated daemon

Containers are numbered in the order in which they come up, and every published port gets the
next port of the host.  The ports of a container that was removed stay dead.  `pass` says how
time passes.
-/

namespace Testbed.Scenario.World

set_option autoImplicit false

def containerId (number : Nat) : String :=
  Decimal.paddedInt 12 (Int.ofNat number) ++ String.ofList (List.replicate 52 'f')

def binding (hostPort : Nat) : Value :=
  .list [.dict [("HostIp", .text "0.0.0.0"),
    ("HostPort", .text (Decimal.ofInt (Int.ofNat hostPort)))]]

/-- What an inspection shows of ports that are published from a host port on. -/
def bindings (first : Nat) : List String → List (String × Value)
  | [] => []
  | p :: rest => Entries.put p (binding first) (bindings (first + 1) rest)

def hold (h : Held) (w : World) : World := { w with held := w.held ++ [h] }

def seed (env : List (String × String)) (w : World) : World :=
  match Entries.get? "POSTGRES_DB" env with
  | some name => { w with databases := Entries.put name false w.databases }
  | none => w

def launch (spec : LaunchSpec) : Act World Container := fun w =>
  let ports := spec.ports.eraseDups
  let c : Container :=
    { id := containerId (w.held.length + 1), name := spec.name, labels := spec.labels }
  let shown := bindings w.nextPort ports
  let held : Held := {
    container := c
    attributes := .dict [("NetworkSettings", .dict [("Ports", .dict shown)])]
    hostPorts := List.range' w.nextPort ports.length }
  (.ok c, { (hold held (seed spec.env w)) with nextPort := w.nextPort + ports.length })

def isSame (a b : Container) : Bool := a.id == b.id && a.name == b.name

def changeHeld (c : Container) (f : Held → Held) : Act World Unit :=
  Act.update fun w =>
    { w with held := w.held.map fun h => if isSame h.container c then f h else h }

def held? (c : Container) (w : World) : Option Held := w.held.find? (isSame ·.container c)

/-- The containers that are there, in the order in which they came up. -/
def present (w : World) : List Container := (w.held.filter (·.present)).map (·.container)

def isDeadPort (w : World) (port : Nat) : Bool :=
  w.held.any fun h => !h.present && h.hostPorts.contains port

def noSuchContainer (c : Container) : Incident :=
  .daemon .notFound s!"No such container: {c.name}" none none

variable (pass : Num → Act World Unit)

def daemon : Daemon World where
  ping := do
    record .pingDaemon
    let _ ← consume pass .pingDaemon
  run spec := do
    record (.runContainer spec)
    let _ ← consume pass .runContainer
    launch spec
  inspect c := do
    record (.inspectContainer c.name)
    let outcome ← consume pass .inspectContainer
    match outcome.attributes with
    | some a => changeHeld c fun h => { h with attributes := a }
    | none => pure ()
    pure (((← Act.read (held? c)).map (·.attributes)).getD (.dict []))
  remove c := do
    record (.removeContainer c.name)
    let _ ← consume pass .removeContainer
    match ← Act.read (held? c) with
    | some { present := true, .. } => changeHeld c fun h => { h with present := false }
    | _ => Act.raise (noSuchContainer c)
  list := do
    record .listContainers
    let _ ← consume pass .listContainers
    Act.read present
  close := do
    record .closeDaemon
    let _ ← consume pass .closeDaemon

end Testbed.Scenario.World
