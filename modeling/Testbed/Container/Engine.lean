import Testbed.Container.Expiry
import Testbed.Instance.Backing

/-!
# The container engine

The engine launches, inspects, expires and terminates containers through a daemon.  Containers
remove themselves when they stop, and carry labels by which leftovers are found.
-/

namespace Testbed

set_option autoImplicit false

structure Container where
  id : String
  name : String
  labels : List (String × String) := []
  deriving Inhabited

structure Daemon (σ : Type) where
  ping : Act σ Unit
  run : LaunchSpec → Act σ Container
  /-- Reloads what is known of a container. -/
  inspect : Container → Act σ Value
  remove : Container → Act σ Unit
  /-- The containers that carry our label. -/
  list : Act σ (List Container)
  close : Act σ Unit

structure Engine (σ : Type) where
  /-- Tells the containers of one engine from those of another on a shared board. -/
  number : Nat
  /-- Where published ports are reached. -/
  hostname : String
  daemon : Daemon σ
  board : Slot σ ExpiryBoard
  /-- Makes a new timer run for a number of seconds, and tells when it goes off. -/
  startTimer : Num → Act σ Float
  around : Surroundings σ

variable {σ : Type}

def Fault.isRemovalInProgress (f : Fault) : Bool :=
  match f.head with
  | .daemon _ _ (some r) _ => r.status.same 409 && Text.holds "in progress" f.message
  | _ => false

def Fault.isContainerGone (f : Fault) : Bool :=
  match f.head with
  | .daemon .notFound _ _ _ | .daemon .imageNotFound _ _ _ => true
  | _ => false

def Fault.isDaemonReply (f : Fault) : Bool :=
  match f.head with
  | .daemon .general _ _ _ => false
  | .daemon _ _ _ _ => true
  | _ => false

def Fault.isDaemonFault (f : Fault) : Bool :=
  match f.head with
  | .daemon _ _ _ _ => true
  | _ => false

namespace Engine

def key (e : Engine σ) (c : Container) : ContainerKey := (e.number, c.id)

def onBoard (e : Engine σ) (f : ExpiryBoard → ExpiryBoard) : Act σ Unit :=
  Act.update fun s => e.board.set (f (e.board.get s)) s

/-- Reports a failing daemon as a runtime that is not available. -/
def available {α : Type} (x : Act σ α) (text : String) : Act σ α := do
  match ← Act.attempt x with
  | .ok a => pure a
  | .error f =>
    if f.isDaemonFault then
      Act.fail (Fault.raisedFrom
        (.setup .runtimeUnavailable .runtime s!"{text}: {f.message}") f)
    else Act.fail f

def ping (e : Engine σ) : Act σ Unit :=
  available e.daemon.ping "Docker daemon is not responding"

def launch (e : Engine σ) (spec : LaunchSpec) : Act σ Container := do
  let ours := Entries.put Settings.containerLabel "1" ([] : List (String × String))
  let labels := spec.labels.foldl (fun acc (k, v) => Entries.put k v acc) ours
  e.around.diary.info .runtime
    s!"Launching container '{spec.name}' from image '{spec.image}'."
  let began ← Act.read e.around.clock.now
  let c ← e.daemon.run { spec with labels := labels }
  let ended ← Act.read e.around.clock.now
  let took ← Act.ofExcept (numScale.brief ((Num.sub? ended began).getD 0))
  let short := String.ofList (c.id.toList.take 12)
  e.around.diary.debug .runtime s!"Container '{spec.name}' (ID: {short}) launched in {took}s"
  pure c

/-- The number of inspections in which a port may be found published. -/
def inspections : Nat := 10

def cannotInspect (c : Container) (f : Fault) : Fault :=
  Fault.raisedFrom
    (.setup .general .endpoint s!"Unable to inspect container '{c.name}': {f.message}") f

def notPublished (c : Container) (port : String) : Fault :=
  Fault.of (.setup .general .endpoint
    s!"Port '{port}' of container '{c.name}' is not published.")

def kindName : Value → String
  | .null => "NoneType"
  | .bool _ => "bool"
  | .num (.int _) => "int"
  | .num (.real _) => "float"
  | .text _ => "str"
  | .list _ => "list"
  | .dict _ => "dict"

def noEntries (v : Value) : Fault :=
  Fault.of (.host .missingMember s!"'{kindName v}' object has no attribute 'get'")

def noItems (v : Value) : Fault :=
  Fault.of (.host .badArgument s!"'{kindName v}' object is not iterable")

/-- The entry of a dictionary; an absent or vacant one is null. -/
def entry (v : Value) (name : String) : Except Fault Value :=
  match v with
  | .dict es =>
    match Entries.get? name es with
    | some w => .ok (if w.isVacant then .null else w)
    | none => .ok .null
  | w => .error (noEntries w)

/-- A vacant value in the place of a dictionary holds nothing. -/
def orEmpty : Value → Value
  | .null => .dict []
  | v => v

def hostPorts : List Value → Except Fault (List String)
  | [] => .ok []
  | b :: rest => do
    let port ← entry b "HostPort"
    let more ← hostPorts rest
    match port with
    | .null => pure more
    | p => pure (p.display :: more)

/-- The items of a value: those of a list, the keys of a dictionary, the characters of a text. -/
def items : Value → Except Fault (List Value)
  | .null => .ok []
  | .list vs => .ok vs
  | .dict es => .ok (es.map fun (k, _) => .text k)
  | .text s => .ok (s.toList.map fun c => .text (String.singleton c))
  | v => .error (noItems v)

def published (attributes : Value) (port : String) : Except Fault (List String) := do
  let network ← entry attributes "NetworkSettings"
  let ports ← entry (orEmpty network) "Ports"
  let bindings ← entry (orEmpty ports) port
  hostPorts (← items bindings)

/-- Inspects a container up to a number of times until a port is published. -/
def findEndpoint (e : Engine σ) (c : Container) (port : String) : Nat → Act σ String
  | 0 => Act.fail (notPublished c port)
  | n + 1 => do
    match ← Act.attempt (e.daemon.inspect c) with
    | .error f => if f.isDaemonFault then Act.fail (cannotInspect c f) else Act.fail f
    | .ok attributes =>
      match ← Act.ofExcept (published attributes port) with
      | first :: _ => pure (Endpoint.join e.hostname first)
      | [] =>
        e.around.clock.sleep (.real 0.2)
        findEndpoint e c port n

/-- Schedules the removal of a container, in the place of an earlier schedule. -/
def scheduleExpiry (e : Engine σ) (c : Container) (seconds : Num) : Act σ Unit := do
  e.onBoard (·.register (e.key c))
  let serial ← Act.read fun s => (e.board.get s).newest
  let due ← e.startTimer seconds
  e.onBoard (·.arm { serial, key := e.key c, label := "expire-" ++ c.name, due })
  e.around.diary.debug .runtime
    s!"Container '{c.name}' expires in {Decimal.ofNum seconds}s."

def cancelExpiry (e : Engine σ) (c : Container) : Act σ Unit := e.onBoard (·.cancel (e.key c))

/-- Removes a container whose time has passed; the timer is no longer running. -/
def expire (e : Engine σ) (c : Container) : Act σ Unit := do
  e.onBoard (·.unregister (e.key c))
  e.around.diary.warning .runtime s!"Container '{c.name}' expired, force-terminating it."
  match ← Act.attempt (e.daemon.remove c) with
  | .ok _ => pure ()
  | .error f =>
    if f.isContainerGone then pure ()
    else if f.isDaemonFault then
      e.around.diary.warning .runtime
        s!"Failed to remove expired container '{c.name}': {f.message}"
    else Act.fail f

inductive Removal where
  | removed
  | gone
  | inProgress

/-- Removes a container, unless it is gone or going. -/
def remove (e : Engine σ) (c : Container) : Act σ Removal := do
  match ← Act.attempt (e.daemon.remove c) with
  | .ok _ => pure .removed
  | .error f =>
    if f.isContainerGone then pure .gone
    else if f.isDaemonReply && f.isRemovalInProgress then pure .inProgress
    else Act.fail f

/-- Stops and removes a container together with its volumes. -/
def terminate (e : Engine σ) (c : Container) : Act σ Unit := do
  e.cancelExpiry c
  match ← e.remove c with
  | .removed => e.around.diary.info .runtime s!"Removed container '{c.name}'"
  | .gone => e.around.diary.debug .runtime s!"Container '{c.name}' already removed"
  | .inProgress =>
    e.around.diary.debug .runtime s!"Removal of container '{c.name}' already in progress"

def runtime (e : Engine σ) : Runtime Container σ where
  ping := e.ping
  launch := e.launch
  scheduleExpiry := e.scheduleExpiry
  endpoint c port := e.findEndpoint c port inspections
  terminate := e.terminate
  close := e.daemon.close

end Engine

end Testbed
