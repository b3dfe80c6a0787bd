import Testbed.Instance.Estate
import Testbed.Readiness.Polling

/-!
# Starting instances

A start launches a new container, waits until the service inside it is ready, runs the hooks of
its options and hands out an open handle.  When a step fails the container is destroyed and the
fault names the step.
-/

namespace Testbed

set_option autoImplicit false

variable {η ρ κ σ : Type}

open FamilyAct

/-- What starting an instance relies on besides its service. -/
structure Provisioner (η ρ κ σ : Type) where
  around : Surroundings σ
  /-- A runtime for an instance that is given none. -/
  newRuntime : Act σ (Runtime ρ σ)
  runHook : Backing η ρ κ σ → η → InstanceId → EstateAct ρ κ σ Unit
  hookLabel : η → String
  pollInterval : Num
  maxBackoff : Num
  /-- The most probes of one wait after its first one. -/
  furtherProbes : Nat

/-- The specification of a new container, with the labels that mark it as ours. -/
def labelledSpec (a : Surroundings σ) (s : Service η ρ κ σ) (o : StartOptions η)
    (logicalName : String) : Act σ LaunchSpec := do
  let name ← a.newName logicalName
  let spec ← s.launchSpec name o
  let expiry ← Act.ofExcept (numScale.later (← Act.read a.date) o.timeout)
  let labels := Entries.put Settings.logicalNameLabel logicalName spec.labels
  pure { spec with labels := Entries.put Settings.expiresAtLabel (Decimal.ofNum expiry) labels }

def launchContainer (b : Backing η ρ κ σ) (o : StartOptions η) (logicalName : String) :
    Act σ ρ := do
  let spec ← labelledSpec b.around b.service o logicalName
  Act.orRaise (b.runtime.launch spec) fun e =>
    .setup .launch .launch
      s!"Unable to start {b.service.name} container '{spec.name}': {e.message}"

def ensureClient (b : Backing η ρ κ σ) : FamilyAct ρ κ σ Unit := do
  let h ← handle
  if h.client.isNone then
    let client ← Act.outside (b.service.connect h)
    setHandle fun h => { h with client := some client }

/-- Probes an instance, and gives up its client when the probe fails. -/
def probeClient (b : Backing η ρ κ σ) (endpoint : String) : FamilyAct ρ κ σ Unit := do
  let h ← handle
  match ← Act.outside (Act.attempt (b.service.probe h.client)) with
  | .ok _ => pure ()
  | .error e =>
    setHandle fun h => { h with client := none }
    match h.client with
    | none => pure ()
    | some c =>
      match ← Act.outside (Act.attempt (b.service.closeClient c)) with
      | .ok _ => pure ()
      | .error d =>
        debug b .provisioner s!"Unable to close client of '{endpoint}': {d.message}"
    Act.fail e

/-- One readiness attempt: connects when there is no client, probes, and gives up the client of
a probe that failed. -/
def attemptProbe (b : Backing η ρ κ σ) (endpoint : String) : FamilyAct ρ κ σ Unit := do
  ensureClient b
  probeClient b endpoint

def readinessPolling (p : Provisioner η ρ κ σ) (b : Backing η ρ κ σ) (endpoint : String)
    (timeout : Num) : Polling Num (Family ρ κ × σ) where
  scale := numScale
  clock := { now := fun s => p.around.clock.now s.2
             sleep := fun n => Act.outside (p.around.clock.sleep n) }
  diary := { write := fun l t text s => (s.1, p.around.diary.write l t text s.2) }
  endpoint := endpoint
  probe := attemptProbe b
  timeout := timeout
  interval := p.pollInterval
  maxBackoff := p.maxBackoff
  isTransient := some b.service.isTransient
  probeLimit := p.furtherProbes + 1

/-- Whether a fault says by itself that an instance was not ready in time. -/
def Fault.isReadinessTimeout (f : Fault) : Bool :=
  match f.head with
  | .setup .readinessTimeout _ _ => true
  | _ => false

/-- Connects the client of an instance and waits until the instance answers its probe. -/
def waitReady (p : Provisioner η ρ κ σ) (b : Backing η ρ κ σ) (timeout : Num) :
    FamilyAct ρ κ σ Unit := do
  let h ← handle
  match ← Act.attempt (readinessPolling p b h.endpoint timeout).awaitReady with
  | .ok _ => pure ()
  | .error e =>
    if e.isReadinessTimeout then Act.fail e
    else Act.fail (Fault.raisedFrom
      (.setup .general .readiness
        s!"Could not connect to {b.service.name} at '{h.endpoint}': {e.message}") e)

/-- Destroys an instance that was started in part.  Should that fail, the expiry safeguard is
left to do it. -/
def discard (b : Backing η ρ κ σ) : FamilyAct ρ κ σ Unit := do
  match ← Act.attempt (closeInstance b) with
  | .ok _ => pure ()
  | .error e =>
    match e.head with
    | .teardown _ =>
      warn b .provisioner s!"Unable to destroy partially started instance: {e.message}"
    | _ => Act.fail e

/-- Schedules the removal of a container that is never closed, and finds its address. -/
def findEndpoint (b : Backing η ρ κ σ) (o : StartOptions η) : FamilyAct ρ κ σ Unit := do
  let h ← handle
  Act.outside (Act.orRaise (b.runtime.scheduleExpiry h.container o.timeout) fun e =>
    .setup .launch .expiry s!"Unable to schedule expiry of '{h.logicalName}': {e.message}")
  let endpoint ← Act.outside (b.runtime.endpoint h.container b.service.containerPort)
  setHandle fun h => { h with endpoint := endpoint }

def runHooks (p : Provisioner η ρ κ σ) (b : Backing η ρ κ σ) (id : InstanceId) :
    List η → EstateAct ρ κ σ Unit
  | [] => pure ()
  | hook :: rest => do
    Act.orRaise (p.runHook b hook id) fun e =>
      .setup .postStart .postStart
        s!"Could not run post-start operation {p.hookLabel hook}: {e.message}"
    runHooks p b id rest

/-- All steps from the launched container to the open instance. -/
def bringUp (p : Provisioner η ρ κ σ) (b : Backing η ρ κ σ) (o : StartOptions η)
    (deadline : Num) (id : InstanceId) : EstateAct ρ κ σ Unit := do
  Estate.onFamily id (findEndpoint b o)
  let timeout ← Estate.around (p.around.remaining deadline)
  Estate.onFamily id (waitReady p b timeout)
  runHooks p b id o.hooks
  if o.wantsTemplate then Estate.onFamily id (promote b)

/-- Reaches the daemon and launches the container.  A runtime created for the instance is closed
when that fails. -/
def launchStep (b : Backing η ρ κ σ) (o : StartOptions η) (logicalName : String)
    (owned : Bool) : Act σ ρ :=
  Act.onFault (do b.runtime.ping; launchContainer b o logicalName)
    (if owned then b.runtime.close else pure ())

/-- An instance whose container was launched and that is still to be brought up. -/
structure Launched (η ρ κ σ : Type) where
  backing : Backing η ρ κ σ
  handle : Handle ρ κ
  deadline : Num

/-- Launches the container of a new instance on a given runtime or, when none is given, on one
that is created for the instance. -/
def launchInstance (p : Provisioner η ρ κ σ) (s : Service η ρ κ σ) (o : StartOptions η)
    (runtime : Option (Runtime ρ σ)) : Act σ (Launched η ρ κ σ) := do
  let logicalName := o.nameOr s.defaultLogicalName
  let deadline ← p.around.deadline o.timeout
  let used ← match runtime with
    | some r => pure r
    | none => p.newRuntime
  let backing : Backing η ρ κ σ := { service := s, runtime := used, around := p.around }
  let container ← launchStep backing o logicalName runtime.isNone
  pure { backing, deadline, handle := { container, logicalName, ownsRuntime := runtime.isNone } }

/-- Brings a launched instance up.  When that fails the instance is destroyed. -/
def establish (p : Provisioner η ρ κ σ) (l : Launched η ρ κ σ) (o : StartOptions η) :
    EstateAct ρ κ σ InstanceId := do
  let id ← Estate.enroll l.handle
  Act.onFault (bringUp p l.backing o l.deadline id) (Estate.onFamily id (discard l.backing))
  let name ← Estate.onFamily id (label l.backing)
  Estate.around (p.around.diary.info .provisioner s!"Started {name}")
  pure id

/-- Starts a new instance of a service.  The runtime is given, or created for the instance and
closed with it.  `register` is told the instance right after it was started. -/
def start (p : Provisioner η ρ κ σ) (s : Service η ρ κ σ) (o : StartOptions η)
    (runtime : Option (Runtime ρ σ)) (register : Option (InstanceId → EstateAct ρ κ σ Unit)) :
    EstateAct ρ κ σ InstanceId := do
  if o.wantsTemplate && !s.supportsTemplates then Act.fail (Service.noTemplates s.name)
  let launched ← Estate.around (launchInstance p s o runtime)
  let id ← establish p launched o
  match register with
  | some f => f id
  | none => pure ()
  pure id

end Testbed
