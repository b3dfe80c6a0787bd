import Testbed.Cache
import Testbed.Container.Reap
import Testbed.Journal.Basic
import Testbed.Provision

/-!
# Sessions of tests

All tests of a session share one engine.  Leftovers of earlier sessions are removed at its
start, and the instances that could not be started are listed at its end.
-/

namespace Testbed

set_option autoImplicit false

variable {η ρ κ σ : Type}

def Fault.isUnavailable (f : Fault) : Bool :=
  match f.head with
  | .setup .runtimeUnavailable _ _ => true
  | _ => false

/-- Reaches the daemon; when there is none, the tests of the session are skipped. -/
def reachEngine (newEngine : Act σ (Engine σ)) : Act σ (Engine σ) := do
  match ← Act.attempt (do let e ← newEngine; e.ping; pure e) with
  | .ok e => pure e
  | .error f =>
    if f.isUnavailable then
      Act.raise (.skipped s!"Docker is not available: {f.message}")
    else Act.fail f

def beginSession (newEngine : Act σ (Engine σ)) (j : JournalAccess σ) (keepRunning : Bool) :
    Act σ (Engine σ) := do
  let e ← reachEngine newEngine
  if !keepRunning then
    let reaped ← e.reapExpired none
    if !reaped.isEmpty then
      let names := ", ".intercalate reaped
      j.write .info s!"Reaped {reaped.length} expired container(s): {names}"
  pure e

def SetupFailure.summary (f : SetupFailure) : String :=
  s!"  {f.testId}: {f.service} failed in step '{f.step}': {f.message}"

def endSession (e : Engine σ) (j : JournalAccess σ) : Act σ Unit := do
  let failures ← j.failures
  if !failures.isEmpty then
    let list := "\n".intercalate (failures.map (·.summary))
    e.around.diary.warning .fixtures s!"Service instances failed to start in these tests:\n{list}"
  e.daemon.close

def endCache (d : Diary σ) (close : InstanceId → EstateAct ρ κ σ Unit) :
    CacheAct ρ κ σ Unit := do
  let size ← Act.read fun s => s.1.length
  Act.outside (Estate.around (d.info .fixtures s!"Closing {size} cached instance(s)."))
  InstanceCache.close d close

/-- Starts an instance for a test.  A failing step is recorded in the journal, so that it can be
told from a failure of the test itself. -/
def startForTest (p : Provisioner η ρ κ σ) (j : JournalAccess σ) (testId : String)
    (s : Service η ρ κ σ) (o : StartOptions η) (runtime : Option (Runtime ρ σ))
    (register : InstanceId → EstateAct ρ κ σ Unit) : EstateAct ρ κ σ InstanceId := do
  match ← Act.attempt (start p s o runtime (some register)) with
  | .ok id => pure id
  | .error f =>
    match f.head with
    | .setup _ stage _ => Estate.around (j.record testId s.name stage.label f.message)
    | _ => pure ()
    Act.fail f

end Testbed
