import Testbed.Readiness.Polling
import Testbed.Scenario.Stub

/-!
# Waiting in a scenario

An endpoint is waited for whose probes are scripted.
-/

namespace Testbed.Scenario

set_option autoImplicit false

structure Wait where
  endpoint : String
  timeout : Num
  interval : Num
  maxBackoff : Num
  patience : Option Patience := none

def probeEndpoint (endpoint : String) : Act World Unit := do
  let moment ← Act.read (·.clock)
  World.ask (.probeEndpoint endpoint moment) .probeEndpoint

def Wait.polling (w : Wait) : Polling Num World where
  scale := numScale
  clock := World.surroundings.clock
  diary := World.diaryAccess
  endpoint := w.endpoint
  probe := probeEndpoint
  timeout := w.timeout
  interval := w.interval
  maxBackoff := w.maxBackoff
  isTransient := w.patience.map fun p => p.tolerates
  probeLimit := 1000000

end Testbed.Scenario
